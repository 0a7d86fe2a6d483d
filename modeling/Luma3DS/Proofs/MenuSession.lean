import Luma3DS.Spec.MenuSession
import Luma3DS.Proofs.ServiceSessions
import Luma3DS.Proofs.MenuShow

/-! `menuShow`'s loop with its calls. The calls a pass makes never change the
menu state: forgetting them gives `menuShowStep`, so everything proved of the
navigation holds of the whole loop, and `B` pressed without `A` always leads
out of it, after at most `0x81` passes. And over every run, whatever the keys
and the answers of the services, the only count of users that moves is that
of `mcu::HWC`: `menuDraw`'s `menuUpdateMcuInfo` pairs its session, while a
`SELECT` whose `mcuHwcInit` fails takes one user away. -/

namespace Luma

/-- The menu state a pass reaches, as `menuShowStep` reports it. -/
def MenuSessionStep.nav : MenuSessionStep → MenuShowStep
  | .next st => .next st.nav
  | .exit _ => .exit
  | .trap => .trap
  | .fault => .fault

@[simp] theorem menuDrawAndTest_nav (input : MenuInput) (env : MenuPassEnv) (st : MenuSession) :
    (menuDrawAndTest input env st).nav = endOfPass input st.nav := by
  unfold menuDrawAndTest endOfPass
  split <;> rfl

/-- Forgetting the calls, a pass is `menuShowStep`. -/
theorem menuShowPass_nav (tree : List Menu) (input : MenuInput) (env : MenuPassEnv) (st : MenuSession) :
    (menuShowPass tree input env st).nav = menuShowStep tree input st.nav := by
  unfold menuShowPass menuShowStep
  cases tree[st.nav.currentMenu]? with
  | none => rfl
  | some menu =>
    dsimp only
    by_cases hA : input.pressed &&& keyA ≠ 0
    · rw [if_pos hA, if_pos hA]
      cases menu.items[st.nav.selectedItem]? with
      | none => rfl
      | some item =>
        obtain ⟨action, m, v⟩ := item
        cases action with
        | method => exact menuDrawAndTest_nav _ _ _
        | menu =>
          rw [apply_ite MenuSessionStep.nav, menuDrawAndTest_nav]
          rfl
        | menuEnd => rfl
    rw [if_neg hA, if_neg hA]
    by_cases hB : input.pressed &&& keyB ≠ 0
    · rw [if_pos hB, if_pos hB, apply_ite MenuSessionStep.nav, apply_ite MenuSessionStep.nav, menuDrawAndTest_nav]
      rfl
    rw [if_neg hB, if_neg hB]
    by_cases hD : input.pressed &&& keyDown ≠ 0
    · rw [if_pos hD, if_pos hD]
      cases menuMoveCursor menu input.visible st.nav.selectedItem 1 with
      | none => rfl
      | some i => exact menuDrawAndTest_nav _ _ _
    rw [if_neg hD, if_neg hD]
    by_cases hU : input.pressed &&& keyUp ≠ 0
    · rw [if_pos hU, if_pos hU]
      cases menuMoveCursor menu input.visible st.nav.selectedItem (-1) with
      | none => rfl
      | some i => exact menuDrawAndTest_nav _ _ _
    rw [if_neg hU, if_neg hU, apply_ite MenuSessionStep.nav, menuDrawAndTest_nav, menuDrawAndTest_nav]
    exact ite_self _

def MenuSessionStep.session? : MenuSessionStep → Option MenuSession
  | .next st | .exit st => some st
  | .trap | .fault => none

theorem MenuSessionStep.nav_eq_next {r : MenuSessionStep} {s : MenuShowState} (h : r.nav = .next s) :
    ∃ st, r = .next st ∧ st.nav = s := by
  cases r with
  | next st => exact ⟨st, rfl, MenuShowStep.next.inj h⟩
  | exit _ | trap | fault => cases h

theorem MenuSessionStep.nav_eq_exit {r : MenuSessionStep} (h : r.nav = .exit) : ∃ st, r = .exit st := by
  cases r with
  | exit st => exact ⟨st, rfl⟩
  | next _ | trap | fault => cases h

theorem menuShowStep_of_keyB {tree : List Menu} {root : MenuId} {s : MenuShowState} (hinv : NavInv tree root s)
    {input : MenuInput} (hA : input.pressed &&& keyA = 0) (hB : input.pressed &&& keyB ≠ 0) :
    menuShowStep tree input s = if 0 < s.nbPreviousMenus then endOfPass input s.backToParent else .exit := by
  obtain ⟨menu, hm, -⟩ := hinv.cursor
  have hnb := hinv.nb_le
  simp only [menuShowStep, hm, if_neg (not_not.mpr hA), if_pos hB, gt_iff_lt]
  split
  · rw [if_pos (show s.nbPreviousMenus - 1 < 0x80 by omega)]
  · rfl

theorem menuShowPass_back {tree : List Menu} {root : MenuId} {st : MenuSession} (hinv : NavInv tree root st.nav)
    (h0 : 0 < st.nav.nbPreviousMenus) {input : MenuInput} (hA : input.pressed &&& keyA = 0)
    (hB : input.pressed &&& keyB ≠ 0) (env : MenuPassEnv) :
    (input.menuShouldExit = false →
      ∃ st₁, menuShowPass tree input env st = .next st₁ ∧ st₁.nav = st.nav.backToParent) ∧
    (input.menuShouldExit = true → ∃ st₁, menuShowPass tree input env st = .exit st₁) := by
  have h := menuShowStep_of_keyB hinv hA hB
  rw [if_pos h0, ← menuShowPass_nav tree input env st] at h
  unfold endOfPass at h
  refine ⟨fun hx => ?_, fun hx => ?_⟩
  · rw [if_neg (by simp [hx])] at h
    exact MenuSessionStep.nav_eq_next h
  · rw [if_pos hx] at h
    exact MenuSessionStep.nav_eq_exit h

section

variable {tree : List Menu} {root : MenuId} (htree : MenuTreeOk tree root)
include htree

/-- The whole loop with its calls never traps or faults, and keeps to states the navigation reaches.
-/
theorem menuShowRun_safe (passes : List (MenuInput × MenuPassEnv)) {st : MenuSession}
    (hs : MenuShowReachable tree root st.nav) :
    menuShowRun tree passes st ≠ .trap ∧ menuShowRun tree passes st ≠ .fault ∧
      ∀ st', menuShowRun tree passes st = .next st' → MenuShowReachable tree root st'.nav := by
  induction passes generalizing st with
  | nil => exact ⟨nofun, nofun, fun st' h => by cases h; exact hs⟩
  | cons p passes ih =>
    obtain ⟨input, env⟩ := p
    have hnav := menuShowPass_nav tree input env st
    have hsafe := menuShowStep_safe (hs.navInv htree) input
    simp only [menuShowRun]
    cases hp : menuShowPass tree input env st with
    | next st₁ => exact ih (.step hs (hp ▸ hnav).symm)
    | exit st₁ => exact ⟨nofun, nofun, nofun⟩
    | trap => exact absurd (hp ▸ hnav).symm hsafe.1
    | fault => exact absurd (hp ▸ hnav).symm hsafe.2

theorem menuShowRun_back_prefix (passes : List (MenuInput × MenuPassEnv)) {st : MenuSession}
    (hs : MenuShowReachable tree root st.nav)
    (hB : ∀ p ∈ passes, p.1.pressed &&& keyA = 0 ∧ p.1.pressed &&& keyB ≠ 0)
    {k : Nat} (hk0 : 0 < k) (hk : k ≤ st.nav.nbPreviousMenus) (hlen : k ≤ passes.length) :
    (∃ st', menuShowRun tree (passes.take k) st = .next st' ∧
      st'.nav.nbPreviousMenus = st.nav.nbPreviousMenus - k ∧
      st'.nav.currentMenu = st.nav.previousMenus (st.nav.nbPreviousMenus - k) ∧
      st'.nav.selectedItem = st.nav.previousSelectedItems (st.nav.nbPreviousMenus - k)) ∨
    ((∃ p ∈ passes.take k, p.1.menuShouldExit = true) ∧ ∃ st', menuShowRun tree (passes.take k) st = .exit st') := by
  induction passes generalizing st k with
  | nil => exact absurd hlen (by simp only [List.length_nil]; omega)
  | cons p passes ih =>
    obtain ⟨input, env⟩ := p
    obtain ⟨hA, hB₁⟩ := hB _ (List.mem_cons_self _ _)
    obtain ⟨k, rfl⟩ : ∃ k', k = k' + 1 := ⟨k - 1, by omega⟩
    have hpass := menuShowPass_back (hs.navInv htree) (by omega) hA hB₁ env
    rw [List.take_succ_cons]
    cases hx : input.menuShouldExit
    · obtain ⟨st₁, hp, hnav⟩ := hpass.1 hx
      have hs₁ : MenuShowReachable tree root st₁.nav :=
        .step hs ((menuShowPass_nav tree input env st).symm.trans (congrArg MenuSessionStep.nav hp))
      simp only [menuShowRun, hp]
      rcases Nat.eq_zero_or_pos k with rfl | hk'
      · exact .inl ⟨st₁, rfl, by rw [hnav]; exact ⟨rfl, rfl, rfl⟩⟩
      have hnb₁ : st₁.nav.nbPreviousMenus = st.nav.nbPreviousMenus - 1 := by rw [hnav]; rfl
      have hnb : st₁.nav.nbPreviousMenus - k = st.nav.nbPreviousMenus - (k + 1) := by omega
      rcases ih hs₁ (fun p hp => hB p (List.mem_cons_of_mem _ hp)) hk' (by omega)
          (by simp only [List.length_cons] at hlen; omega) with
        ⟨st', hr, h1, h2, h3⟩ | ⟨⟨q, hq, hqx⟩, st', hr⟩
      · refine .inl ⟨st', hr, h1.trans hnb, ?_, ?_⟩
        · rw [h2, hnb, hnav]; rfl
        · rw [h3, hnb, hnav]; rfl
      · exact .inr ⟨⟨q, List.mem_cons_of_mem _ hq, hqx⟩, st', hr⟩
    · obtain ⟨st₁, hp⟩ := hpass.2 hx
      exact .inr ⟨⟨(input, env), List.mem_cons_self _ _, hx⟩, st₁, by simp only [menuShowRun, hp]⟩

/-- `B` without `A` goes back one menu a pass and leaves the loop within `nbPreviousMenus + 1 ≤
0x81` passes. -/
theorem menuShowRun_back_exits (passes : List (MenuInput × MenuPassEnv)) {st : MenuSession}
    (hs : MenuShowReachable tree root st.nav)
    (hB : ∀ p ∈ passes, p.1.pressed &&& keyA = 0 ∧ p.1.pressed &&& keyB ≠ 0)
    (hlen : st.nav.nbPreviousMenus < passes.length) :
    (∀ k, 0 < k → k ≤ st.nav.nbPreviousMenus →
      (∃ st', menuShowRun tree (passes.take k) st = .next st' ∧
        st'.nav.nbPreviousMenus = st.nav.nbPreviousMenus - k ∧
        st'.nav.currentMenu = st.nav.previousMenus (st.nav.nbPreviousMenus - k) ∧
        st'.nav.selectedItem = st.nav.previousSelectedItems (st.nav.nbPreviousMenus - k)) ∨
      ((∃ p ∈ passes.take k, p.1.menuShouldExit = true) ∧
        ∃ st', menuShowRun tree (passes.take k) st = .exit st')) ∧
    st.nav.nbPreviousMenus + 1 ≤ 0x81 ∧ ∃ st', menuShowRun tree passes st = .exit st' := by
  refine ⟨fun k hk0 hk => menuShowRun_back_prefix htree passes hs hB hk0 hk (by omega),
    Nat.succ_le_succ (hs.navInv htree).nb_le, ?_⟩
  induction passes generalizing st with
  | nil => cases hlen
  | cons p passes ih =>
    obtain ⟨input, env⟩ := p
    obtain ⟨hA, hB₁⟩ := hB _ (List.mem_cons_self _ _)
    simp only [menuShowRun]
    rcases Nat.eq_zero_or_pos st.nav.nbPreviousMenus with h0 | h0
    · have h := menuShowStep_of_keyB (hs.navInv htree) hA hB₁
      rw [if_neg (by omega), ← menuShowPass_nav tree input env st] at h
      obtain ⟨st₁, hp⟩ := MenuSessionStep.nav_eq_exit h
      exact ⟨st₁, by rw [hp]⟩
    have hpass := menuShowPass_back (hs.navInv htree) h0 hA hB₁ env
    cases hx : input.menuShouldExit
    · obtain ⟨st₁, hp, hnav⟩ := hpass.1 hx
      have hs₁ : MenuShowReachable tree root st₁.nav :=
        .step hs ((menuShowPass_nav tree input env st).symm.trans (congrArg MenuSessionStep.nav hp))
      rw [hp]
      exact ih hs₁ (fun p hp => hB p (List.mem_cons_of_mem _ hp))
        (by simp only [hnav, MenuShowState.backToParent_nbPreviousMenus, List.length_cons] at hlen ⊢; omega)
    · obtain ⟨st₁, hp⟩ := hpass.2 hx
      exact ⟨st₁, by rw [hp]⟩

end

def sampleSession : MenuSession := ⟨⟨0, 0, 0, fun _ => 0, fun _ => 0⟩, ⟨false, 0, (0, 0, 0), 0⟩, serviceStart⟩

def selectEnterBack : List (MenuInput × MenuPassEnv) :=
  [(⟨keySelect, fun _ => true, false⟩, ⟨id, mcuUnreachable, 0, mcuUnreachable⟩),
   (⟨keyA, fun _ => true, false⟩, ⟨id, mcuUnreachable, 0, mcuUnreachable⟩),
   (⟨keyB, fun _ => true, false⟩, ⟨id, mcuUnreachable, 0, mcuUnreachable⟩)]

theorem menuShowRun_safe_sampleTree :
    MenuTreeOk sampleMenuTree 0 ∧ MenuShowReachable sampleMenuTree 0 sampleSession.nav ∧
      menuShowRun sampleMenuTree selectEnterBack sampleSession ≠ .trap ∧
      menuShowRun sampleMenuTree selectEnterBack sampleSession ≠ .fault ∧
      ∀ st', menuShowRun sampleMenuTree selectEnterBack sampleSession = .next st' →
        MenuShowReachable sampleMenuTree 0 st'.nav :=
  have htree := sampleMenuTree_ok
  have hs : MenuShowReachable sampleMenuTree 0 sampleSession.nav := @MenuShowReachable.start _ _ (fun _ => true) _ _ _ rfl
  ⟨htree, hs, menuShowRun_safe htree selectEnterBack hs⟩

def backTwice : List (MenuInput × MenuPassEnv) :=
  [(⟨keyB, fun _ => true, false⟩, ⟨id, mcuUnreachable, 0, mcuUnreachable⟩), (⟨keyB, fun _ => true, false⟩, ⟨id, mcuUnreachable, 0, mcuUnreachable⟩)]

theorem menuShowRun_back_exits_submenu :
    MenuTreeOk sampleMenuTree 0 ∧
    MenuShowReachable sampleMenuTree 0 (sampleSession.nav.openSubmenu ⟨.menu, 1, false⟩) ∧
    (∀ p ∈ backTwice, p.1.pressed &&& keyA = 0 ∧ p.1.pressed &&& keyB ≠ 0) ∧
    (sampleSession.nav.openSubmenu ⟨.menu, 1, false⟩).nbPreviousMenus < backTwice.length ∧
    (∀ k, 0 < k → k ≤ (sampleSession.nav.openSubmenu ⟨.menu, 1, false⟩).nbPreviousMenus →
      (∃ st', menuShowRun sampleMenuTree (backTwice.take k)
          { sampleSession with nav := sampleSession.nav.openSubmenu ⟨.menu, 1, false⟩ } = .next st' ∧
        st'.nav.nbPreviousMenus = (sampleSession.nav.openSubmenu ⟨.menu, 1, false⟩).nbPreviousMenus - k ∧
        st'.nav.currentMenu = (sampleSession.nav.openSubmenu ⟨.menu, 1, false⟩).previousMenus
          ((sampleSession.nav.openSubmenu ⟨.menu, 1, false⟩).nbPreviousMenus - k) ∧
        st'.nav.selectedItem = (sampleSession.nav.openSubmenu ⟨.menu, 1, false⟩).previousSelectedItems
          ((sampleSession.nav.openSubmenu ⟨.menu, 1, false⟩).nbPreviousMenus - k)) ∨
      ((∃ p ∈ backTwice.take k, p.1.menuShouldExit = true) ∧ ∃ st', menuShowRun sampleMenuTree (backTwice.take k)
          { sampleSession with nav := sampleSession.nav.openSubmenu ⟨.menu, 1, false⟩ } = .exit st')) ∧
    (sampleSession.nav.openSubmenu ⟨.menu, 1, false⟩).nbPreviousMenus + 1 ≤ 0x81 ∧
    ∃ st', menuShowRun sampleMenuTree backTwice
      { sampleSession with nav := sampleSession.nav.openSubmenu ⟨.menu, 1, false⟩ } = .exit st' := by
  have htree := sampleMenuTree_ok
  have hs₀ : MenuShowReachable sampleMenuTree 0 sampleSession.nav :=
    @MenuShowReachable.start _ _ (fun _ => true) _ _ _ rfl
  have hs₁ : MenuShowReachable sampleMenuTree 0 (sampleSession.nav.openSubmenu ⟨.menu, 1, false⟩) :=
    @MenuShowReachable.step _ _ _ _ ⟨keyA, fun _ => true, false⟩ hs₀ rfl
  have hB : ∀ p ∈ backTwice, p.1.pressed &&& keyA = 0 ∧ p.1.pressed &&& keyB ≠ 0 := by decide
  have hlen : (sampleSession.nav.openSubmenu ⟨.menu, 1, false⟩).nbPreviousMenus < backTwice.length := by decide
  exact ⟨htree, hs₁, hB, hlen,
    @menuShowRun_back_exits _ _ htree backTwice { sampleSession with nav := _ } hs₁ hB hlen⟩

/-- The pass reaches `menuToggleLEDs` with `SELECT`, and `mcuHwcInit` fails there. -/
def leaksMcuHwc (p : MenuInput × MenuPassEnv) : Bool :=
  p.1.pressed &&& keyA == 0 && p.1.pressed &&& keyB == 0 && p.1.pressed &&& keyDown == 0 &&
    p.1.pressed &&& keyUp == 0 && p.1.pressed &&& keySelect != 0 && rFailed p.2.toggle.mcuHwcInit

theorem menuToggleLEDs_refCount (E : McuEnv) (garbage : U8) (g : McuGlobals) (s : ServiceState) :
    (menuToggleLEDs E garbage g s).2.refCount =
      if rFailed E.mcuHwcInit then Function.update s.refCount .mcuHwc (s.refCount .mcuHwc - 1) else s.refCount := by
  unfold menuToggleLEDs ServiceState.init ServiceState.exit ServiceState.call
  cases rFailed E.mcuHwcInit <;> simp

theorem menuDrawAndTest_refCount {input : MenuInput} {env : MenuPassEnv} {st st' : MenuSession}
    (h : (menuDrawAndTest input env st).session? = some st') : st'.services.refCount = st.services.refCount := by
  obtain ⟨_, _, _, _, hb⟩ := menuUpdateMcuInfo_balanced env.draw st.mcu st.services
  unfold menuDrawAndTest at h
  split at h <;> cases h <;> exact hb

theorem leaksMcuHwc_iff {input : MenuInput} {env : MenuPassEnv} :
    leaksMcuHwc (input, env) = true ↔ input.pressed &&& keyA = 0 ∧ input.pressed &&& keyB = 0 ∧
      input.pressed &&& keyDown = 0 ∧ input.pressed &&& keyUp = 0 ∧ input.pressed &&& keySelect ≠ 0 ∧
      rFailed env.toggle.mcuHwcInit = true := by
  simp [leaksMcuHwc, and_assoc]

theorem menuShowPass_refCount {tree : List Menu} {input : MenuInput} {env : MenuPassEnv} {st st' : MenuSession}
    (hm : ∀ s, (env.method s).refCount = s.refCount) (h : (menuShowPass tree input env st).session? = some st') :
    st'.services.refCount = Function.update st.services.refCount .mcuHwc
      (st.services.refCount .mcuHwc - if leaksMcuHwc (input, env) then 1 else 0) := by
  unfold menuShowPass at h
  generalize tree[st.nav.currentMenu]? = menu at h
  cases menu with
  | none => cases h
  | some menu =>
  dsimp only at h
  by_cases hl : leaksMcuHwc (input, env) = true
  · obtain ⟨hA, hB, hD, hU, hS, hr⟩ := leaksMcuHwc_iff.mp hl
    rw [if_neg (not_not.mpr hA), if_neg (not_not.mpr hB), if_neg (not_not.mpr hD), if_neg (not_not.mpr hU),
      if_pos hS] at h
    rw [if_pos hl, menuDrawAndTest_refCount h, menuToggleLEDs_refCount, if_pos hr]
  rw [if_neg hl, sub_zero, Function.update_eq_self]
  by_cases hA : input.pressed &&& keyA ≠ 0
  · -- `A`: the method, a submenu, or `__builtin_trap`
    rw [if_pos hA] at h
    generalize menu.items[st.nav.selectedItem]? = item at h
    cases item with
    | none => cases h
    | some item =>
      dsimp only at h
      generalize item.actionType = action at h
      cases action with
      | method => exact (menuDrawAndTest_refCount h).trans (hm _)
      | menu =>
        by_cases hn : st.nav.nbPreviousMenus < 0x80
        · rw [if_pos hn] at h
          exact (menuDrawAndTest_refCount h :)
        · rw [if_neg hn] at h
          cases h
      | menuEnd => cases h
  rw [if_neg hA] at h
  by_cases hB : input.pressed &&& keyB ≠ 0
  · -- `B`: back to the parent, or out of the loop
    rw [if_pos hB] at h
    by_cases h0 : st.nav.nbPreviousMenus > 0
    · rw [if_pos h0] at h
      by_cases hn : st.nav.nbPreviousMenus - 1 < 0x80
      · rw [if_pos hn] at h
        exact (menuDrawAndTest_refCount h :)
      · rw [if_neg hn] at h
        cases h
    · rw [if_neg h0] at h
      cases h
      rfl
  rw [if_neg hB] at h
  by_cases hD : input.pressed &&& keyDown ≠ 0
  · rw [if_pos hD] at h
    generalize menuMoveCursor menu input.visible st.nav.selectedItem 1 = r at h
    cases r with
    | none => cases h
    | some r => exact (menuDrawAndTest_refCount h :)
  rw [if_neg hD] at h
  by_cases hU : input.pressed &&& keyUp ≠ 0
  · rw [if_pos hU] at h
    generalize menuMoveCursor menu input.visible st.nav.selectedItem (-1) = r at h
    cases r with
    | none => cases h
    | some r => exact (menuDrawAndTest_refCount h :)
  rw [if_neg hU] at h
  by_cases hS : input.pressed &&& keySelect ≠ 0
  · -- `SELECT`, with `mcuHwcInit` succeeding
    rw [if_pos hS] at h
    rw [menuDrawAndTest_refCount h, menuToggleLEDs_refCount,
      if_neg fun hr => hl (leaksMcuHwc_iff.mpr ⟨not_not.mp hA, not_not.mp hB, not_not.mp hD, not_not.mp hU, hS, hr⟩)]
  rw [if_neg hS] at h
  exact menuDrawAndTest_refCount h

theorem update_mcuHwc_twice (f : Service → Int) (a b : Int) :
    Function.update (Function.update f .mcuHwc (f .mcuHwc - a)) .mcuHwc
      (Function.update f .mcuHwc (f .mcuHwc - a) .mcuHwc - b) = Function.update f .mcuHwc (f .mcuHwc - (b + a)) := by
  rw [Function.update_idem, Function.update_same, sub_sub, add_comm a b]

/-- Over every run, the only count of users that moves is `mcu::HWC`'s, one lower for each pass that
leaks it. -/
theorem menuShowRun_refCount {tree : List Menu} {passes : List (MenuInput × MenuPassEnv)}
    (hm : ∀ p ∈ passes, ∀ s, (p.2.method s).refCount = s.refCount) {st st' : MenuSession} :
    (menuShowRun tree passes st = .next st' → st'.services.refCount =
      Function.update st.services.refCount .mcuHwc (st.services.refCount .mcuHwc - passes.countP leaksMcuHwc)) ∧
    (menuShowRun tree passes st = .exit st' → ∃ k, st'.services.refCount =
      Function.update st.services.refCount .mcuHwc
        (st.services.refCount .mcuHwc - (passes.take k).countP leaksMcuHwc)) := by
  induction passes generalizing st with
  | nil => exact ⟨fun h => by cases h; simp, nofun⟩
  | cons p passes ih =>
    obtain ⟨input, env⟩ := p
    have hpass {st₁ : MenuSession} (h : (menuShowPass tree input env st).session? = some st₁) :=
      menuShowPass_refCount (hm _ (List.mem_cons_self _ _)) h
    simp only [menuShowRun]
    cases hp : menuShowPass tree input env st with
    | next st₁ =>
      obtain ⟨ihn, ihe⟩ := @ih (fun p h => hm p (List.mem_cons_of_mem _ h)) st₁
      have h₁ := hpass (by rw [hp]; rfl)
      refine ⟨fun h => ?_, fun h => ?_⟩
      · rw [ihn h, h₁, update_mcuHwc_twice]
        push_cast [List.countP_cons]
        rfl
      · obtain ⟨k, hk⟩ := ihe h
        refine ⟨k + 1, ?_⟩
        rw [hk, h₁, update_mcuHwc_twice, List.take_succ_cons]
        push_cast [List.countP_cons]
        rfl
    | exit st₁ =>
      refine ⟨nofun, fun h => ⟨1, ?_⟩⟩
      cases h
      rw [hpass (by rw [hp]; rfl)]
      simp [List.countP_cons]
    | trap => exact ⟨nofun, nofun⟩
    | fault => exact ⟨nofun, nofun⟩

theorem menuShowRun_refCount_selectEnterBack :
    ∃ st', menuShowRun sampleMenuTree selectEnterBack sampleSession = .next st' ∧
      st'.services.refCount = Function.update sampleSession.services.refCount .mcuHwc
        (sampleSession.services.refCount .mcuHwc - selectEnterBack.countP leaksMcuHwc) ∧
      selectEnterBack.countP leaksMcuHwc = 1 :=
  have hm : ∀ p ∈ selectEnterBack, ∀ s, (p.2.method s).refCount = s.refCount := by
    simp only [selectEnterBack, List.mem_cons, List.mem_nil_iff, or_false, forall_eq_or_imp, forall_eq]
    exact ⟨fun _ => rfl, fun _ => rfl, fun _ => rfl⟩
  ⟨_, rfl, (@menuShowRun_refCount sampleMenuTree _ hm sampleSession _).1 rfl, rfl⟩

end Luma
