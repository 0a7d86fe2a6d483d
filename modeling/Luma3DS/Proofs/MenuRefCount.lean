import Luma3DS.Spec.Menu

/-! `menuRefCount` over every interleaving of the two threads' pairs. The
framebuffer is set up only at `menuRefCount = 1`. But `menuEnter` counts only
the thread that sets the menu up, while every `menuLeave` uncounts: a thread
whose `menuEnter` found the menu open leaves it closed under the other thread,
and the count then drops below zero, where no `menuEnter` opens the menu. One
thread is enough to get there: a pair whose `menuEnter` found `menuShouldExit`
set or failed to allocate ends at `-1`, and from a count that is not 0 no
`menuEnter` sets the menu up until as many leaves as the count have run. -/

namespace Luma

section

variable (s : MenuState)

/-- `menuEnter` either sets the menu up, at `menuRefCount = 1`, or changes nothing. -/
theorem menuEnter_eq (allocOk : Bool) :
    menuEnter allocOk s =
      if menuEnterSetsUp allocOk s then { s with menuRefCount := 1, framebufferSetUp := true } else s := by
  rcases s with ⟨c, fb, x⟩
  unfold menuEnter menuEnterSetsUp
  by_cases h0 : c = 0#32
  · subst h0; cases x <;> cases allocOk <;> rfl
  · cases x <;> cases allocOk <;> simp [h0]

/-- The framebuffer is set up only while `menuRefCount = 1`. -/
def FramebufferCounted (s : MenuState) : Prop := s.framebufferSetUp = true → s.menuRefCount = 1

theorem menuEnter_counted (h : FramebufferCounted s) (allocOk : Bool) :
    FramebufferCounted (menuEnter allocOk s) := by
  rw [menuEnter_eq]
  split
  · intro; rfl
  · exact h

theorem menuLeave_counted (h : FramebufferCounted s) : FramebufferCounted (menuLeave s) := by
  unfold menuLeave FramebufferCounted
  dsimp only
  split
  · intro hf; cases hf
  · next h1 => exact fun hf => absurd (by rw [h hf]; decide) h1

end

theorem menuSystemStep_counted {sys sys' : MenuSystem} {e : MenuEvent} (h : FramebufferCounted sys.globals)
    (hs : menuSystemStep sys e = some sys') : FramebufferCounted sys'.globals := by
  cases e with
  | enter t allocOk =>
    simp only [menuSystemStep] at hs
    split at hs <;> cases hs
    exact menuEnter_counted _ h allocOk
  | leave t =>
    simp only [menuSystemStep] at hs
    split at hs <;> cases hs
    exact menuLeave_counted _ h
  | setMenuShouldExit b =>
    cases hs
    exact h

/-- Over every interleaving of the two threads, the framebuffer is set up only while `menuRefCount =
1`. -/
theorem menuSystemRun_counted {sys sys' : MenuSystem} {es : List MenuEvent}
    (h : FramebufferCounted sys.globals) (hr : menuSystemRun sys es = some sys') :
    FramebufferCounted sys'.globals := by
  induction es generalizing sys with
  | nil => cases hr; exact h
  | cons e es ih =>
    simp only [menuSystemRun, Option.bind_eq_some] at hr
    obtain ⟨sys₁, hs, hr⟩ := hr
    exact ih (menuSystemStep_counted h hs) hr

def bothThreadsRun : List MenuEvent :=
  [.enter .menuThread true, .enter .errDisp true, .leave .errDisp, .leave .menuThread]

theorem menuSystemRun_counted_from_init :
    FramebufferCounted menuSystemInit.globals ∧
      ∃ sys', menuSystemRun menuSystemInit bothThreadsRun = some sys' ∧ FramebufferCounted sys'.globals := by
  have h : FramebufferCounted menuSystemInit.globals := fun h => absurd h Bool.false_ne_true
  exact ⟨h, _, rfl, @menuSystemRun_counted menuSystemInit _ bothThreadsRun h rfl⟩

/-- The error thread's pair inside the menu thread's frees the framebuffer in use and leaves the
count at -1. -/
theorem menuLeave_frees_framebuffer_in_use (sys : MenuSystem) (hq : ∀ t, sys.phase t = none)
    (h0 : sys.globals.menuRefCount = 0) (hx : sys.globals.menuShouldExit = false) :
    ∃ sys₁ sys₂,
      menuSystemRun sys [.enter .menuThread true, .enter .errDisp true, .leave .errDisp] = some sys₁ ∧
      sys₁.phase .menuThread = some true ∧ sys₁.globals.framebufferSetUp = false ∧
      sys₁.globals.menuRefCount = 0 ∧
      menuSystemStep sys₁ (.leave .menuThread) = some sys₂ ∧ (∀ t, sys₂.phase t = none) ∧
      sys₂.globals.menuRefCount.toInt = -1 ∧
      ∀ t allocOk, ∃ sys₃, menuSystemStep sys₂ (.enter t allocOk) = some sys₃ ∧
        sys₃.phase t = some false ∧ sys₃.globals.framebufferSetUp = false := by
  rcases sys with ⟨⟨c, fb, x⟩, phase⟩
  obtain rfl : phase = fun _ => none := funext hq
  simp only at h0 hx
  subst h0 hx
  cases fb <;>
  refine ⟨_, _, rfl, by decide, by decide, by decide, rfl, fun t => by cases t <;> decide, by decide,
    fun t allocOk => by cases t <;> cases allocOk <;> exact ⟨_, rfl, by decide, by decide⟩⟩

theorem menuLeave_frees_framebuffer_at_start :
    (∀ t, menuSystemInit.phase t = none) ∧ menuSystemInit.globals.menuRefCount = 0 ∧
    menuSystemInit.globals.menuShouldExit = false ∧
    ∃ sys₁ sys₂,
      menuSystemRun menuSystemInit [.enter .menuThread true, .enter .errDisp true, .leave .errDisp] = some sys₁ ∧
      sys₁.phase .menuThread = some true ∧ sys₁.globals.framebufferSetUp = false ∧
      sys₁.globals.menuRefCount = 0 ∧
      menuSystemStep sys₁ (.leave .menuThread) = some sys₂ ∧ (∀ t, sys₂.phase t = none) ∧
      sys₂.globals.menuRefCount.toInt = -1 ∧
      ∀ t allocOk, ∃ sys₃, menuSystemStep sys₂ (.enter t allocOk) = some sys₃ ∧
        sys₃.phase t = some false ∧ sys₃.globals.framebufferSetUp = false :=
  ⟨fun _ => rfl, rfl, rfl, menuLeave_frees_framebuffer_in_use menuSystemInit (fun _ => rfl) rfl rfl⟩

def leaveCount (es : List MenuEvent) : Nat :=
  es.countP fun
    | .leave _ => true
    | _ => false

theorem toNat_sub_one {c : U32} (h : 1 ≤ c.toNat) : (c - 1).toNat = c.toNat - 1 :=
  BitVec.toNat_sub_of_le (BitVec.le_def.mpr h)

theorem menuLeave_of_one_lt {s : MenuState} (h : 1 < s.menuRefCount.toNat) :
    menuLeave s = { s with menuRefCount := s.menuRefCount - 1 } ∧
      (s.menuRefCount - 1).toNat = s.menuRefCount.toNat - 1 := by
  have hsub := toNat_sub_one (Nat.le_of_lt h)
  have hne : s.menuRefCount - 1#32 ≠ 0#32 := fun h0 => by
    have h1 : (s.menuRefCount - 1).toNat = 0 := congrArg BitVec.toNat h0
    omega
  exact ⟨by simp [menuLeave, hne], hsub⟩

/-- With the count above the leaves to come, a step counts no user and no `menuEnter` sets the menu
up. -/
theorem menuSystemStep_uncounted {sys sys' : MenuSystem} {e : MenuEvent} (hs : menuSystemStep sys e = some sys')
    (hc : leaveCount [e] < sys.globals.menuRefCount.toNat) :
    sys'.globals.menuRefCount.toNat = sys.globals.menuRefCount.toNat - leaveCount [e] ∧
      sys'.globals.framebufferSetUp = sys.globals.framebufferSetUp ∧
      ∀ t, sys'.phase t = some true → sys.phase t = some true := by
  cases e with
  | enter t allocOk =>
    simp only [menuSystemStep] at hs
    split at hs
    · cases hs
    cases hs
    have hne : menuEnterSetsUp allocOk sys.globals = false := by
      have : sys.globals.menuRefCount ≠ 0#32 := fun h => by rw [h] at hc; exact Nat.lt_irrefl 0 hc
      simp [menuEnterSetsUp, this]
    refine ⟨by simp [menuEnter_eq, hne, leaveCount], by simp [menuEnter_eq, hne], fun t' ht => ?_⟩
    by_cases h : t' = t
    · subst h
      simp [hne] at ht
    · simpa [Function.update_noteq h] using ht
  | leave t =>
    simp only [menuSystemStep] at hs
    split at hs
    · cases hs
      obtain ⟨hl, hsub⟩ := menuLeave_of_one_lt (show 1 < sys.globals.menuRefCount.toNat from hc)
      refine ⟨by rw [hl]; exact hsub, by rw [hl], fun t' ht => ?_⟩
      by_cases h : t' = t
      · subst h
        simp at ht
      · simpa [Function.update_noteq h] using ht
    · cases hs
  | setMenuShouldExit b =>
    cases hs
    exact ⟨rfl, rfl, fun _ h => h⟩

theorem menuSystemRun_uncounted {sys sys' : MenuSystem} {es : List MenuEvent}
    (hc : leaveCount es < sys.globals.menuRefCount.toNat) (hr : menuSystemRun sys es = some sys') :
    sys'.globals.menuRefCount.toNat = sys.globals.menuRefCount.toNat - leaveCount es ∧
      sys'.globals.framebufferSetUp = sys.globals.framebufferSetUp ∧
      ∀ t, sys'.phase t = some true → sys.phase t = some true := by
  induction es generalizing sys with
  | nil => cases hr; exact ⟨rfl, rfl, fun _ h => h⟩
  | cons e es ih =>
    simp only [menuSystemRun, Option.bind_eq_some] at hr
    obtain ⟨sys₁, hs, hr⟩ := hr
    have hsplit : leaveCount (e :: es) = leaveCount [e] + leaveCount es := by
      simp only [leaveCount, List.countP_cons, List.countP_nil]
      omega
    rw [hsplit] at hc ⊢
    obtain ⟨h₁, f₁, p₁⟩ := menuSystemStep_uncounted hs (Nat.lt_of_le_of_lt (Nat.le_add_right _ _) hc)
    obtain ⟨h₂, f₂, p₂⟩ := ih (by rw [h₁]; omega) hr
    exact ⟨by rw [h₂, h₁, Nat.sub_sub], f₂.trans f₁, fun t h => p₁ t (p₂ t h)⟩

/-- One pair whose `menuEnter` did not count leaves the count at -1, and then no interleaving sets
the menu up. -/
theorem menuPair_uncounted_disables_menu {sys : MenuSystem} (hq : ∀ t, sys.phase t = none)
    (h0 : sys.globals.menuRefCount = 0) (hfb : sys.globals.framebufferSetUp = false) (t : MenuUser)
    (allocOk : Bool) :
    ∃ sys₁, menuSystemRun sys [.enter t allocOk, .leave t] = some sys₁ ∧ (∀ t', sys₁.phase t' = none) ∧
      sys₁.globals.framebufferSetUp = false ∧
      (menuEnterSetsUp allocOk sys.globals = true → sys₁.globals.menuRefCount = 0) ∧
      (menuEnterSetsUp allocOk sys.globals = false → sys₁.globals.menuRefCount.toInt = -1 ∧
        ∀ es sys₂, leaveCount es < 2 ^ 32 - 1 → menuSystemRun sys₁ es = some sys₂ →
          sys₂.globals.framebufferSetUp = false ∧ ∀ t', sys₂.phase t' ≠ some true) := by
  rcases sys with ⟨⟨c, fb, x⟩, phase⟩
  obtain rfl : phase = fun _ => none := funext hq
  simp only at h0 hfb
  subst h0 hfb
  have hphase : ∀ b t', Function.update (Function.update (fun _ : MenuUser => (none : Option Bool)) t (some b)) t
      none t' = none := by
    intro b t'
    by_cases h : t' = t
    · subst h; simp
    · simp [Function.update_noteq h]
  have hstuck : ∀ sys₁ : MenuSystem, (∀ t', sys₁.phase t' = none) →
      sys₁.globals.framebufferSetUp = false → sys₁.globals.menuRefCount.toNat = 2 ^ 32 - 1 →
      ∀ es sys₂, leaveCount es < 2 ^ 32 - 1 → menuSystemRun sys₁ es = some sys₂ →
        sys₂.globals.framebufferSetUp = false ∧ ∀ t', sys₂.phase t' ≠ some true :=
    fun sys₁ hn hf hc es sys₂ hl hr =>
      have h := menuSystemRun_uncounted (hc ▸ hl) hr
      ⟨h.2.1.trans hf, fun t' ht => by simpa [hn t'] using h.2.2 t' ht⟩
  cases x <;> cases allocOk <;> cases t <;> refine ⟨_, rfl, hphase _, rfl, fun h => ?_, fun h => ?_⟩
  all_goals first
    | exact absurd h (by decide)
    | rfl
    | exact ⟨by decide, hstuck _ (hphase _) rfl rfl⟩

theorem menuPair_allocation_failure_at_start :
    ∃ sys₁, menuSystemRun menuSystemInit [.enter .menuThread false, .leave .menuThread] = some sys₁ ∧
      sys₁.globals.menuRefCount.toInt = -1 ∧
      ∀ es sys₂, leaveCount es < 2 ^ 32 - 1 → menuSystemRun sys₁ es = some sys₂ →
        sys₂.globals.framebufferSetUp = false ∧ ∀ t', sys₂.phase t' ≠ some true := by
  obtain ⟨sys₁, hr, -, -, -, h⟩ :=
    @menuPair_uncounted_disables_menu menuSystemInit (fun _ => rfl) rfl rfl .menuThread false
  exact ⟨sys₁, hr, h rfl⟩

end Luma
