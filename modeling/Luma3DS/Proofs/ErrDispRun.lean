import Luma3DS.Proofs.ErrDispSession

/-! Three facts about the `err:f` loop over whole runs. No request goes
unanswered: a request the loop handles waits only on the session it holds,
with `replyTarget` naming that session, so the `svcReplyAndReceive` of the
next pass sends its reply. `userString` stays a C string inside its
`0x100 + 1` bytes: SetUserString writes its NUL at `sz ≤ 0x100`, so every
banner `ERRF_DisplayError` draws ends inside the array. And the service state
follows the requests alone, as the kernel delivers them: connections, remote
closes and replies change neither the banner, the static buffer nor the errors
shown. -/

namespace Luma

def RepliesPending (s : ErrDispState) : Prop :=
  s.pending = true → s.sessionHandle ≠ 0 ∧ s.replyTarget = s.sessionHandle

theorem replyAndReceive_pending {s : ErrDispState} (h : RepliesPending s) : (replyAndReceive s).pending = false := by
  unfold replyAndReceive
  split
  · next h0 =>
    show s.pending = false
    cases hp : s.pending
    · rfl
    · exact ((h hp).1 ((h hp).2.symm.trans h0)).elim
  · rfl

theorem errDispStep_repliesPending {s s' : ErrDispState} {w : Wakeup} (h : RepliesPending s)
    (hk : KernelAllows s w) (hs : errDispStep s w = .next s') : RepliesPending s' := by
  have hp := replyAndReceive_pending h
  cases w with
  | preTermination => cases hs
  | connection session =>
    simp only [errDispStep, replyAndReceive_sessionHandle] at hs
    split at hs <;> cases hs <;> exact fun h' => absurd (hp.symm.trans h') Bool.false_ne_true
  | acceptFailed res => cases hs
  | request cmdbuf staticData menuShouldExit =>
    cases hs
    exact fun _ => ⟨by simpa using hk.1, by simp⟩
  | failure res =>
    simp only [errDispStep] at hs
    split at hs <;> cases hs
    exact fun h' => absurd h' Bool.false_ne_true

/-- On every run the kernel allows, every request the loop handles gets its reply at the next pass.
-/
theorem errDisp_answers_every_request {s : ErrDispState} (h : ErrDispReachable s) :
    HoldsOne s ∧ (s.pending = true → s.sessionHandle ≠ 0 ∧ s.replyTarget = s.sessionHandle) ∧
      (replyAndReceive s).pending = false := by
  have hr : RepliesPending s := by
    induction h with
    | init errf => exact fun hp => absurd hp Bool.false_ne_true
    | step _ hk hs ih => exact errDispStep_repliesPending ih hk hs
  exact ⟨errDisp_holds_one_session h, hr, replyAndReceive_pending hr⟩

def errfZero : ErrfState := ⟨fun _ => 0, fun _ => 0, fun _ => 0, []⟩

def throwRequest : Nat → U32 := fun i => if i = 0 then ipcMakeHeader 1 32 0 else 0

theorem errDisp_throw_answered_next_pass :
    ∃ s, ErrDispReachable s ∧ s.pending = true ∧ s.replyTarget = 1 ∧ (replyAndReceive s).pending = false := by
  have h1 := ErrDispReachable.step (w := .connection 1) (.init errfZero) ⟨by decide, by simp [errDispInit]⟩ rfl
  have h2 := ErrDispReachable.step (w := .request throwRequest [] false) h1 ⟨by simp, rfl, Nat.zero_le _⟩ rfl
  exact ⟨_, h2, rfl, rfl, (errDisp_answers_every_request h2).2.2⟩

/-- `userString` has a NUL within its `0x101` bytes, and every banner shown has at most `0x100`
characters. -/
def BannersFit (errf : ErrfState) : Prop :=
  (∃ i ≤ 0x100, errf.userString i = 0) ∧ ∀ p ∈ errf.shown, p.1.length ≤ 0x100

theorem cString_length_le_of_zero : ∀ {buf : List U8} {i : Nat}, buf[i]? = some 0 → (cString buf).length ≤ i
  | [], _, h => nomatch h
  | b :: buf, 0, h => by
    obtain rfl : b = 0 := Option.some.inj (List.getElem?_cons_zero ▸ h)
    rfl
  | b :: buf, i + 1, h => by
    have ih := @cString_length_le_of_zero buf i (List.getElem?_cons_succ ▸ h)
    unfold cString at ih ⊢
    rw [List.takeWhile_cons]
    split
    · exact Nat.succ_le_succ ih
    · exact Nat.zero_le _

theorem banner_length_le {userString : Nat → U8} {i : Nat} (hi : i ≤ 0x100) (h0 : userString i = 0) :
    (banner userString).length ≤ 0x100 := by
  unfold banner
  split
  · decide
  · exact (cString_length_le_of_zero (by simp [List.getElem?_range (show i < 0x101 by omega), h0])).trans hi

theorem errfHandleCommands_bannersFit (menuShouldExit : Bool) {errf : ErrfState} (h : BannersFit errf) :
    BannersFit (errfHandleCommands menuShouldExit errf) := by
  obtain ⟨⟨i, hi, h0⟩, hshown⟩ := h
  unfold errfHandleCommands
  dsimp only
  split
  · split
    · refine ⟨⟨i, hi, h0⟩, fun p hp => ?_⟩
      rcases List.mem_append.mp hp with hp | hp
      · exact hshown p hp
      · rw [List.mem_singleton.mp hp]
        exact banner_length_le hi h0
    · exact ⟨⟨i, hi, h0⟩, hshown⟩
  · split
    · exact ⟨⟨i, hi, h0⟩, hshown⟩
    · refine ⟨⟨(if errf.cmdbuf 1 ≤ 0x100 then errf.cmdbuf 1 else 0x100).toNat, ?_, by simp⟩, hshown⟩
      split
      · next hle => rw [BitVec.le_def] at hle; exact hle
      · decide
  · exact ⟨⟨i, hi, h0⟩, hshown⟩

theorem errDispStep_bannersFit {s s' : ErrDispState} {w : Wakeup} (h : BannersFit s.errf)
    (hs : errDispStep s w = .next s') : BannersFit s'.errf := by
  have hr : BannersFit (replyAndReceive s).errf := by
    unfold replyAndReceive; split <;> exact h
  cases w with
  | preTermination => cases hs
  | connection session =>
    simp only [errDispStep, replyAndReceive_sessionHandle] at hs
    split at hs <;> cases hs <;> exact hr
  | acceptFailed res => cases hs
  | request cmdbuf staticData menuShouldExit =>
    cases hs
    exact errfHandleCommands_bannersFit menuShouldExit hr
  | failure res =>
    simp only [errDispStep] at hs
    split at hs <;> cases hs
    exact hr

/-- Over every run of the loop, from any wakeups, `userString` stays a C string inside its array. -/
theorem errDisp_userString_terminated (s : ErrDispState) (ws : List Wakeup) (h : BannersFit s.errf)
    {s' : ErrDispState} (hr : errDispRun s ws = .next s') : BannersFit s'.errf := by
  induction ws generalizing s with
  | nil => cases hr; exact h
  | cons w ws ih =>
    simp only [errDispRun] at hr
    split at hr
    · next s₁ hs => exact ih s₁ (errDispStep_bannersFit h hs) hr
    · next hne => exact (hne _ hr).elim

def longUserString : Nat → U32 := fun i =>
  if i = 0 then ipcMakeHeader 2 1 2 else if i = 1 then 0x200 else if i = 2 then ipcDescStaticBuffer 0x200 0
  else 0x41414141

def longBannerRun : List Wakeup :=
  [.connection 1, .request longUserString [0x41, 0x41, 0x41, 0x41] false, .request throwRequest [] false]

theorem errDisp_userString_terminated_long_banner :
    ∃ s', errDispRun (errDispInit errfZero) longBannerRun = .next s' ∧ BannersFit s'.errf :=
  ⟨_, rfl, errDisp_userString_terminated (errDispInit errfZero) longBannerRun
    ⟨⟨0, by decide, rfl⟩, by simp [errDispInit, errfZero]⟩ rfl⟩

def requests : List Wakeup → List ((Nat → U32) × List U8 × Bool)
  | [] => []
  | .request cmdbuf staticData menuShouldExit :: ws => (cmdbuf, staticData, menuShouldExit) :: requests ws
  | _ :: ws => requests ws

/-- What `err:f` is for: the kernel's delivery and `ERRF_HandleCommands` on each request in turn. -/
def errfServe (errf : ErrfState) : List ((Nat → U32) × List U8 × Bool) → ErrfState
  | [] => errf
  | (cmdbuf, staticData, menuShouldExit) :: rs =>
    errfServe (errfHandleCommands menuShouldExit (deliverRequest errf cmdbuf staticData)) rs

def SameService (e₁ e₂ : ErrfState) : Prop :=
  e₁.userString = e₂.userString ∧ e₁.staticBuf = e₂.staticBuf ∧ e₁.shown = e₂.shown

theorem SameService.refl (e : ErrfState) : SameService e e := ⟨rfl, rfl, rfl⟩

theorem SameService.trans {e₁ e₂ e₃ : ErrfState} (h : SameService e₁ e₂) (h' : SameService e₂ e₃) :
    SameService e₁ e₃ :=
  ⟨h.1.trans h'.1, h.2.1.trans h'.2.1, h.2.2.trans h'.2.2⟩

theorem SameService.deliverRequest {e₁ e₂ : ErrfState} (h : SameService e₁ e₂) (cmdbuf : Nat → U32)
    (staticData : List U8) : deliverRequest e₁ cmdbuf staticData = deliverRequest e₂ cmdbuf staticData := by
  obtain ⟨h₁, h₂, h₃⟩ := h
  cases e₁
  cases e₂
  simp only at h₁ h₂ h₃
  subst h₁ h₂ h₃
  rfl

theorem errfServe_append (errf : ErrfState) (rs rs' : List ((Nat → U32) × List U8 × Bool)) :
    errfServe errf (rs ++ rs') = errfServe (errfServe errf rs) rs' := by
  induction rs generalizing errf with
  | nil => rfl
  | cons r rs ih => exact ih _

theorem errfServe_congr {e₁ e₂ : ErrfState} (h : SameService e₁ e₂) :
    ∀ rs, SameService (errfServe e₁ rs) (errfServe e₂ rs)
  | [] => h
  | (cmdbuf, staticData, _) :: rs => by
    simp only [errfServe, h.deliverRequest cmdbuf staticData]
    exact SameService.refl _

theorem replyAndReceive_sameService (s : ErrDispState) : SameService (replyAndReceive s).errf s.errf := by
  unfold replyAndReceive
  split <;> exact SameService.refl _

theorem errDispStep_serves {s s' : ErrDispState} {w : Wakeup} (hs : errDispStep s w = .next s') :
    SameService s'.errf (errfServe s.errf (requests [w])) := by
  have hr := replyAndReceive_sameService s
  cases w with
  | preTermination => cases hs
  | connection session =>
    simp only [errDispStep] at hs
    split at hs <;> cases hs <;> exact hr
  | acceptFailed res => cases hs
  | request cmdbuf staticData menuShouldExit =>
    cases hs
    simp only [requests, errfServe, hr.deliverRequest cmdbuf staticData]
    exact SameService.refl _
  | failure res =>
    simp only [errDispStep] at hs
    split at hs <;> cases hs
    exact hr

/-- Session events change no service state: a run serves its requests alone, in the order they came.
-/
theorem errDisp_serves_requests_in_order (s : ErrDispState) (ws : List Wakeup) {s' : ErrDispState}
    (hr : errDispRun s ws = .next s') :
    s'.errf.userString = (errfServe s.errf (requests ws)).userString ∧
      s'.errf.staticBuf = (errfServe s.errf (requests ws)).staticBuf ∧
      s'.errf.shown = (errfServe s.errf (requests ws)).shown := by
  suffices h : SameService s'.errf (errfServe s.errf (requests ws)) from h
  induction ws generalizing s with
  | nil => cases hr; exact SameService.refl _
  | cons w ws ih =>
    simp only [errDispRun] at hr
    split at hr
    · next s₁ hs =>
      have hsplit : requests (w :: ws) = requests [w] ++ requests ws := by
        cases w <;> rfl
      rw [hsplit, errfServe_append]
      exact (ih s₁ hr).trans (errfServe_congr (errDispStep_serves hs) _)
    · next hne => exact (hne _ hr).elim

theorem errDisp_serves_requests_long_banner :
    requests longBannerRun = [(longUserString, [0x41, 0x41, 0x41, 0x41], false), (throwRequest, [], false)] ∧
    ∃ s', errDispRun (errDispInit errfZero) longBannerRun = .next s' ∧
      s'.errf.userString = (errfServe errfZero (requests longBannerRun)).userString ∧
      s'.errf.staticBuf = (errfServe errfZero (requests longBannerRun)).staticBuf ∧
      s'.errf.shown = (errfServe errfZero (requests longBannerRun)).shown :=
  ⟨rfl, _, rfl, errDisp_serves_requests_in_order (errDispInit errfZero) longBannerRun rfl⟩

end Luma
