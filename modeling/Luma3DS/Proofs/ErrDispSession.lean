import Luma3DS.Spec.ErrDisp

/-! The session discipline of `errDispThreadMain` over every run of kernel
wakeups: the loop holds at most the one session `sessionHandle`. It does not
keep `replyTarget` in step with the request it answers: a connection that
arrives after a request was handled leaves `replyTarget` set, and the next pass
replies again to a session with nothing pending. -/

namespace Luma

section

variable (s : ErrDispState)

@[simp] theorem replyAndReceive_sessionHandle : (replyAndReceive s).sessionHandle = s.sessionHandle := by
  unfold replyAndReceive; split <;> rfl

@[simp] theorem replyAndReceive_held : (replyAndReceive s).held = s.held := by
  unfold replyAndReceive; split <;> rfl

@[simp] theorem replyAndReceive_replyTarget : (replyAndReceive s).replyTarget = s.replyTarget := by
  unfold replyAndReceive; split <;> rfl

end

/-- The loop holds no session, or exactly `sessionHandle`. -/
def HoldsOne (s : ErrDispState) : Prop := s.held = if s.sessionHandle = 0 then [] else [s.sessionHandle]

theorem errDispStep_holdsOne {s s' : ErrDispState} {w : Wakeup} (h : HoldsOne s)
    (hk : KernelAllows s w) (hs : errDispStep s w = .next s') : HoldsOne s' := by
  unfold HoldsOne at *
  cases w with
  | preTermination => simp [errDispStep] at hs
  | connection session =>
    simp only [errDispStep, replyAndReceive_sessionHandle] at hs
    split at hs <;> cases hs
    · simp_all [KernelAllows]
    · simpa using h
  | acceptFailed res => cases hs
  | request cmdbuf staticData menuShouldExit =>
    cases hs; simpa using h
  | failure res =>
    simp only [errDispStep] at hs
    split at hs <;> cases hs
    by_cases h0 : s.sessionHandle = 0 <;> simp_all

theorem errDisp_holds_one_session {s : ErrDispState} (h : ErrDispReachable s) : HoldsOne s := by
  induction h with
  | init errf => rfl
  | step _ hk hs ih => exact errDispStep_holdsOne ih hk hs

/-- After "connection 1, request, connection 2", `replyTarget` names a session with nothing pending.
-/
theorem errDisp_replies_to_answered_session (errf : ErrfState) (cmdbuf : Nat → U32) :
    ∃ s, ErrDispReachable s ∧ s.replyTarget ≠ 0 ∧ s.replyTarget = s.sessionHandle ∧ s.pending = false := by
  have h1 := ErrDispReachable.step (w := .connection 1) (.init errf) ⟨by decide, by simp [errDispInit]⟩ rfl
  have h2 := ErrDispReachable.step (w := .request cmdbuf [] false) h1 ⟨by simp, rfl, Nat.zero_le _⟩ rfl
  have h3 := ErrDispReachable.step (w := .connection 2) h2 ⟨by decide, by simp [errDispInit]⟩ rfl
  exact ⟨_, h3, by simp, rfl, rfl⟩

end Luma
