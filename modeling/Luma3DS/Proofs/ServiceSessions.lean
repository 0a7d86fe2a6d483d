import Luma3DS.Proofs.NtpTime

/-! How `ntpGetTimeStamp`, `ntpSetTimeDate`, `ntpNullifyUserTimeOffset`,
`menuUpdateMcuInfo` and `menuToggleLEDs` open and close their service
sessions, on every path and for every answer of the services. Three pair
every successful init with one exit and call no exit for an init that failed.
Two do not. `ntpGetTimeStamp` returns at once when `socSocket` reports the
socket service broken, with `miniSoc`'s session open: one user too many is
counted from then on. `menuToggleLEDs` calls `mcuHwcExit` whether or not
`mcuHwcInit` succeeded: after a failure the count of `mcu::HWC`'s users goes
below what it was. -/

namespace Luma

/-- What a call does to `sv`'s sessions: `some true` opens one, `some false` closes one. -/
@[simp] def ServiceCall.sessionStep (sv : Service) : ServiceCall → Option Bool
  | .init sv' res => if sv' = sv ∧ rFailed res = false then some true else none
  | .exit sv' => if sv' = sv then some false else none
  | _ => none

@[simp] def bracketed : Nat → List Bool → Bool
  | n, [] => n == 0
  | n, true :: ops => bracketed (n + 1) ops
  | n, false :: ops => n != 0 && bracketed (n - 1) ops

/-- Every session of `sv` the calls open is closed once, after it is opened, and no exit closes a
session no init opened. -/
def sessionsPaired (sv : Service) (calls : List ServiceCall) : Bool :=
  bracketed 0 (calls.filterMap (ServiceCall.sessionStep sv))

@[simp] def ServiceCall.socketStep : ServiceCall → Option (Bool × S32)
  | .socSocket sock => some (true, sock)
  | .socClose sock => some (false, sock)
  | _ => none

@[simp] def socketsClosedOps : List (Bool × S32) → Bool
  | [] => true
  | (true, sock) :: ops => (decide (sock.toInt < 0) || ops.contains (false, sock)) && socketsClosedOps ops
  | (false, _) :: ops => socketsClosedOps ops

def socketsClosed (calls : List ServiceCall) : Bool := socketsClosedOps (calls.filterMap ServiceCall.socketStep)

def ServiceCall.Quiet (c : ServiceCall) : Prop := (∀ sv, c.sessionStep sv = none) ∧ c.socketStep = none

theorem sessionSteps_quiet {quiet : List ServiceCall} (hq : ∀ c ∈ quiet, c.Quiet) (sv : Service) :
    quiet.filterMap (ServiceCall.sessionStep sv) = [] :=
  List.filterMap_eq_nil_iff.mpr fun c hc => (hq c hc).1 sv

theorem socketSteps_quiet {quiet : List ServiceCall} (hq : ∀ c ∈ quiet, c.Quiet) :
    quiet.filterMap ServiceCall.socketStep = [] :=
  List.filterMap_eq_nil_iff.mpr fun c hc => (hq c hc).2

def sessionDelta (sv : Service) (calls : List ServiceCall) : Int :=
  ((calls.filterMap (ServiceCall.sessionStep sv)).map fun b => if b then 1 else -1).sum

theorem sessionDelta_append (sv : Service) (calls calls' : List ServiceCall) :
    sessionDelta sv (calls ++ calls') = sessionDelta sv calls + sessionDelta sv calls' := by
  simp [sessionDelta, List.filterMap_append]

theorem bracketed_sum {n : Nat} {ops : List Bool} (h : bracketed n ops = true) :
    ((ops.map fun b => if b then (1 : Int) else -1).sum) = -n := by
  induction ops generalizing n with
  | nil => simp only [bracketed, beq_iff_eq] at h; simp [h]
  | cons b ops ih =>
    cases b with
    | true =>
      rw [List.map_cons, List.sum_cons, ih h, if_pos rfl]
      omega
    | false =>
      simp only [bracketed, Bool.and_eq_true, bne_iff_ne, ne_eq] at h
      rw [List.map_cons, List.sum_cons, ih h.2, if_neg Bool.false_ne_true]
      omega

theorem sessionDelta_of_paired {sv : Service} {calls : List ServiceCall} (h : sessionsPaired sv calls = true) :
    sessionDelta sv calls = 0 := by
  simpa using bracketed_sum h

namespace ServiceState

/-- `s'` is `s` after the calls `new`: the log grew by them, and every count moved by what they open
and close. -/
structure After (s s' : ServiceState) (new : List ServiceCall) : Prop where
  calls : s'.calls = s.calls ++ new
  refCount : ∀ sv, s'.refCount sv = s.refCount sv + sessionDelta sv new

variable {s s' s'' : ServiceState} {new new' : List ServiceCall}

theorem After.refl (s : ServiceState) : After s s [] := ⟨by simp, fun _ => by simp [sessionDelta]⟩

theorem After.trans (h : After s s' new) (h' : After s' s'' new') : After s s'' (new ++ new') :=
  ⟨by rw [h'.calls, h.calls, List.append_assoc],
    fun sv => by rw [h'.refCount, h.refCount, sessionDelta_append, add_assoc]⟩

theorem After.call (h : After s s' new) {c : ServiceCall} (hc : ∀ sv, c.sessionStep sv = none) :
    After s (s'.call c) (new ++ [c]) :=
  ⟨by simp [ServiceState.call, h.calls],
    fun sv => by
      have h0 : sessionDelta sv [c] = 0 := by
        simp only [sessionDelta, List.filterMap_cons, hc sv, List.filterMap_nil, List.map_nil, List.sum_nil]
      rw [show (s'.call c).refCount = s'.refCount from rfl, h.refCount, sessionDelta_append, h0, add_zero]⟩

theorem After.init (h : After s s' new) (sv : Service) (res : Result) :
    After s (s'.init sv res) (new ++ [.init sv res]) := by
  refine ⟨by unfold ServiceState.init; split <;> simp [ServiceState.call, h.calls], fun sv' => ?_⟩
  rw [sessionDelta_append, ← add_assoc, ← h.refCount]
  unfold ServiceState.init
  by_cases hv : sv = sv' <;> cases hr : rFailed res <;>
    simp [ServiceState.call, sessionDelta, ServiceCall.sessionStep, Function.update_apply, hv, hr, eq_comm]

theorem After.exit (h : After s s' new) (sv : Service) : After s (s'.exit sv) (new ++ [.exit sv]) := by
  refine ⟨by simp [ServiceState.exit, ServiceState.call, h.calls], fun sv' => ?_⟩
  rw [sessionDelta_append, ← add_assoc, ← h.refCount]
  by_cases hv : sv = sv' <;>
    simp [ServiceState.exit, ServiceState.call, sessionDelta, ServiceCall.sessionStep, Function.update_apply, hv,
      eq_comm, sub_eq_add_neg]

def QuietAfter (s s' : ServiceState) : Prop := ∃ quiet, After s s' quiet ∧ ∀ c ∈ quiet, c.Quiet

theorem QuietAfter.refl (s : ServiceState) : QuietAfter s s := ⟨[], After.refl s, by simp⟩

theorem QuietAfter.call (h : QuietAfter s s') {c : ServiceCall} (hc : c.Quiet) : QuietAfter s (s'.call c) :=
  let ⟨quiet, ha, hq⟩ := h
  ⟨quiet ++ [c], ha.call hc.1, fun c' h' => (List.mem_append.mp h').elim (hq c') fun h => List.mem_singleton.mp h ▸ hc⟩

theorem QuietAfter.trans (h : QuietAfter s s') (h' : QuietAfter s' s'') : QuietAfter s s'' :=
  let ⟨quiet, ha, hq⟩ := h
  let ⟨quiet', ha', hq'⟩ := h'
  ⟨quiet ++ quiet', ha.trans ha', fun c hc => (List.mem_append.mp hc).elim (hq c) (hq' c)⟩

end ServiceState

open ServiceState

/-- The calls from `s` to `s'` pair every session, close every socket they create, and leave every
count as it was. -/
def SessionsBalanced (s s' : ServiceState) : Prop :=
  ∃ new, s'.calls = s.calls ++ new ∧ (∀ sv, sessionsPaired sv new = true) ∧ socketsClosed new = true ∧
    s'.refCount = s.refCount

theorem sessionsBalanced_of_after {s s' : ServiceState} {new : List ServiceCall} (h : After s s' new)
    (hp : ∀ sv, sessionsPaired sv new = true) (hc : socketsClosed new = true) : SessionsBalanced s s' :=
  ⟨new, h.calls, hp, hc, funext fun sv => by rw [h.refCount, sessionDelta_of_paired (hp sv), add_zero]⟩

theorem not_sessionsBalanced_of_after {s s' : ServiceState} {new : List ServiceCall} (h : After s s' new)
    (sv : Service) (hp : sessionsPaired sv new = false) : ¬SessionsBalanced s s' := by
  rintro ⟨new', hcalls, hpaired, -, -⟩
  rw [h.calls] at hcalls
  rw [List.append_cancel_left hcalls] at hp
  exact absurd (hpaired sv) (by simp [hp])

theorem ntpExchange_quiet (E : NtpEnv) (sock : S32) (s : ServiceState) : QuietAfter s (ntpExchange E sock s).2.2 := by
  have h1 := (QuietAfter.refl s).call (c := .socConnect sock) ⟨fun _ => rfl, rfl⟩
  have h3 := (h1.call (c := .socSend sock ntpRequest) ⟨fun _ => rfl, rfl⟩).call (c := .socRecv sock) ⟨fun _ => rfl, rfl⟩
  unfold ntpExchange
  split_ifs
  · exact h1
  · exact h1.call (c := .socSend sock ntpRequest) ⟨fun _ => rfl, rfl⟩
  · cases E.socRecv <;> exact h3

/-- `ntpGetTimeStamp` pairs its sessions unless `socSocket` fails after `miniSocInit` succeeded. -/
theorem ntpGetTimeStamp_balanced_iff (E : NtpEnv) (s : ServiceState) :
    SessionsBalanced s (ntpGetTimeStamp E s).2.2 ↔ rFailed E.miniSocInit = true ∨ -10000 ≤ E.socSocket.toInt := by
  have h0 := (After.refl s).init .miniSoc E.miniSocInit
  cases hinit : rFailed E.miniSocInit
  · have h1 := h0.call (c := .socSocket E.socSocket) (fun _ => rfl)
    by_cases hsock : E.socSocket.toInt < -10000
    · simp only [ntpGetTimeStamp, hinit, if_pos hsock, Bool.false_eq_true, if_false, false_or]
      refine iff_of_false (not_sessionsBalanced_of_after h1 .miniSoc ?_) (by omega)
      simp [sessionsPaired, hinit]
    · obtain ⟨exch, hx, hq⟩ := ntpExchange_quiet E E.socSocket ((s.init .miniSoc E.miniSocInit).call (.socSocket E.socSocket))
      rw [ntpGetTimeStamp_exchange E s hinit (by omega)]
      have h := ((((h1.trans hx).call (c := .socSetsockoptLinger E.socSocket) (fun _ => rfl)).call
        (c := .socClose E.socSocket) (fun _ => rfl)).exit .miniSoc)
      refine iff_of_true (sessionsBalanced_of_after h (fun sv => ?_) ?_) (.inr (by omega))
      · cases sv <;> simp [sessionsPaired, List.filterMap_append, sessionSteps_quiet hq, hinit]
      · simp [socketsClosed, List.filterMap_append, socketSteps_quiet hq]
  · simp only [ntpGetTimeStamp, hinit, if_true, true_or, iff_true]
    exact sessionsBalanced_of_after h0 (fun sv => by cases sv <;> simp [sessionsPaired, hinit])
      (by simp [socketsClosed])

theorem ntpSetTimeDate_balanced (ptmSysmInit setUserTime : Result) (timestamp : S64) (s : ServiceState) :
    SessionsBalanced s (ntpSetTimeDate ptmSysmInit setUserTime timestamp s).2 := by
  have h0 := (After.refl s).init .ptmSysm ptmSysmInit
  unfold ntpSetTimeDate
  cases hr : rFailed ptmSysmInit
  · have h := (h0.call (c := .ptmSysmSetUserTime (ntpMsY2k timestamp)) (fun _ => rfl)).exit .ptmSysm
    simp only [hr, Bool.false_eq_true, if_false]
    exact sessionsBalanced_of_after h (fun sv => by cases sv <;> simp [sessionsPaired, hr]) (by simp [socketsClosed])
  · simp only [hr, if_true]
    exact sessionsBalanced_of_after h0 (fun sv => by cases sv <;> simp [sessionsPaired, hr]) (by simp [socketsClosed])

theorem ntpNullifyBody_quiet (E : NullifyEnv) (s : ServiceState) : QuietAfter s (ntpNullifyBody E s).2 := by
  have h1 := (QuietAfter.refl s).call (c := .cfgSetConfigInfoBlk4 8 0x30001 0) ⟨fun _ => rfl, rfl⟩
  have h2 := h1.call (c := .ptmSysmSetRtcTime (ntpUserTime E.osGetTime)) ⟨fun _ => rfl, rfl⟩
  unfold ntpNullifyBody
  split_ifs
  · exact h1
  · exact h2
  · exact (h2.call (c := .ptmSysmInvalidateSystemTime) ⟨fun _ => rfl, rfl⟩).call (c := .cfgUpdateConfigSavegame)
      ⟨fun _ => rfl, rfl⟩

theorem ntpNullifyUserTimeOffset_balanced (E : NullifyEnv) (s : ServiceState) :
    SessionsBalanced s (ntpNullifyUserTimeOffset E s).2 := by
  have h0 := (After.refl s).init .ptmSysm E.ptmSysmInit
  have h1 := h0.init .cfgu E.cfguInit
  unfold ntpNullifyUserTimeOffset
  cases hp : rFailed E.ptmSysmInit
  · cases hc : rFailed E.cfguInit
    · obtain ⟨body, hb, hq⟩ := ntpNullifyBody_quiet E ((s.init .ptmSysm E.ptmSysmInit).init .cfgu E.cfguInit)
      simp only [Bool.false_eq_true, if_false]
      refine sessionsBalanced_of_after (((h1.trans hb).exit .ptmSysm).exit .cfgu) (fun sv => ?_) ?_
      · cases sv <;> simp [sessionsPaired, List.filterMap_append, sessionSteps_quiet hq, hp, hc]
      · simp [socketsClosed, List.filterMap_append, socketSteps_quiet hq]
    · simp only [Bool.false_eq_true, if_false, if_true]
      exact sessionsBalanced_of_after (h1.exit .ptmSysm)
        (fun sv => by cases sv <;> simp [sessionsPaired, hp, hc]) (by simp [socketsClosed])
  · simp only [if_true]
    exact sessionsBalanced_of_after h0 (fun sv => by cases sv <;> simp [sessionsPaired, hp]) (by simp [socketsClosed])

theorem mcuReadRegisters_quiet (E : McuEnv) (regs : List U8) (res : Result) (s : ServiceState) :
    QuietAfter s (mcuReadRegisters E regs res s).2.2 := by
  induction regs generalizing res s with
  | nil => exact QuietAfter.refl s
  | cons reg regs ih =>
    have h1 := (QuietAfter.refl s).call (c := .mcuHwcReadRegister reg) ⟨fun _ => rfl, rfl⟩
    simp only [mcuReadRegisters]
    split
    · exact h1
    · exact h1.trans (ih _ _)

theorem mcuReadFwVersion_quiet (E : McuEnv) (g : McuGlobals) (s : ServiceState) :
    QuietAfter s (mcuReadFwVersion E g s).2 := by
  unfold mcuReadFwVersion
  split
  · exact ((QuietAfter.refl s).call (c := .mcuHwcGetFwVerHigh) ⟨fun _ => rfl, rfl⟩).call (c := .mcuHwcGetFwVerLow)
      ⟨fun _ => rfl, rfl⟩
  · exact QuietAfter.refl s

theorem menuUpdateMcuInfo_balanced (E : McuEnv) (g : McuGlobals) (s : ServiceState) :
    SessionsBalanced s (menuUpdateMcuInfo E g s).2.2 := by
  have h0 := (After.refl s).call (c := .isServiceUsable mcuHwcServiceName) (fun _ => rfl)
  have h1 := h0.init .mcuHwc E.mcuHwcInit
  unfold menuUpdateMcuInfo
  cases hu : E.serviceUsable
  · exact sessionsBalanced_of_after h0 (fun sv => by simp [sessionsPaired]) (by simp [socketsClosed])
  cases hr : rFailed E.mcuHwcInit
  · obtain ⟨calls, hc, hq⟩ := (mcuReadRegisters_quiet E [0xA, 0xB, 0xC, 0xD] E.mcuHwcInit
      ((s.call (.isServiceUsable mcuHwcServiceName)).init .mcuHwc E.mcuHwcInit)).trans (mcuReadFwVersion_quiet E _ _)
    simp only [Bool.not_true, Bool.false_eq_true, if_false]
    refine sessionsBalanced_of_after ((h1.trans hc).exit .mcuHwc) (fun sv => ?_) ?_
    · cases sv <;> simp [sessionsPaired, List.filterMap_append, sessionSteps_quiet hq, hr]
    · simp [socketsClosed, List.filterMap_append, socketSteps_quiet hq]
  · simp only [Bool.not_true, Bool.false_eq_true, if_false, if_true]
    exact sessionsBalanced_of_after h1 (fun sv => by cases sv <;> simp [sessionsPaired, hr]) (by simp [socketsClosed])

/-- `menuToggleLEDs` pairs its session exactly when `mcuHwcInit` succeeds. -/
theorem menuToggleLEDs_balanced_iff (E : McuEnv) (garbage : U8) (g : McuGlobals) (s : ServiceState) :
    SessionsBalanced s (menuToggleLEDs E garbage g s).2 ↔ rFailed E.mcuHwcInit = false := by
  have h := (((After.refl s).init .mcuHwc E.mcuHwcInit).call (c := .mcuHwcReadRegister 0x28) (fun _ => rfl)).call
    (c := .mcuHwcWriteRegister 0x28 (~~~(mcuReadByte E 0x28 garbage))) (fun _ => rfl) |>.exit .mcuHwc
  cases hr : rFailed E.mcuHwcInit
  · exact iff_of_true (sessionsBalanced_of_after h (fun sv => by cases sv <;> simp [sessionsPaired, hr])
      (by simp [socketsClosed])) rfl
  · exact iff_of_false (not_sessionsBalanced_of_after h .mcuHwc (by simp [sessionsPaired, hr])) (by simp)

theorem ntpGetTimeStamp_miniSoc_refCount {E : NtpEnv} (hinit : rFailed E.miniSocInit = false)
    (hsock : E.socSocket.toInt < -10000) (s : ServiceState) :
    (ntpGetTimeStamp E s).2.2.refCount .miniSoc = s.refCount .miniSoc + 1 := by
  have h := ((After.refl s).init .miniSoc E.miniSocInit).call (c := .socSocket E.socSocket) (fun _ => rfl)
  simp only [ntpGetTimeStamp, hinit, if_pos hsock, Bool.false_eq_true, if_false]
  rw [h.refCount]
  simp [sessionDelta, hinit]

theorem menuToggleLEDs_mcuHwc_refCount {E : McuEnv} (hinit : rFailed E.mcuHwcInit = true) (garbage : U8)
    (g : McuGlobals) (s : ServiceState) :
    (menuToggleLEDs E garbage g s).2.refCount .mcuHwc = s.refCount .mcuHwc - 1 := by
  have h := (((After.refl s).init .mcuHwc E.mcuHwcInit).call (c := .mcuHwcReadRegister 0x28) (fun _ => rfl)).call
    (c := .mcuHwcWriteRegister 0x28 (~~~(mcuReadByte E 0x28 garbage))) (fun _ => rfl) |>.exit .mcuHwc
  refine (h.refCount .mcuHwc).trans ?_
  simp [sessionDelta, hinit, sub_eq_add_neg]

/-- On every path, the NTP and `mcu::HWC` functions pair their sessions, except the two paths named
here. -/
theorem serviceSessions_balanced_except :
    (∀ (E : NtpEnv) (s : ServiceState),
      SessionsBalanced s (ntpGetTimeStamp E s).2.2 ↔ rFailed E.miniSocInit = true ∨ -10000 ≤ E.socSocket.toInt) ∧
    (∀ (E : NtpEnv) (s : ServiceState), rFailed E.miniSocInit = false → E.socSocket.toInt < -10000 →
      (ntpGetTimeStamp E s).2.2.refCount .miniSoc = s.refCount .miniSoc + 1) ∧
    (∀ (ptmSysmInit setUserTime : Result) (timestamp : S64) (s : ServiceState),
      SessionsBalanced s (ntpSetTimeDate ptmSysmInit setUserTime timestamp s).2) ∧
    (∀ (E : NullifyEnv) (s : ServiceState), SessionsBalanced s (ntpNullifyUserTimeOffset E s).2) ∧
    (∀ (E : McuEnv) (g : McuGlobals) (s : ServiceState), SessionsBalanced s (menuUpdateMcuInfo E g s).2.2) ∧
    (∀ (E : McuEnv) (garbage : U8) (g : McuGlobals) (s : ServiceState),
      SessionsBalanced s (menuToggleLEDs E garbage g s).2 ↔ rFailed E.mcuHwcInit = false) ∧
    (∀ (E : McuEnv) (garbage : U8) (g : McuGlobals) (s : ServiceState), rFailed E.mcuHwcInit = true →
      (menuToggleLEDs E garbage g s).2.refCount .mcuHwc = s.refCount .mcuHwc - 1) :=
  ⟨ntpGetTimeStamp_balanced_iff, fun _ s hinit hsock => ntpGetTimeStamp_miniSoc_refCount hinit hsock s,
    ntpSetTimeDate_balanced, ntpNullifyUserTimeOffset_balanced, menuUpdateMcuInfo_balanced,
    menuToggleLEDs_balanced_iff, fun _ garbage g s hinit => menuToggleLEDs_mcuHwc_refCount hinit garbage g s⟩

def ntpBrokenSocket : NtpEnv := ⟨0, 0xD8E007F7, 0, 0, none⟩

/-- `mcu::HWC` cannot be reached: `mcuHwcInit` fails with `0xD8E06406`. -/
def mcuUnreachable : McuEnv := ⟨true, 0xD8E06406, fun _ => (0xD8E06406, 0), ⟨0xD8E06406, 0, 0⟩, ⟨0xD8E06406, 0, 0⟩⟩

theorem serviceSessions_unbalanced_from_start :
    ¬SessionsBalanced serviceStart (ntpGetTimeStamp ntpBrokenSocket serviceStart).2.2 ∧
    (ntpGetTimeStamp ntpBrokenSocket serviceStart).2.2.refCount .miniSoc = 1 ∧
    ¬SessionsBalanced serviceStart (menuToggleLEDs mcuUnreachable 0 ⟨false, 0, (0, 0, 0), 0⟩ serviceStart).2 ∧
    (menuToggleLEDs mcuUnreachable 0 ⟨false, 0, (0, 0, 0), 0⟩ serviceStart).2.refCount .mcuHwc = -1 := by
  obtain ⟨h1, h2, -, -, -, h6, h7⟩ := serviceSessions_balanced_except
  have hs : rFailed ntpBrokenSocket.miniSocInit = false := by decide
  have hm : rFailed mcuUnreachable.mcuHwcInit = true := by decide
  have hb : ntpBrokenSocket.socSocket.toInt < -10000 := by decide
  refine ⟨fun h => ?_, by rw [h2 _ _ hs hb]; rfl, fun h => ?_, by rw [h7 _ _ _ _ hm]; rfl⟩
  · rcases (h1 _ _).mp h with h | h
    · exact absurd (hs.symm.trans h) Bool.false_ne_true
    · omega
  · exact absurd ((h6 _ _ _ _).mp h) (by rw [hm]; decide)

end Luma
