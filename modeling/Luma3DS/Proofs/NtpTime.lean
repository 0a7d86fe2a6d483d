import Luma3DS.Spec.Ntp
import Mathlib.Tactic.Ring

/-! The time `ntpGetTimeStamp` reports. It succeeds as soon as `socRecv`
returns a non-negative count, whatever the reply's length: bytes the reply did
not cover keep what the request held, so a reply of at most 40 bytes leaves a
transmit timestamp of 0. The timestamp is `txTm_s - NTP_TIMESTAMP_DELTA` in
`unsigned long long`, read back as a signed `time_t`: the 1900 era whatever the
top bit, so from February 2036 on, when the server's seconds wrap, the time is
2^32 seconds early, before 1970. `ntpSetTimeDate` turns any such time into
milliseconds from 2000 without overflow, on the scale
`ntpNullifyUserTimeOffset` takes from `osGetTime()`. -/

namespace Luma

theorem getD_ntpRecvInto_request (datagram : List U8) {i : Nat} (hd : datagram.length ≤ i) (hi : 0 < i)
    (h48 : i < 48) : (ntpRecvInto ntpRequest datagram).getD i 0 = 0 := by
  obtain ⟨j, rfl⟩ : ∃ j, i = j + 1 := ⟨i - 1, by omega⟩
  have hmin : min datagram.length ntpPacketSize = datagram.length :=
    Nat.min_eq_left (by unfold ntpPacketSize; omega)
  rw [ntpRecvInto, hmin, List.getD_eq_getElem?_getD, List.getElem?_append_right (by simp; omega),
    List.getElem?_drop, List.length_take, Nat.min_eq_right (by unfold ntpPacketSize; omega),
    Nat.add_sub_cancel' hd, ntpRequest, List.getElem?_cons_succ, List.getElem?_replicate, if_pos (by omega)]
  rfl

theorem ntpReplyTxTmS_short (datagram : List U8) (hd : datagram.length ≤ 40) : ntpReplyTxTmS datagram = 0 := by
  simp only [ntpReplyTxTmS, ntpTxTmS,
    getD_ntpRecvInto_request datagram (by omega : datagram.length ≤ 40) (by omega) (by omega),
    getD_ntpRecvInto_request datagram (by omega : datagram.length ≤ 41) (by omega) (by omega),
    getD_ntpRecvInto_request datagram (by omega : datagram.length ≤ 42) (by omega) (by omega),
    getD_ntpRecvInto_request datagram (by omega : datagram.length ≤ 43) (by omega) (by omega)]
  rfl

theorem rFailed_eq_false_iff (res : Result) : rFailed res = false ↔ 0 ≤ res.toInt := by simp [rFailed]

/-- The NTP era rule: a timestamp with its top bit set counts from 1900 (era 0), one with it clear
from 2036 (era 1). -/
def ntpEraUnixSeconds (txTmS : U32) : Int :=
  if txTmS.msb then txTmS.toNat - 2208988800 else txTmS.toNat + 2 ^ 32 - 2208988800

/-- The subtraction wraps below `NTP_TIMESTAMP_DELTA`, and the signed reading undoes the wrap. -/
theorem ntpUnixTime_toInt (txTmS : U32) : (ntpUnixTime txTmS).toInt = txTmS.toNat - 2208988800 := by
  have h := txTmS.isLt
  rw [BitVec.toInt_eq_toNat_cond]
  simp only [ntpUnixTime, ntpTimestampDelta, BitVec.toNat_sub, BitVec.toNat_setWidth,
    Nat.mod_eq_of_lt (by omega : txTmS.toNat < 2 ^ 64), show (2208988800 : U64).toNat = 2208988800 from rfl]
  split <;> omega

theorem ntpUnixTime_era_one {txTmS : U32} (h : txTmS.msb = false) :
    (ntpUnixTime txTmS).toInt = ntpEraUnixSeconds txTmS - 2 ^ 32 := by
  rw [ntpUnixTime_toInt, ntpEraUnixSeconds, if_neg (by simp [h])]
  omega

/-- `(timestamp - 946684800) * 1000` does not overflow on any time `ntpGetTimeStamp` produces. -/
theorem ntpMsY2k_ntpUnixTime (txTmS : U32) :
    (ntpMsY2k (ntpUnixTime txTmS)).toInt = ((ntpUnixTime txTmS).toInt - 946684800) * 1000 := by
  have h := txTmS.isLt
  rw [ntpUnixTime_toInt, BitVec.toInt_eq_toNat_cond]
  simp only [ntpMsY2k, ntpUnixTime, ntpTimestampDelta, BitVec.toNat_mul, BitVec.toNat_sub,
    BitVec.toNat_setWidth, Nat.mod_eq_of_lt (by omega : txTmS.toNat < 2 ^ 64),
    show (2208988800 : U64).toNat = 2208988800 from rfl, show (946684800 : S64).toNat = 946684800 from rfl,
    show (1000 : S64).toNat = 1000 from rfl]
  split <;> omega

theorem ntpUserTime_eq_ntpMsY2k (t : S64) : ntpUserTime ((t + 2208988800) * 1000) = ntpMsY2k t := by
  unfold ntpUserTime ntpMsY2k
  ring

section

variable (E : NtpEnv) (s : ServiceState)

theorem ntpGetTimeStamp_exchange (hinit : rFailed E.miniSocInit = false) (hsock : -10000 ≤ E.socSocket.toInt) :
    ntpGetTimeStamp E s =
      ((ntpExchange E E.socSocket ((s.init .miniSoc E.miniSocInit).call (.socSocket E.socSocket))).1,
        (ntpExchange E E.socSocket ((s.init .miniSoc E.miniSocInit).call (.socSocket E.socSocket))).2.1,
        (((ntpExchange E E.socSocket ((s.init .miniSoc E.miniSocInit).call (.socSocket E.socSocket))).2.2.call
          (.socSetsockoptLinger E.socSocket)).call (.socClose E.socSocket)).exit .miniSoc) := by
  simp only [ntpGetTimeStamp, hinit, if_neg (show ¬E.socSocket.toInt < -10000 by omega)]
  rfl

theorem ntpExchange_success {sock : S32} {s : ServiceState} (h : rFailed (ntpExchange E sock s).1 = false) :
    ∃ datagram, E.socRecv = some datagram ∧
      (ntpExchange E sock s).2.1 = some (ntpUnixTime (ntpReplyTxTmS datagram)) := by
  have hfail : rFailed (-1) = true := by decide
  unfold ntpExchange at h ⊢
  by_cases hc : E.socConnect.toInt < 0
  · rw [if_pos hc] at h
    exact absurd (h.symm.trans hfail) Bool.false_ne_true
  by_cases hs : E.socSend.toInt < 0
  · rw [if_neg hc, if_pos hs] at h
    exact absurd (h.symm.trans hfail) Bool.false_ne_true
  rw [if_neg hc, if_neg hs] at h ⊢
  cases hr : E.socRecv with
  | none => rw [hr] at h; exact absurd (h.symm.trans hfail) Bool.false_ne_true
  | some datagram => exact ⟨datagram, rfl, rfl⟩

/-- Every success of `ntpGetTimeStamp` comes from a reply, and writes the wrapped difference of its
timestamp. -/
theorem ntpGetTimeStamp_success (h : rFailed (ntpGetTimeStamp E s).1 = false) :
    ∃ datagram, E.socRecv = some datagram ∧
      (ntpGetTimeStamp E s).2.1 = some (ntpUnixTime (ntpReplyTxTmS datagram)) := by
  cases hinit : rFailed E.miniSocInit
  · by_cases hsock : E.socSocket.toInt < -10000
    · simp only [ntpGetTimeStamp, hinit, if_pos hsock, Bool.false_eq_true, if_false, rFailed_eq_false_iff] at h
      omega
    rw [ntpGetTimeStamp_exchange E s hinit (by omega)] at h ⊢
    exact ntpExchange_success E h
  · simp [ntpGetTimeStamp, hinit] at h

theorem ntpGetTimeStamp_of_reply {datagram : List U8} (hinit : rFailed E.miniSocInit = false)
    (hsock : -10000 ≤ E.socSocket.toInt) (hconn : 0 ≤ E.socConnect.toInt) (hsend : 0 ≤ E.socSend.toInt)
    (hrecv : E.socRecv = some datagram) :
    (ntpGetTimeStamp E s).1 = 0 ∧ (ntpGetTimeStamp E s).2.1 = some (ntpUnixTime (ntpReplyTxTmS datagram)) := by
  rw [ntpGetTimeStamp_exchange E s hinit hsock]
  simp only [ntpExchange, if_neg (show ¬E.socConnect.toInt < 0 by omega),
    if_neg (show ¬E.socSend.toInt < 0 by omega), hrecv, and_self]

end

theorem ntpSetTimeDate_calls {ptmSysmInit : Result} (h : rFailed ptmSysmInit = false) (setUserTime : Result)
    (timestamp : S64) (s : ServiceState) :
    (ntpSetTimeDate ptmSysmInit setUserTime timestamp s).2.calls =
      s.calls ++ [.init .ptmSysm ptmSysmInit, .ptmSysmSetUserTime (ntpMsY2k timestamp), .exit .ptmSysm] := by
  simp [ntpSetTimeDate, h, ServiceState.init, ServiceState.exit, ServiceState.call]

/-- `ntpGetTimeStamp` succeeds on every reply, a too short one or one from era 1 included, with
`txTm_s - 2208988800`. -/
theorem ntpGetTimeStamp_wrapped_timestamp :
    (∀ (E : NtpEnv) (s : ServiceState), rFailed (ntpGetTimeStamp E s).1 = false →
      ∃ datagram, E.socRecv = some datagram ∧
        (ntpGetTimeStamp E s).2.1 = some (ntpUnixTime (ntpReplyTxTmS datagram))) ∧
    (∀ (E : NtpEnv) (s : ServiceState) (datagram : List U8), rFailed E.miniSocInit = false →
      -10000 ≤ E.socSocket.toInt → 0 ≤ E.socConnect.toInt → 0 ≤ E.socSend.toInt →
      E.socRecv = some datagram →
      (ntpGetTimeStamp E s).1 = 0 ∧ (ntpGetTimeStamp E s).2.1 = some (ntpUnixTime (ntpReplyTxTmS datagram))) ∧
    (∀ datagram : List U8, datagram.length ≤ 40 → ntpReplyTxTmS datagram = 0) ∧
    (∀ txTmS : U32, (ntpUnixTime txTmS).toInt = txTmS.toNat - 2208988800 ∧
      (txTmS.msb = false → (ntpUnixTime txTmS).toInt = ntpEraUnixSeconds txTmS - 2 ^ 32) ∧
      (ntpMsY2k (ntpUnixTime txTmS)).toInt = ((ntpUnixTime txTmS).toInt - 946684800) * 1000) ∧
    (∀ (ptmSysmInit setUserTime : Result) (timestamp : S64) (s : ServiceState), rFailed ptmSysmInit = false →
      (ntpSetTimeDate ptmSysmInit setUserTime timestamp s).2.calls =
        s.calls ++ [.init .ptmSysm ptmSysmInit, .ptmSysmSetUserTime (ntpMsY2k timestamp), .exit .ptmSysm]) ∧
    ∀ t : S64, ntpUserTime ((t + 2208988800) * 1000) = ntpMsY2k t :=
  ⟨ntpGetTimeStamp_success, fun E s _ hinit hsock hconn hsend hrecv =>
      ntpGetTimeStamp_of_reply E s hinit hsock hconn hsend hrecv,
    ntpReplyTxTmS_short, fun txTmS => ⟨ntpUnixTime_toInt txTmS, ntpUnixTime_era_one, ntpMsY2k_ntpUnixTime txTmS⟩,
    fun _ setUserTime timestamp s h => ntpSetTimeDate_calls h setUserTime timestamp s, ntpUserTime_eq_ntpMsY2k⟩

def ntpEmptyReply : NtpEnv := ⟨0, 3, 0, 48, some []⟩

theorem ntpGetTimeStamp_empty_reply_1900 :
    (ntpGetTimeStamp ntpEmptyReply serviceStart).1 = 0 ∧
    (ntpGetTimeStamp ntpEmptyReply serviceStart).2.1 = some (ntpUnixTime 0) ∧
    (ntpUnixTime 0).toInt = -2208988800 ∧ (ntpUnixTime 1).toInt = ntpEraUnixSeconds 1 - 2 ^ 32 := by
  obtain ⟨-, hreply, hshort, harith, -, -⟩ := ntpGetTimeStamp_wrapped_timestamp
  obtain ⟨h0, hout⟩ := hreply ntpEmptyReply serviceStart [] (by decide) (by decide) (by decide) (by decide) rfl
  rw [hshort [] (by decide)] at hout
  exact ⟨h0, hout, by rw [(harith 0).1]; rfl, (harith 1).2.1 (by decide)⟩

end Luma
