import Luma3DS.Spec.Services

/-! Rosalina's NTP client: `ntpGetTimeStamp` asks the server for the time
over UDP, `ntpSetTimeDate` sets the user time from it, and
`ntpNullifyUserTimeOffset` writes the user time into the RTC. A `time_t` is a
signed 64-bit count of seconds from 1970-01-01 on the 3DS's newlib; it is kept
as its bits, like an `s64`, and read with `toInt`. The system's clocks count
milliseconds, `osGetTime()` from 1900-01-01 and `PTMSYSM_SetUserTime` and
`PTMSYSM_SetRtcTime` from 2000-01-01. -/

namespace Luma

/-- `NTP_TIMESTAMP_DELTA`, the seconds from 1900 to 1970, an `unsigned long long`. -/
def ntpTimestampDelta : U64 := 2208988800

def ntpPacketSize : Nat := 48

def ntpRequest : List U8 := 0x1b :: List.replicate 47 0

/-- `packet` after `socRecv(sock, &packet, sizeof(NtpPacket), 0)` took in `datagram`. -/
def ntpRecvInto (packet datagram : List U8) : List U8 :=
  datagram.take ntpPacketSize ++ packet.drop (min datagram.length ntpPacketSize)

def ntpTxTmS (packet : List U8) : U32 :=
  packet.getD 40 0 ++ packet.getD 41 0 ++ packet.getD 42 0 ++ packet.getD 43 0

/-- `(time_t)(packet.txTm_s - NTP_TIMESTAMP_DELTA)`, the difference taken modulo 2^64. -/
def ntpUnixTime (txTmS : U32) : S64 := txTmS.setWidth 64 - ntpTimestampDelta

def ntpReplyTxTmS (datagram : List U8) : U32 := ntpTxTmS (ntpRecvInto ntpRequest datagram)

/-- What the socket service answers `ntpGetTimeStamp`; `socRecv` is a negative return (`none`) or
the datagram. -/
structure NtpEnv where
  miniSocInit : Result
  socSocket : S32
  socConnect : S32
  socSend : S32
  socRecv : Option (List U8)

def ntpExchange (E : NtpEnv) (sock : S32) (s : ServiceState) : Result × Option S64 × ServiceState :=
  let s := s.call (.socConnect sock)
  if E.socConnect.toInt < 0 then (-1, none, s)
  else
    let s := s.call (.socSend sock ntpRequest)
    if E.socSend.toInt < 0 then (-1, none, s)
    else
      let s := s.call (.socRecv sock)
      match E.socRecv with
      | none => (-1, none, s)
      | some datagram => (0, some (ntpUnixTime (ntpReplyTxTmS datagram)), s)

/-- `ntpGetTimeStamp(outTimestamp)`: the result, and what it writes to
`*outTimestamp`. -/
def ntpGetTimeStamp (E : NtpEnv) (s : ServiceState) : Result × Option S64 × ServiceState :=
  let s := s.init .miniSoc E.miniSocInit
  if rFailed E.miniSocInit then (E.miniSocInit, none, s)
  else
    let sock := E.socSocket
    let s := s.call (.socSocket sock)
    if sock.toInt < -10000 then (sock, none, s)
    else
      let exchange := ntpExchange E sock s
      (exchange.1, exchange.2.1, ((exchange.2.2.call (.socSetsockoptLinger sock)).call (.socClose sock)).exit .miniSoc)

def ntpMsY2k (timestamp : S64) : S64 := (timestamp - 946684800) * 1000

/-- `ntpSetTimeDate(timestamp)`, with the results of `ptmSysmInit` and `PTMSYSM_SetUserTime`. -/
def ntpSetTimeDate (ptmSysmInit setUserTime : Result) (timestamp : S64) (s : ServiceState) :
    Result × ServiceState :=
  let s := s.init .ptmSysm ptmSysmInit
  if rFailed ptmSysmInit then (ptmSysmInit, s)
  else (setUserTime, (s.call (.ptmSysmSetUserTime (ntpMsY2k timestamp))).exit .ptmSysm)

structure NullifyEnv where
  ptmSysmInit : Result
  cfguInit : Result
  setConfigInfoBlk4 : Result
  osGetTime : U64
  setRtcTime : Result
  updateConfigSavegame : Result

/-- `osGetTime() - 3155673600000LL`, from the 1900 base to the 2000 base. -/
def ntpUserTime (osGetTime : U64) : S64 := osGetTime - 3155673600000

def ntpNullifyBody (E : NullifyEnv) (s : ServiceState) : Result × ServiceState :=
  let s := s.call (.cfgSetConfigInfoBlk4 8 0x30001 0)
  if rFailed E.setConfigInfoBlk4 then (E.setConfigInfoBlk4, s)
  else
    let s := s.call (.ptmSysmSetRtcTime (ntpUserTime E.osGetTime))
    if rFailed E.setRtcTime then (E.setRtcTime, s)
    else (E.updateConfigSavegame, (s.call .ptmSysmInvalidateSystemTime).call .cfgUpdateConfigSavegame)

def ntpNullifyUserTimeOffset (E : NullifyEnv) (s : ServiceState) : Result × ServiceState :=
  let s := s.init .ptmSysm E.ptmSysmInit
  if rFailed E.ptmSysmInit then (E.ptmSysmInit, s)
  else
    let s := s.init .cfgu E.cfguInit
    if rFailed E.cfguInit then (E.cfguInit, s.exit .ptmSysm)
    else
      let body := ntpNullifyBody E s
      (body.1, (body.2.exit .ptmSysm).exit .cfgu)

end Luma
