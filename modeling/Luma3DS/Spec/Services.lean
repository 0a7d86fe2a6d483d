import Luma3DS.Spec.Basic

/-! The system services Rosalina's menu and NTP client talk to. Each client
library keeps a count of the users of its session: `xxxInit()` counts one
more user when it reports success and none when it fails, `xxxExit()` one
fewer, closing the session at zero. The services' answers are parameters;
every call is written to a log in the order it is made.

This module also holds the two menu functions that use the `mcu::HWC` service,
`menuToggleLEDs` and `menuUpdateMcuInfo`. -/

namespace Luma

/-- `R_FAILED(res)`: the result, read as an `s32`, is negative. -/
def rFailed (res : Result) : Bool := decide (res.toInt < 0)

/-- The services whose sessions the functions open: `soc:U` through Rosalina's `miniSocInit`,
`ptm:sysm`, `cfg:u`, `mcu::HWC`. -/
inductive Service where
  | miniSoc
  | ptmSysm
  | cfgu
  | mcuHwc
  deriving DecidableEq, Repr

inductive ServiceCall where
  | init (service : Service) (res : Result)
  | exit (service : Service)
  | socSocket (sock : S32)
  | socConnect (sock : S32)
  | socSend (sock : S32) (packet : List U8)
  | socRecv (sock : S32)
  | socSetsockoptLinger (sock : S32)
  | socClose (sock : S32)
  | ptmSysmSetUserTime (msY2k : U64)
  | ptmSysmSetRtcTime (msY2k : U64)
  | ptmSysmInvalidateSystemTime
  | cfgSetConfigInfoBlk4 (size blkId : U32) (data : U64)
  | cfgUpdateConfigSavegame
  | isServiceUsable (name : String)
  | mcuHwcReadRegister (reg : U8)
  | mcuHwcWriteRegister (reg data : U8)
  | mcuHwcGetFwVerHigh
  | mcuHwcGetFwVerLow
  deriving DecidableEq, Repr

structure ServiceState where
  refCount : Service → Int
  calls : List ServiceCall

namespace ServiceState

def call (s : ServiceState) (c : ServiceCall) : ServiceState := { s with calls := s.calls ++ [c] }

/-- `xxxInit()` reporting `res`. -/
def init (s : ServiceState) (sv : Service) (res : Result) : ServiceState :=
  let s := s.call (.init sv res)
  if rFailed res then s else { s with refCount := Function.update s.refCount sv (s.refCount sv + 1) }

/-- `xxxExit()`. -/
def exit (s : ServiceState) (sv : Service) : ServiceState :=
  let s := s.call (.exit sv)
  { s with refCount := Function.update s.refCount sv (s.refCount sv - 1) }

@[simp] theorem call_calls (s : ServiceState) (c : ServiceCall) : (s.call c).calls = s.calls ++ [c] := rfl

@[simp] theorem init_calls (s : ServiceState) (sv : Service) (res : Result) :
    (s.init sv res).calls = s.calls ++ [.init sv res] := by
  unfold init; split <;> rfl

@[simp] theorem exit_calls (s : ServiceState) (sv : Service) : (s.exit sv).calls = s.calls ++ [.exit sv] := rfl

end ServiceState

def serviceStart : ServiceState := ⟨fun _ => 0, []⟩

structure McuFwQuery where
  sendSyncRequest : Result
  resultWord : Result
  fwByte : U8

/-- libctru's `MCUHWC_GetFwVerHigh` and `MCUHWC_GetFwVerLow` on `*out`: a
request that goes through stores the reply's byte, whatever its result word. -/
def mcuHwcGetFwVer (q : McuFwQuery) (out : U8) : Result × U8 :=
  if rFailed q.sendSyncRequest then (q.sendSyncRequest, out) else (q.resultWord, q.fwByte)

structure McuEnv where
  serviceUsable : Bool
  mcuHwcInit : Result
  readRegister : U8 → Result × U8
  getFwVerHigh : McuFwQuery
  getFwVerLow : McuFwQuery

structure McuGlobals where
  ledsOff : Bool
  batteryTemperature : U8
  batteryRegs : U8 × U8 × U8
  mcuFwVersion : U32

/-- The byte `MCUHWC_ReadRegister` leaves in its buffer: the register when the call succeeds, the
old byte otherwise. -/
def mcuReadByte (E : McuEnv) (reg old : U8) : U8 :=
  if rFailed (E.readRegister reg).1 then old else (E.readRegister reg).2

/-- `menuToggleLEDs()`, which does not look at `mcuHwcInit`'s result; `garbage` is the uninitialised
`result`. -/
def menuToggleLEDs (E : McuEnv) (garbage : U8) (g : McuGlobals) (s : ServiceState) :
    McuGlobals × ServiceState :=
  let s := s.init .mcuHwc E.mcuHwcInit
  let result := mcuReadByte E 0x28 garbage
  let s := s.call (.mcuHwcReadRegister 0x28)
  let s := s.call (.mcuHwcWriteRegister 0x28 (~~~result))
  ({ g with ledsOff := !g.ledsOff }, s.exit .mcuHwc)

/-- The register loop of `menuUpdateMcuInfo`, stopping at the first failure: the last result and the
bytes read. -/
def mcuReadRegisters (E : McuEnv) : List U8 → Result → ServiceState → Result × List U8 × ServiceState
  | [], res, s => (res, [], s)
  | reg :: regs, _, s =>
    let s := s.call (.mcuHwcReadRegister reg)
    let res := (E.readRegister reg).1
    if rFailed res then (res, [], s)
    else
      let rest := mcuReadRegisters E regs res s
      (rest.1, (E.readRegister reg).2 :: rest.2.1, rest.2.2)

/-- `SYSTEM_VERSION(major - 0x10, minor, 0)` in `int`, stored in a `u32`. -/
def mcuFwVersionOf (major minor : U8) : U32 :=
  ((major.setWidth 32 - 0x10) <<< 24) ||| (minor.setWidth 32 <<< 16)

def mcuReadFwVersion (E : McuEnv) (g : McuGlobals) (s : ServiceState) : McuGlobals × ServiceState :=
  if g.mcuFwVersion = 0 then
    let major := (mcuHwcGetFwVer E.getFwVerHigh 0).2
    let minor := (mcuHwcGetFwVer E.getFwVerLow 0).2
    ({ g with mcuFwVersion := mcuFwVersionOf major minor }, (s.call .mcuHwcGetFwVerHigh).call .mcuHwcGetFwVerLow)
  else (g, s)

def mcuHwcServiceName : String := "mcu::HWC"

def menuUpdateMcuInfo (E : McuEnv) (g : McuGlobals) (s : ServiceState) : Result × McuGlobals × ServiceState :=
  let s := s.call (.isServiceUsable mcuHwcServiceName)
  if !E.serviceUsable then (-1, g, s)
  else
    let s := s.init .mcuHwc E.mcuHwcInit
    if rFailed E.mcuHwcInit then (E.mcuHwcInit, g, s)
    else
      let regs := mcuReadRegisters E [0xA, 0xB, 0xC, 0xD] E.mcuHwcInit s
      let data := regs.2.1
      let g := if rFailed regs.1 then g
        else { g with
          batteryTemperature := data.getD 0 0
          batteryRegs := (data.getD 1 0, data.getD 2 0, data.getD 3 0) }
      let fw := mcuReadFwVersion E g regs.2.2
      (regs.1, fw.1, fw.2.exit .mcuHwc)

end Luma
