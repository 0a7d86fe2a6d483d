import Luma3DS.Spec.Basic

/-! The fatal-error record of the `err:f` service and `ERRF_FormatError`, the
text the error screen shows for it. A record is the 0x80 bytes
`ERRF_GetErrInfo` copies from the request; the fields are read at libctru's
offsets. The formatter is a partial function: `none` is a table lookup outside
its table. -/

namespace Luma

/-- `ERRF_FatalErrInfo`, as its bytes. -/
structure FatalErrInfo where
  bytes : List U8
  length_eq : bytes.length = 0x80

namespace FatalErrInfo

variable (info : FatalErrInfo)

def byte (off : Nat) : U8 := info.bytes.getD off 0

def word (off : Nat) : U32 := readU32 info.byte off

def type : U8 := info.byte 0
def procId : U32 := info.word 0xC

/-- `((u32 *)&data.exception_data.regs)[i]`: `CpuRegisters` at 0x38. -/
def reg (i : Nat) : U32 := info.word (0x38 + 4 * i)

end FatalErrInfo

def errTypeLogged : U8 := 5

def fmtDec (n : Nat) : List Char := Nat.toDigits 10 n

end Luma
