import Mathlib.Data.BitVec

/-! Machine words, kernel handles and the IPC command-buffer encoding shared by
the Rosalina services and the kernel extension. Words are `BitVec`s of the C
types' widths; memory the code reads byte-wise is a function from addresses. -/

namespace Luma

abbrev U8 := BitVec 8
abbrev U32 := BitVec 32
abbrev U64 := BitVec 64

/-- An `int` or `s32`, read as signed with `toInt`. -/
abbrev S32 := BitVec 32

abbrev S64 := BitVec 64

abbrev Handle := U32

abbrev Result := U32

/-- libctru's `IPC_MakeHeader`. -/
def ipcMakeHeader (commandId normalParams translateParams : U32) : U32 :=
  (commandId <<< 16) ||| ((normalParams &&& 0x3F) <<< 6) ||| (translateParams &&& 0x3F)

/-- libctru's `IPC_Desc_StaticBuffer`. -/
def ipcDescStaticBuffer (size bufferId : U32) : U32 :=
  (size <<< 14) ||| ((bufferId &&& 0xF) <<< 10) ||| 0x2

/-- libctru's `GET_VERSION_MAJOR`, `GET_VERSION_MINOR` and `GET_VERSION_REVISION`. -/
def getVersionMajor (version : U32) : Nat := (version >>> 24).toNat
def getVersionMinor (version : U32) : Nat := ((version >>> 16) &&& 0xFF).toNat
def getVersionRevision (version : U32) : Nat := ((version >>> 8) &&& 0xFF).toNat

def wordBytes (w : U32) : List U8 :=
  [w.extractLsb' 0 8, w.extractLsb' 8 8, w.extractLsb' 16 8, w.extractLsb' 24 8]

def readU32 (mem : Nat → U8) (addr : Nat) : U32 :=
  mem (addr + 3) ++ mem (addr + 2) ++ mem (addr + 1) ++ mem addr

def cString (buf : List U8) : List U8 := buf.takeWhile (· ≠ 0)

@[simp] theorem wordBytes_length (w : U32) : (wordBytes w).length = 4 := rfl

example : ipcMakeHeader 2 1 2 = 0x00020042 := by decide

end Luma
