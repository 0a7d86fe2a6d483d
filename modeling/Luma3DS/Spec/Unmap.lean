import Luma3DS.Spec.Svc

/-! `UnmapProcessMemoryEx`, the custom SVC `0xA1`. The kernel services it calls
are parameters; each call is written to a log in the order it is made, and
the reference counts the calls change are part of the state. -/

namespace Luma

def curProcessHandle : Handle := 0xFFFF8001

/-- What `UnmapProcessMemoryEx` reads of the kernel: its version, the running process and the
services it calls. -/
structure UnmapEnv where
  kernelVersion : U32
  currentProcess : Ptr
  currentProcess_ne_null : currentProcess ≠ 0
  unmapProcessMemory : Handle → U32 → U32 → Result
  toKProcess : Handle → Ptr
  hwInfoOfProcess : Ptr → Ptr
  hwUnmapProcessMemory : Ptr → U32 → U32 → Result

inductive KernelCall where
  | unmapProcessMemory (processHandle : Handle) (dst size : U32)
  | addReference (object : Ptr)
  | toKProcess (processHandle : Handle)
  | hwUnmapProcessMemory (hwInfo : Ptr) (dst pages : U32)
  | decrementReferenceCount (object : Ptr)
  | invalidateEntireInstructionCache
  | flushEntireDataCache
  deriving DecidableEq, Repr

structure UnmapState where
  refCount : Ptr → Nat
  calls : List KernelCall

namespace UnmapState

def call (s : UnmapState) (c : KernelCall) : UnmapState := { s with calls := s.calls ++ [c] }

def addReference (s : UnmapState) (p : Ptr) : UnmapState :=
  { s with refCount := Function.update s.refCount p (s.refCount p + 1) }

def decrementReferenceCount (s : UnmapState) (p : Ptr) : UnmapState :=
  { s with refCount := Function.update s.refCount p (s.refCount p - 1) }

end UnmapState

def resolveProcess (E : UnmapEnv) (processHandle : Handle) (s : UnmapState) : Ptr × UnmapState :=
  if processHandle = curProcessHandle then
    (E.currentProcess, (s.call (.addReference E.currentProcess)).addReference E.currentProcess)
  else
    let process := E.toKProcess processHandle
    let s := s.call (.toKProcess processHandle)
    (process, if process = 0 then s else s.addReference process)

def unmapProcessMemoryEx (E : UnmapEnv) (processHandle : Handle) (dst size : U32) (s : UnmapState) :
    Result × UnmapState :=
  if getVersionMinor E.kernelVersion < 37 then
    (E.unmapProcessMemory processHandle dst size, s.call (.unmapProcessMemory processHandle dst size))
  else
    let (process, s) := resolveProcess E processHandle s
    if process = 0 then (0xD8E007F7, s)
    else
      let hwInfo := E.hwInfoOfProcess process
      let res := E.hwUnmapProcessMemory hwInfo dst (size >>> 12)
      let s := s.call (.hwUnmapProcessMemory hwInfo dst (size >>> 12))
      let s := (s.call (.decrementReferenceCount process)).decrementReferenceCount process
      let s := (s.call .invalidateEntireInstructionCache).call .flushEntireDataCache
      (res, s)

end Luma
