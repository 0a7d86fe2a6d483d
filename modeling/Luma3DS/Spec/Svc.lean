import Luma3DS.Spec.Basic

/-! The kernel extension's SVC hooks: `signalSvcEntry` and `signalSvcReturn`
around every call, and `svcHook`, which picks the handler. The kernel objects
they touch are records in maps from addresses: processes with their custom
flags and debugger, threads with their owner and scheduling mask, and the nodes
of the global thread list. Kernel services they call are parameters. -/

namespace Luma

abbrev Ptr := Nat

/-- The bits of `KProcess::customFlags` the hooks use: distinct bits, at the kernel extension's
positions. -/
structure CustomFlagBits where
  signalOnExit : Fin 32
  signalOnMemLayoutChanges : Fin 32
  memLayoutChanged : Fin 32
  exit_ne_signal : signalOnExit ≠ signalOnMemLayoutChanges
  exit_ne_changed : signalOnExit ≠ memLayoutChanged
  signal_ne_changed : signalOnMemLayoutChanges ≠ memLayoutChanged

def lowFlagBits : CustomFlagBits := ⟨0, 1, 2, by decide, by decide, by decide⟩

def bitMask (b : Fin 32) : U32 := BitVec.twoPow 32 b

structure KProcess where
  customFlags : U32
  debugged : Bool

structure KThread where
  ownerProcess : Ptr
  schedulingMask : U8

structure KLinkedListNode where
  next : Ptr
  key : Ptr

inductive KEvent where
  | pluginExit
  | memoryLayoutChange (process : Ptr)
  deriving DecidableEq, Repr

structure DebugEvent where
  marker : U32
  svcId : U32
  deriving DecidableEq, Repr

/-- What the hooks read and write of the kernel; an event object stays signalled once signalled. -/
structure KernelState where
  processes : Ptr → KProcess
  threads : Ptr → KThread
  nodes : Ptr → KLinkedListNode
  currentProcess : Ptr
  threadListFirst : Ptr
  threadListEnd : Ptr
  pluginRunning : Bool
  signalled : KEvent → Bool
  debugEvents : List DebugEvent

namespace KernelState

def signal (k : KernelState) (e : KEvent) : KernelState :=
  { k with signalled := Function.update k.signalled e true }

def signalDebugEvent (k : KernelState) (marker svcId : U32) : KernelState :=
  { k with debugEvents := k.debugEvents ++ [⟨marker, svcId⟩] }

def setCustomFlags (k : KernelState) (p : Ptr) (flags : U32) : KernelState :=
  { k with processes := Function.update k.processes p { k.processes p with customFlags := flags } }

end KernelState

/-- The identifier the hooks derive from a frame: the byte at `pageEnd - 0xB5`, or the saved `r12`
after the escape `0xFE`. -/
def frameSvcId (mem : Nat → U8) (pageEnd : Nat) : U32 :=
  if mem (pageEnd - 0xB5) = 0xFE then readU32 mem (pageEnd - 0x110 + 8 * 4)
  else (mem (pageEnd - 0xB5)).zeroExtend 32

abbrev ShouldSignal := Ptr → U32 → Bool

def signalSvcEntry (shouldSignal : ShouldSignal) (mem : Nat → U8) (pageEnd : Nat)
    (k : KernelState) : KernelState :=
  let svcId : U32 := (mem (pageEnd - 0xB5)).zeroExtend 32
  let currentProcess := k.currentProcess
  let svcId := if svcId = 0xFE then readU32 mem (pageEnd - 0x110 + 8 * 4) else svcId
  if (k.processes currentProcess).debugged ∧ shouldSignal currentProcess svcId then
    k.signalDebugEvent 0xFFFFFFFE svcId
  else k

/-- `signalSvcReturn` up to its `SignalDebugEvent`, where the thread may block: the snapshot `flags`
and the state. -/
def signalSvcReturnEnter (shouldSignal : ShouldSignal) (mem : Nat → U8) (pageEnd : Nat)
    (k : KernelState) : U32 × KernelState :=
  let svcId : U32 := (mem (pageEnd - 0xB5)).zeroExtend 32
  let currentProcess := k.currentProcess
  let flags := (k.processes currentProcess).customFlags
  let svcId := if svcId = 0xFE then readU32 mem (pageEnd - 0x110 + 8 * 4) else svcId
  if (k.processes currentProcess).debugged ∧ shouldSignal currentProcess svcId then
    (flags, k.signalDebugEvent 0xFFFFFFFF svcId)
  else (flags, k)

def signalSvcReturnLeave (F : CustomFlagBits) (flags : U32) (k : KernelState) : KernelState :=
  if flags &&& bitMask F.signalOnMemLayoutChanges ≠ 0 ∧ flags &&& bitMask F.memLayoutChanged ≠ 0 then
    (k.setCustomFlags k.currentProcess (flags &&& ~~~bitMask F.memLayoutChanged)).signal
      (.memoryLayoutChange k.currentProcess)
  else k

def signalSvcReturn (F : CustomFlagBits) (shouldSignal : ShouldSignal) (mem : Nat → U8) (pageEnd : Nat)
    (k : KernelState) : KernelState :=
  let (flags, k) := signalSvcReturnEnter shouldSignal mem pageEnd k
  signalSvcReturnLeave F flags k

/-- Another party's update of the current process's `customFlags`. -/
def KernelState.updateCustomFlags (k : KernelState) (u : U32 → U32) : KernelState :=
  k.setCustomFlags k.currentProcess (u (k.processes k.currentProcess).customFlags)

/-- `signalSvcReturn` while other parties apply `updates` during the thread's block in
`SignalDebugEvent`. -/
def signalSvcReturnInterleaved (F : CustomFlagBits) (shouldSignal : ShouldSignal) (mem : Nat → U8)
    (pageEnd : Nat) (updates : List (U32 → U32)) (k : KernelState) : KernelState :=
  let (flags, k') := signalSvcReturnEnter shouldSignal mem pageEnd k
  let blocks := (k.processes k.currentProcess).debugged ∧ shouldSignal k.currentProcess (frameSvcId mem pageEnd)
  signalSvcReturnLeave F flags (if blocks then updates.foldl KernelState.updateCustomFlags k' else k')

inductive Handler where
  | official (index : Nat)
  | controlMemoryHookWrapper
  | getHandleInfoHookWrapper
  | getSystemInfoHookWrapper
  | getProcessInfoHookWrapper
  | getThreadInfoHookWrapper
  | connectToPortHookWrapper
  | getCFWInfo
  | sendSyncRequestHook
  | «break»
  | setGpuProt
  | setWifiEnabled
  | backdoor
  | kernelSetStateHook
  | customBackdoor
  | convertVAToPA
  | flushDataCacheRange
  | flushEntireDataCache
  | invalidateInstructionCacheRange
  | invalidateEntireInstructionCache
  | mapProcessMemoryExWrapper
  | unmapProcessMemoryEx
  | controlMemoryEx
  | controlMemoryUnsafeWrapper
  | controlService
  | copyHandleWrapper
  | translateHandleWrapper
  | controlProcess
  | null
  deriving DecidableEq, Repr

def svcCases (debugged : Bool) : List (Nat × Handler) :=
  [(0x01, .controlMemoryHookWrapper), (0x03, .official 0x3),
    (0x29, .getHandleInfoHookWrapper), (0x2A, .getSystemInfoHookWrapper),
    (0x2B, .getProcessInfoHookWrapper), (0x2C, .getThreadInfoHookWrapper),
    (0x2D, .connectToPortHookWrapper), (0x2E, .getCFWInfo), (0x32, .sendSyncRequestHook),
    (0x3C, if debugged then .official 0x3C else .«break»), (0x59, .setGpuProt),
    (0x5A, .setWifiEnabled), (0x7B, .backdoor), (0x7C, .kernelSetStateHook),
    (0x80, .customBackdoor),
    (0x90, .convertVAToPA), (0x91, .flushDataCacheRange), (0x92, .flushEntireDataCache),
    (0x93, .invalidateInstructionCacheRange), (0x94, .invalidateEntireInstructionCache),
    (0xA0, .mapProcessMemoryExWrapper), (0xA1, .unmapProcessMemoryEx), (0xA2, .controlMemoryEx),
    (0xA3, .controlMemoryUnsafeWrapper),
    (0xB0, .controlService), (0xB1, .copyHandleWrapper), (0xB2, .translateHandleWrapper),
    (0xB3, .controlProcess)]

/-- The value `svcHook`'s switch returns for `svcId`: its `case`, or the `default` branch. -/
def svcTable (debugged : Bool) (svcId : Nat) : Handler :=
  ((svcCases debugged).lookup svcId).getD (if svcId ≤ 0x7D then .official svcId else .null)

/-- The walk over `threadList` in the exit path; `none` is a walk that has not reached the sentinel
within `fuel` nodes. -/
def unlockThreads (k : KernelState) : Nat → (Ptr → KThread) → Ptr → Option (Ptr → KThread)
  | 0, _, _ => none
  | fuel + 1, threads, node =>
    if node = k.threadListEnd then some threads
    else
      let thread := (k.nodes node).key
      let t := threads thread
      let threads :=
        if t.ownerProcess = k.currentProcess ∧ t.schedulingMask &&& 0x20 ≠ 0 then
          Function.update threads thread { t with schedulingMask := t.schedulingMask &&& ~~~0x20 }
        else threads
      unlockThreads k fuel threads (k.nodes node).next

/-- `case 0x03` of `svcHook` before its `return`. -/
def svcExitProcessHook (F : CustomFlagBits) (fuel : Nat) (k : KernelState) : Option KernelState :=
  let flags := (k.processes k.currentProcess).customFlags
  if flags &&& bitMask F.signalOnExit ≠ 0 then
    let k := if k.pluginRunning then k.signal .pluginExit else k
    (unlockThreads k fuel k.threads k.threadListFirst).map fun threads => { k with threads }
  else some k

def svcHook (F : CustomFlagBits) (fuel : Nat) (mem : Nat → U8) (pageEnd : Nat) (k : KernelState) :
    Option (Handler × KernelState) :=
  let currentProcess := k.currentProcess
  let svcId : U32 := (mem (pageEnd - 0xB5)).zeroExtend 32
  let svcId := if svcId = 0xFE then readU32 mem (pageEnd - 0x110 + 8 * 4) else svcId
  let handler := svcTable (k.processes currentProcess).debugged svcId.toNat
  if svcId.toNat = 0x03 then (svcExitProcessHook F fuel k).map fun k => (handler, k)
  else some (handler, k)

end Luma
