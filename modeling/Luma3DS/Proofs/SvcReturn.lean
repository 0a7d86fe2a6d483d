import Luma3DS.Proofs.SvcDispatch

/-! What `signalSvcReturn` does to the current process's `customFlags`. Run at
once, it clears `MemLayoutChanged` and signals the layout event exactly when
both layout bits are set, and changes no other bit. But it reads the flags
before `SignalDebugEvent`, where the thread may block, and writes that snapshot
back afterwards: whatever other parties did to the flags meanwhile is undone,
and the event is signalled on the strength of the stale test. -/

namespace Luma

namespace KernelState

variable (k : KernelState)

@[simp] theorem setCustomFlags_processes_self (p : Ptr) (flags : U32) :
    (k.setCustomFlags p flags).processes p = { k.processes p with customFlags := flags } := by
  simp [setCustomFlags]

@[simp] theorem setCustomFlags_currentProcess (p : Ptr) (flags : U32) :
    (k.setCustomFlags p flags).currentProcess = k.currentProcess := rfl

@[simp] theorem signal_processes (e : KEvent) : (k.signal e).processes = k.processes := rfl

@[simp] theorem signal_signalled_self (e : KEvent) : (k.signal e).signalled e = true := by
  simp [signal]

@[simp] theorem signalDebugEvent_processes (marker svcId : U32) :
    (k.signalDebugEvent marker svcId).processes = k.processes := rfl

@[simp] theorem signalDebugEvent_currentProcess (marker svcId : U32) :
    (k.signalDebugEvent marker svcId).currentProcess = k.currentProcess := rfl

@[simp] theorem foldl_updateCustomFlags_currentProcess (updates : List (U32 → U32)) :
    (updates.foldl updateCustomFlags k).currentProcess = k.currentProcess := by
  induction updates generalizing k with
  | nil => rfl
  | cons u us ih => exact ih _

end KernelState

section

variable (F : CustomFlagBits) (flags : U32) (k : KernelState)

def LayoutChanged : Prop :=
  flags &&& bitMask F.signalOnMemLayoutChanges ≠ 0 ∧ flags &&& bitMask F.memLayoutChanged ≠ 0

instance : Decidable (LayoutChanged F flags) := inferInstanceAs (Decidable (_ ∧ _))

theorem signalSvcReturnLeave_of_layoutChanged (h : LayoutChanged F flags) :
    ((signalSvcReturnLeave F flags k).processes k.currentProcess).customFlags =
      flags &&& ~~~bitMask F.memLayoutChanged ∧
    (signalSvcReturnLeave F flags k).signalled (.memoryLayoutChange k.currentProcess) = true := by
  unfold LayoutChanged at h
  rw [signalSvcReturnLeave, if_pos h]
  simp

theorem signalSvcReturnLeave_of_not_layoutChanged (h : ¬ LayoutChanged F flags) :
    signalSvcReturnLeave F flags k = k := by
  unfold LayoutChanged at h
  rw [signalSvcReturnLeave, if_neg h]

end

section

variable (F : CustomFlagBits) (shouldSignal : ShouldSignal) (mem : Nat → U8) (pageEnd : Nat)
  (k : KernelState)

/-- The hook as the code runs it is the run in which no other party acts. -/
theorem signalSvcReturn_eq_interleaved_nil :
    signalSvcReturn F shouldSignal mem pageEnd k = signalSvcReturnInterleaved F shouldSignal mem pageEnd [] k := by
  simp only [signalSvcReturn, signalSvcReturnInterleaved, List.foldl_nil, ite_self]

theorem signalSvcReturn_customFlags :
    ((signalSvcReturn F shouldSignal mem pageEnd k).processes k.currentProcess).customFlags =
      if LayoutChanged F (k.processes k.currentProcess).customFlags then
        (k.processes k.currentProcess).customFlags &&& ~~~bitMask F.memLayoutChanged
      else (k.processes k.currentProcess).customFlags := by
  simp only [signalSvcReturn, signalSvcReturnEnter_eq]
  by_cases hl : LayoutChanged F (k.processes k.currentProcess).customFlags
  · rw [if_pos hl]
    split <;> exact (signalSvcReturnLeave_of_layoutChanged F _ _ hl).1
  · rw [if_neg hl]
    split <;> simp [signalSvcReturnLeave_of_not_layoutChanged F _ _ hl]

/-- For every update made while the hook blocks, the flags end as the entry snapshot without
`MemLayoutChanged`. -/
theorem signalSvcReturn_restores_stale_flags (updates : List (U32 → U32))
    (hblock : (k.processes k.currentProcess).debugged ∧ shouldSignal k.currentProcess (frameSvcId mem pageEnd))
    (hlayout : LayoutChanged F (k.processes k.currentProcess).customFlags) :
    ((signalSvcReturnInterleaved F shouldSignal mem pageEnd updates k).processes k.currentProcess).customFlags =
      (k.processes k.currentProcess).customFlags &&& ~~~bitMask F.memLayoutChanged ∧
    (signalSvcReturnInterleaved F shouldSignal mem pageEnd updates k).signalled
      (.memoryLayoutChange k.currentProcess) = true := by
  simp only [signalSvcReturnInterleaved, signalSvcReturnEnter_eq, if_pos hblock]
  have := signalSvcReturnLeave_of_layoutChanged F _
    (updates.foldl KernelState.updateCustomFlags
      (k.signalDebugEvent 0xFFFFFFFF (frameSvcId mem pageEnd))) hlayout
  simpa using this

end

def layoutChangedKernel : KernelState where
  processes := fun _ =>
    ⟨bitMask lowFlagBits.signalOnMemLayoutChanges ||| bitMask lowFlagBits.memLayoutChanged, true⟩
  threads := fun _ => ⟨0, 0⟩
  nodes := fun _ => ⟨0, 0⟩
  currentProcess := 1
  threadListFirst := 0
  threadListEnd := 0
  pluginRunning := false
  signalled := fun _ => false
  debugEvents := []

theorem signalSvcReturn_drops_signalOnExit :
    (layoutChangedKernel.processes layoutChangedKernel.currentProcess).debugged ∧
    LayoutChanged lowFlagBits (layoutChangedKernel.processes layoutChangedKernel.currentProcess).customFlags ∧
    ((layoutChangedKernel.updateCustomFlags (· ||| bitMask lowFlagBits.signalOnExit)).processes
      layoutChangedKernel.currentProcess).customFlags &&& bitMask lowFlagBits.signalOnExit ≠ 0 ∧
    ((signalSvcReturnInterleaved lowFlagBits (fun _ _ => true) (fun _ => 0) 0x1000
      [(· ||| bitMask lowFlagBits.signalOnExit)] layoutChangedKernel).processes
      layoutChangedKernel.currentProcess).customFlags &&& bitMask lowFlagBits.signalOnExit = 0 := by
  obtain ⟨hflags, -⟩ := signalSvcReturn_restores_stale_flags lowFlagBits (fun _ _ => true) (fun _ => 0) 0x1000
    layoutChangedKernel [(· ||| bitMask lowFlagBits.signalOnExit)] ⟨rfl, rfl⟩ (by decide)
  refine ⟨rfl, by decide, by decide, ?_⟩
  rw [hflags]
  decide

end Luma
