import Luma3DS.Proofs.SvcDispatch

/-! The exit path of `svcHook` (`svcExitProcess`, identifier `0x03`). When the
current process asks to be signalled on exit, the walk over `threadList` ends
on every finite list, releases bit `0x20` of the scheduling mask of each listed
thread the process owns and touches nothing else, and a second run finds
nothing left to do. Whatever the flags, the handler is `officialSVCs[3]`. -/

namespace Luma

theorem getLsbD_0x20 (i : Nat) : (0x20 : U8).getLsbD i = decide (i = 5) := by
  rw [show (0x20 : U8) = BitVec.twoPow 8 5 by decide, BitVec.getLsbD_twoPow]
  by_cases h : i = 5 <;> simp [h]; omega

theorem getLsbD_and_not_0x20 (m : U8) (i : Nat) :
    (m &&& ~~~0x20).getLsbD i = (m.getLsbD i && decide (i ≠ 5)) := by
  rw [BitVec.getLsbD_and, BitVec.getLsbD_not, getLsbD_0x20]
  by_cases hi : i < 8
  · by_cases h : i = 5 <;> simp [h, hi]
  · simp [BitVec.getLsbD_ge m i (by omega)]

theorem and_not_0x20_of_clear {m : U8} (h : m &&& 0x20 = 0) : m &&& ~~~0x20 = m := by
  have h5 : m.getLsbD 5 = false := by simpa [getLsbD_0x20] using congrArg (·.getLsbD 5) h
  apply BitVec.eq_of_getLsbD_eq
  rintro ⟨i, -⟩
  rw [getLsbD_and_not_0x20]
  by_cases hi : i = 5
  · subst hi; simp [h5]
  · simp [hi]

def KThread.unlock (t : KThread) : KThread := { t with schedulingMask := t.schedulingMask &&& ~~~0x20 }

@[simp] theorem KThread.unlock_ownerProcess (t : KThread) : t.unlock.ownerProcess = t.ownerProcess := rfl

@[simp] theorem KThread.unlock_schedulingMask_getLsbD (t : KThread) (i : Nat) :
    t.unlock.schedulingMask.getLsbD i = (t.schedulingMask.getLsbD i && decide (i ≠ 5)) :=
  getLsbD_and_not_0x20 _ _

@[simp] theorem KThread.unlock_unlock (t : KThread) : t.unlock.unlock = t.unlock := by
  simp only [KThread.unlock, BitVec.and_assoc, BitVec.and_self]

def releaseStep (cur : Ptr) (threads : Ptr → KThread) (thread : Ptr) : Ptr → KThread :=
  if (threads thread).ownerProcess = cur then Function.update threads thread (threads thread).unlock
  else threads

theorem unlockThreads_body (cur : Ptr) (threads : Ptr → KThread) (thread : Ptr) :
    (if (threads thread).ownerProcess = cur ∧ (threads thread).schedulingMask &&& 0x20 ≠ 0 then
      Function.update threads thread
        { threads thread with schedulingMask := (threads thread).schedulingMask &&& ~~~0x20 }
    else threads) = releaseStep cur threads thread := by
  unfold releaseStep
  by_cases ho : (threads thread).ownerProcess = cur
  · by_cases hm : (threads thread).schedulingMask &&& 0x20 = 0
    · rw [if_neg (fun h => h.2 hm), if_pos ho, KThread.unlock, and_not_0x20_of_clear hm]
      exact (Function.update_eq_self _ _).symm
    · rw [if_pos ⟨ho, hm⟩, if_pos ho]; rfl
  · rw [if_neg (fun h => ho h.1), if_neg ho]

/-- `ns` are the nodes met from `node` by following `next` up to the sentinel. -/
inductive ThreadChain (nodes : Ptr → KLinkedListNode) (sentinel : Ptr) : Ptr → List Ptr → Prop
  | nil : ThreadChain nodes sentinel sentinel []
  | cons {n : Ptr} {ns : List Ptr} :
      n ≠ sentinel → ThreadChain nodes sentinel (nodes n).next ns → ThreadChain nodes sentinel n (n :: ns)

/-- With more fuel than nodes, the walk reaches the sentinel, having applied `releaseStep` to each
node's thread. -/
theorem unlockThreads_chain {k : KernelState} {node : Ptr} {ns : List Ptr}
    (h : ThreadChain k.nodes k.threadListEnd node ns) (threads : Ptr → KThread) {fuel : Nat}
    (hf : ns.length < fuel) :
    unlockThreads k fuel threads node =
      some ((ns.map fun n => (k.nodes n).key).foldl (releaseStep k.currentProcess) threads) := by
  induction h generalizing threads fuel with
  | nil =>
    obtain ⟨fuel, rfl⟩ : ∃ f, fuel = f + 1 := ⟨fuel - 1, by simp at hf; omega⟩
    simp [unlockThreads]
  | cons hn _ ih =>
    obtain ⟨fuel, rfl⟩ : ∃ f, fuel = f + 1 := ⟨fuel - 1, by simp at hf; omega⟩
    simp only [unlockThreads, if_neg hn, unlockThreads_body]
    exact ih _ (by simpa using hf)

theorem foldl_releaseStep (cur : Ptr) (keys : List Ptr) (threads : Ptr → KThread) (t : Ptr) :
    keys.foldl (releaseStep cur) threads t =
      if t ∈ keys ∧ (threads t).ownerProcess = cur then (threads t).unlock else threads t := by
  induction keys generalizing threads with
  | nil => simp
  | cons key keys ih =>
    rw [List.foldl_cons, ih]
    by_cases ht : t = key
    · subst ht
      by_cases ho : (threads t).ownerProcess = cur <;> simp [releaseStep, ho]
    · have : releaseStep cur threads key t = threads t := by
        unfold releaseStep; split <;> simp [Function.update_noteq ht]
      simp [this, ht]

theorem foldl_releaseStep_idem (cur : Ptr) (keys : List Ptr) (threads : Ptr → KThread) :
    keys.foldl (releaseStep cur) (keys.foldl (releaseStep cur) threads) = keys.foldl (releaseStep cur) threads :=
  funext fun t => by
    rw [foldl_releaseStep, foldl_releaseStep]
    by_cases h : t ∈ keys ∧ (threads t).ownerProcess = cur <;> simp [h]

/-- The state the exit path leaves when `SignalOnExit` is set and the walk visits `ns`. -/
def exitProcessResult (k : KernelState) (ns : List Ptr) : KernelState :=
  { k with
    signalled := if k.pluginRunning then Function.update k.signalled .pluginExit true else k.signalled
    threads := (ns.map fun n => (k.nodes n).key).foldl (releaseStep k.currentProcess) k.threads }

section

variable (F : CustomFlagBits) (k : KernelState) (ns : List Ptr)

theorem svcExitProcessHook_chain (hchain : ThreadChain k.nodes k.threadListEnd k.threadListFirst ns)
    (hflag : (k.processes k.currentProcess).customFlags &&& bitMask F.signalOnExit ≠ 0)
    {fuel : Nat} (hf : ns.length < fuel) :
    svcExitProcessHook F fuel k = some (exitProcessResult k ns) := by
  unfold svcExitProcessHook
  rw [if_pos hflag]
  cases hp : k.pluginRunning
  · simp only [Bool.false_eq_true, ite_false, unlockThreads_chain hchain _ hf, Option.map_some']
    simp [exitProcessResult, hp]
  · have hchain' : ThreadChain (k.signal .pluginExit).nodes (k.signal .pluginExit).threadListEnd
        (k.signal .pluginExit).threadListFirst ns := hchain
    simp only [ite_true, unlockThreads_chain hchain' _ hf, Option.map_some']
    simp [exitProcessResult, hp, KernelState.signal]

theorem exitProcessResult_idem : exitProcessResult (exitProcessResult k ns) ns = exitProcessResult k ns := by
  simp only [exitProcessResult, KernelState.mk.injEq, foldl_releaseStep_idem, true_and, and_true]
  cases k.pluginRunning <;> simp

theorem svcExitProcessHook_of_clear {fuel : Nat}
    (h : (k.processes k.currentProcess).customFlags &&& bitMask F.signalOnExit = 0) :
    svcExitProcessHook F fuel k = some k := by
  simp [svcExitProcessHook, h]

theorem svcHook_exitProcess {fuel : Nat} {mem : Nat → U8} {pageEnd : Nat} (h : frameSvcId mem pageEnd = 3) :
    svcHook F fuel mem pageEnd k = (svcExitProcessHook F fuel k).map fun k' => (.official 3, k') := by
  rw [svcHook_eq, if_pos (by rw [h]; rfl)]

end

theorem exitProcessResult_threads (k : KernelState) (ns : List Ptr) (t : Ptr) :
    (exitProcessResult k ns).threads t =
      if t ∈ ns.map (fun n => (k.nodes n).key) ∧ (k.threads t).ownerProcess = k.currentProcess
      then (k.threads t).unlock else k.threads t :=
  foldl_releaseStep _ _ _ _

/-- On every finite thread list, the exit path releases exactly the current process's threads, once.
-/
theorem svcExitProcess_unlocks_threads (F : CustomFlagBits) (k : KernelState) (ns : List Ptr)
    (hchain : ThreadChain k.nodes k.threadListEnd k.threadListFirst ns)
    (hflag : (k.processes k.currentProcess).customFlags &&& bitMask F.signalOnExit ≠ 0) :
    ∃ k' : KernelState,
      (∀ fuel, ns.length < fuel → svcExitProcessHook F fuel k = some k') ∧
      (∀ n ∈ ns, (k.threads (k.nodes n).key).ownerProcess = k.currentProcess →
        (k'.threads (k.nodes n).key).schedulingMask.getLsbD 5 = false) ∧
      (∀ t, (k'.threads t).ownerProcess = (k.threads t).ownerProcess ∧
        ∀ i ≠ 5, (k'.threads t).schedulingMask.getLsbD i = (k.threads t).schedulingMask.getLsbD i) ∧
      (∀ t, t ∉ ns.map (fun n => (k.nodes n).key) ∨ (k.threads t).ownerProcess ≠ k.currentProcess →
        k'.threads t = k.threads t) ∧
      k'.processes = k.processes ∧ k'.nodes = k.nodes ∧
      (∀ fuel, ns.length < fuel → svcExitProcessHook F fuel k' = some k') ∧
      (∀ fuel mem pageEnd, frameSvcId mem pageEnd = 3 → ns.length < fuel →
        svcHook F fuel mem pageEnd k = some (.official 3, k')) ∧
      (∀ (k₀ : KernelState) fuel mem pageEnd, frameSvcId mem pageEnd = 3 →
        (k₀.processes k₀.currentProcess).customFlags &&& bitMask F.signalOnExit = 0 →
        svcHook F fuel mem pageEnd k₀ = some (.official 3, k₀)) := by
  have hrun := fun fuel (hf : ns.length < fuel) => svcExitProcessHook_chain F k ns hchain hflag hf
  refine ⟨exitProcessResult k ns, hrun, fun n hn ho => ?_, fun t => ?_, fun t ht => ?_, rfl, rfl,
    fun fuel hf => ?_, fun fuel mem pageEnd h3 hf => ?_, fun k₀ fuel mem pageEnd h3 h0 => ?_⟩
  · rw [exitProcessResult_threads, if_pos ⟨List.mem_map_of_mem _ hn, ho⟩]
    simp
  · rw [exitProcessResult_threads]
    split
    · exact ⟨rfl, fun i hi => by simp [hi]⟩
    · exact ⟨rfl, fun _ _ => rfl⟩
  · rw [exitProcessResult_threads, if_neg (by tauto)]
  · rw [svcExitProcessHook_chain F (exitProcessResult k ns) ns hchain hflag hf, exitProcessResult_idem]
  · rw [svcHook_exitProcess F k h3, hrun fuel hf]; rfl
  · rw [svcHook_exitProcess F k₀ h3, svcExitProcessHook_of_clear F k₀ h0]; rfl

def twoThreadKernel : KernelState where
  processes := fun _ => ⟨bitMask lowFlagBits.signalOnExit, false⟩
  threads := fun t => if t = 10 then ⟨7, 0x21⟩ else ⟨8, 0x20⟩
  nodes := fun n => if n = 1 then ⟨2, 10⟩ else ⟨100, 11⟩
  currentProcess := 7
  threadListFirst := 1
  threadListEnd := 100
  pluginRunning := true
  signalled := fun _ => false
  debugEvents := []

theorem svcExitProcess_two_threads :
    ThreadChain twoThreadKernel.nodes twoThreadKernel.threadListEnd twoThreadKernel.threadListFirst [1, 2] ∧
    (twoThreadKernel.processes twoThreadKernel.currentProcess).customFlags &&&
      bitMask lowFlagBits.signalOnExit ≠ 0 ∧
    ∃ k', svcExitProcessHook lowFlagBits 3 twoThreadKernel = some k' ∧
      (k'.threads 10).schedulingMask.getLsbD 5 = false ∧ k'.threads 11 = twoThreadKernel.threads 11 := by
  have hchain : ThreadChain twoThreadKernel.nodes twoThreadKernel.threadListEnd
      twoThreadKernel.threadListFirst [1, 2] := .cons (by decide) (.cons (by decide) .nil)
  obtain ⟨k', hrun, hbit, -, hother, -⟩ :=
    svcExitProcess_unlocks_threads lowFlagBits twoThreadKernel [1, 2] hchain (by decide)
  exact ⟨hchain, by decide, k', hrun 3 (by decide), hbit 1 (by simp) (by decide), hother 11 (.inr (by decide))⟩

end Luma
