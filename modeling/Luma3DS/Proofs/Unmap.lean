import Luma3DS.Spec.Unmap

/-! What `UnmapProcessMemoryEx` does on every handle, address and size. Before
kernel 6.x it is the kernel's own `UnmapProcessMemory`. From 6.x on, a handle
that names no process is refused with nothing else done; otherwise the process
is referenced, unmapped once through its hardware info, released, and both
caches are cleaned after the unmap, whatever its result. -/

namespace Luma

namespace UnmapState

variable (s : UnmapState)

@[simp] theorem call_refCount (c : KernelCall) : (s.call c).refCount = s.refCount := rfl

@[simp] theorem call_calls (c : KernelCall) : (s.call c).calls = s.calls ++ [c] := rfl

@[simp] theorem addReference_calls (p : Ptr) : (s.addReference p).calls = s.calls := rfl

@[simp] theorem decrementReferenceCount_calls (p : Ptr) : (s.decrementReferenceCount p).calls = s.calls := rfl

@[simp] theorem addReference_refCount (p : Ptr) :
    (s.addReference p).refCount = Function.update s.refCount p (s.refCount p + 1) := rfl

@[simp] theorem decrementReferenceCount_refCount (p : Ptr) :
    (s.decrementReferenceCount p).refCount = Function.update s.refCount p (s.refCount p - 1) := rfl

end UnmapState

section

variable (E : UnmapEnv) (processHandle : Handle) (dst size : U32) (s : UnmapState)

theorem resolveProcess_cur :
    resolveProcess E curProcessHandle s =
      (E.currentProcess, (s.call (.addReference E.currentProcess)).addReference E.currentProcess) :=
  if_pos rfl

theorem resolveProcess_other (h : processHandle ≠ curProcessHandle) :
    resolveProcess E processHandle s =
      (E.toKProcess processHandle, if E.toKProcess processHandle = 0 then s.call (.toKProcess processHandle)
        else (s.call (.toKProcess processHandle)).addReference (E.toKProcess processHandle)) :=
  if_neg h

theorem unmapProcessMemoryEx_resolved (hv : 37 ≤ getVersionMinor E.kernelVersion) {P : Ptr} (hP : P ≠ 0)
    {acquired : UnmapState} (hr : resolveProcess E processHandle s = (P, acquired)) :
    unmapProcessMemoryEx E processHandle dst size s =
      (E.hwUnmapProcessMemory (E.hwInfoOfProcess P) dst (size >>> 12),
        (((((acquired.call (.hwUnmapProcessMemory (E.hwInfoOfProcess P) dst (size >>> 12))).call
          (.decrementReferenceCount P)).decrementReferenceCount P).call
            .invalidateEntireInstructionCache).call .flushEntireDataCache)) := by
  rw [unmapProcessMemoryEx, if_neg (by omega), hr]
  exact if_neg hP

end

/-- `UnmapProcessMemoryEx` on every handle, address and size: its result, its calls and its
references. -/
theorem unmapProcessMemoryEx_spec (E : UnmapEnv) (processHandle : Handle) (dst size : U32) (s : UnmapState) :
    (getVersionMinor E.kernelVersion < 37 →
      unmapProcessMemoryEx E processHandle dst size s =
        (E.unmapProcessMemory processHandle dst size, s.call (.unmapProcessMemory processHandle dst size))) ∧
    (37 ≤ getVersionMinor E.kernelVersion → processHandle ≠ curProcessHandle →
      E.toKProcess processHandle = 0 →
      unmapProcessMemoryEx E processHandle dst size s = (0xD8E007F7, s.call (.toKProcess processHandle))) ∧
    (37 ≤ getVersionMinor E.kernelVersion →
      ∀ P : Ptr, (if processHandle = curProcessHandle then E.currentProcess else E.toKProcess processHandle) = P →
      P ≠ 0 →
      (unmapProcessMemoryEx E processHandle dst size s).1 =
        E.hwUnmapProcessMemory (E.hwInfoOfProcess P) dst (size >>> 12) ∧
      (unmapProcessMemoryEx E processHandle dst size s).2.refCount = s.refCount ∧
      (unmapProcessMemoryEx E processHandle dst size s).2.calls = s.calls ++
        [if processHandle = curProcessHandle then .addReference P else .toKProcess processHandle,
          .hwUnmapProcessMemory (E.hwInfoOfProcess P) dst (size >>> 12), .decrementReferenceCount P,
          .invalidateEntireInstructionCache, .flushEntireDataCache]) := by
  refine ⟨fun hv => if_pos hv, fun hv hc h0 => ?_, fun hv P hres hP => ?_⟩
  · rw [unmapProcessMemoryEx, if_neg (by omega), resolveProcess_other E processHandle s hc, if_pos h0]
    exact if_pos h0
  · by_cases hc : processHandle = curProcessHandle
    · subst hc
      rw [if_pos rfl] at hres
      subst hres
      rw [unmapProcessMemoryEx_resolved E _ dst size s hv hP (resolveProcess_cur E s)]
      simp
    · rw [if_neg hc] at hres
      subst hres
      rw [unmapProcessMemoryEx_resolved E _ dst size s hv hP
        (by rw [resolveProcess_other E _ s hc, if_neg hP])]
      simp [hc]

end Luma
