import Luma3DS.Spec.Svc

/-! The call identifier and the dispatch of `svcHook`. The three hooks read the
same identifier from every frame a caller can produce, the escaped one included,
and the switch hands back `officialSVCs[id]` for every identifier it does not
replace, reading the table only below its 0x7E entries, and `NULL` above the
custom range. -/

namespace Luma

/-- The identifiers up to `0x7D` that `svcHook` replaces, and the custom ones above it. -/
def replacedSvcIds : List Nat := [0x01, 0x29, 0x2A, 0x2B, 0x2C, 0x2D, 0x2E, 0x32, 0x3C, 0x59, 0x5A, 0x7B, 0x7C]

def customSvcIds : List Nat := [0x80, 0x90, 0x91, 0x92, 0x93, 0x94, 0xA0, 0xA1, 0xA2, 0xA3, 0xB0, 0xB1, 0xB2, 0xB3]

theorem zeroExtend_eq_escape (b : U8) : b.zeroExtend 32 = (0xFE : U32) ↔ b = 0xFE := by
  constructor
  · intro h; bv_omega
  · rintro rfl; decide

/-- Each hook's own derivation of the identifier is `frameSvcId`. -/
theorem hook_svcId (mem : Nat → U8) (pageEnd : Nat) :
    (if (mem (pageEnd - 0xB5)).zeroExtend 32 = (0xFE : U32) then readU32 mem (pageEnd - 0x110 + 8 * 4)
      else (mem (pageEnd - 0xB5)).zeroExtend 32) = frameSvcId mem pageEnd := by
  simp only [frameSvcId, zeroExtend_eq_escape]

section

variable (shouldSignal : ShouldSignal) (mem : Nat → U8) (pageEnd : Nat) (k : KernelState)

theorem signalSvcEntry_eq :
    signalSvcEntry shouldSignal mem pageEnd k =
      if (k.processes k.currentProcess).debugged ∧ shouldSignal k.currentProcess (frameSvcId mem pageEnd)
      then k.signalDebugEvent 0xFFFFFFFE (frameSvcId mem pageEnd) else k := by
  simp only [signalSvcEntry, hook_svcId]

theorem signalSvcReturnEnter_eq :
    signalSvcReturnEnter shouldSignal mem pageEnd k =
      ((k.processes k.currentProcess).customFlags,
        if (k.processes k.currentProcess).debugged ∧ shouldSignal k.currentProcess (frameSvcId mem pageEnd)
        then k.signalDebugEvent 0xFFFFFFFF (frameSvcId mem pageEnd) else k) := by
  simp only [signalSvcReturnEnter, hook_svcId]
  split <;> rfl

theorem svcHook_eq (F : CustomFlagBits) (fuel : Nat) :
    svcHook F fuel mem pageEnd k =
      if (frameSvcId mem pageEnd).toNat = 0x03 then
        (svcExitProcessHook F fuel k).map fun k' => (Handler.official 0x3, k')
      else some (svcTable (k.processes k.currentProcess).debugged (frameSvcId mem pageEnd).toNat, k) := by
  simp only [svcHook, hook_svcId]
  split_ifs with h
  · rw [h]; rfl
  · rfl

end

theorem mem_of_lookup {l : List (Nat × Handler)} {k : Nat} {h : Handler} (hl : l.lookup k = some h) :
    (k, h) ∈ l := by
  obtain ⟨l₁, l₂, rfl, -⟩ := List.lookup_eq_some_iff.mp hl
  simp

theorem svcTable_cases (d : Bool) (svcId : Nat) :
    (svcId, svcTable d svcId) ∈ svcCases d ∨
      ((∀ p ∈ svcCases d, p.1 ≠ svcId) ∧
        svcTable d svcId = if svcId ≤ 0x7D then .official svcId else .null) := by
  unfold svcTable
  cases hl : (svcCases d).lookup svcId with
  | some h => exact .inl (mem_of_lookup hl)
  | none =>
    refine .inr ⟨fun p hp he => ?_, rfl⟩
    have := List.lookup_eq_none_iff.mp hl p hp
    simp [he] at this

def Handler.officialIndex : Handler → Option Nat
  | .official i => some i
  | _ => none

theorem svcCases_official (d : Bool) : ∀ p ∈ svcCases d, ∀ i, p.2 = .official i → i ≤ 0x7D := by
  have h : ∀ p ∈ svcCases d, ∀ i ∈ p.2.officialIndex, i ≤ 0x7D := by cases d <;> decide
  intro p hp i hi
  exact h p hp i (by rw [hi]; rfl)

theorem svcCases_low (d : Bool) :
    ∀ p ∈ svcCases d, p.1 ≤ 0x7D → p.1 ∉ replacedSvcIds → p.2 = .official p.1 := by
  cases d <;> decide

theorem svcCases_high (d : Bool) : ∀ p ∈ svcCases d, 0x7D < p.1 → p.1 ∈ customSvcIds := by
  cases d <;> decide

theorem svcTable_official_le (d : Bool) (svcId i : Nat) (h : svcTable d svcId = .official i) : i ≤ 0x7D := by
  rcases svcTable_cases d svcId with hm | ⟨-, hd⟩
  · exact svcCases_official d _ hm i h
  · rw [hd] at h
    split_ifs at h with hle
    · cases h; exact hle

theorem svcTable_passthrough (d : Bool) {svcId : Nat} (hle : svcId ≤ 0x7D) (hr : svcId ∉ replacedSvcIds) :
    svcTable d svcId = .official svcId := by
  rcases svcTable_cases d svcId with hm | ⟨-, hd⟩
  · exact svcCases_low d _ hm hle hr
  · rw [hd, if_pos hle]

theorem svcTable_null (d : Bool) {svcId : Nat} (hgt : 0x7D < svcId) (hc : svcId ∉ customSvcIds) :
    svcTable d svcId = .null := by
  rcases svcTable_cases d svcId with hm | ⟨-, hd⟩
  · exact absurd (svcCases_high d _ hm hgt) hc
  · rw [hd, if_neg (by omega)]

/-- The three hooks derive one identifier from every frame, and the switch dispatches it as the
table says. -/
theorem svcHook_dispatch (F : CustomFlagBits) (fuel : Nat) (shouldSignal : ShouldSignal)
    (mem : Nat → U8) (pageEnd : Nat) (k : KernelState) :
    (signalSvcEntry shouldSignal mem pageEnd k =
      if (k.processes k.currentProcess).debugged ∧ shouldSignal k.currentProcess (frameSvcId mem pageEnd)
      then k.signalDebugEvent 0xFFFFFFFE (frameSvcId mem pageEnd) else k) ∧
    ((signalSvcReturnEnter shouldSignal mem pageEnd k).2 =
      if (k.processes k.currentProcess).debugged ∧ shouldSignal k.currentProcess (frameSvcId mem pageEnd)
      then k.signalDebugEvent 0xFFFFFFFF (frameSvcId mem pageEnd) else k) ∧
    (frameSvcId mem pageEnd = if mem (pageEnd - 0xB5) = 0xFE then readU32 mem (pageEnd - 0x110 + 8 * 4)
      else (mem (pageEnd - 0xB5)).zeroExtend 32) ∧
    svcHook F fuel mem pageEnd k =
      (if (frameSvcId mem pageEnd).toNat = 0x03 then
        (svcExitProcessHook F fuel k).map fun k' => (Handler.official 0x3, k')
      else some (svcTable (k.processes k.currentProcess).debugged (frameSvcId mem pageEnd).toNat, k)) ∧
    (∀ d svcId i, svcTable d svcId = .official i → i ≤ 0x7D) ∧
    (∀ d svcId, svcId ≤ 0x7D → svcId ∉ replacedSvcIds → svcTable d svcId = .official svcId) ∧
    (∀ d, (svcTable d 0x3C = .official 0x3C ↔ d = true) ∧ (d = false → svcTable d 0x3C = .«break»)) ∧
    (∀ d svcId, 0x7D < svcId → svcId ∉ customSvcIds → svcTable d svcId = .null) :=
  ⟨signalSvcEntry_eq .., by rw [signalSvcReturnEnter_eq], rfl, svcHook_eq .., svcTable_official_le,
    fun d _ => svcTable_passthrough d, fun d => by cases d <;> decide, fun d _ => svcTable_null d⟩

end Luma
