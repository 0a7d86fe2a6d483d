import Luma3DS.Spec.MenuDraw
import Luma3DS.Proofs.FormatBound

/-! `menuDraw`'s two `sprintf` calls stay inside their buffers for every
version word and every address: every number they print is a byte, at most
three digits, so `versionString` takes at most 12 characters and a NUL, and
`ipBuffer` at most 15 and a NUL. -/

namespace Luma

theorem fmtDec_length_le_three {n : Nat} (h : n < 256) : (fmtDec n).length ≤ 3 :=
  toDigits_length_le (by norm_num) (by norm_num) (by omega)

theorem getVersionMajor_lt (version : U32) : getVersionMajor version < 256 := by
  have := version.isLt
  simp only [getVersionMajor, BitVec.toNat_ushiftRight, Nat.shiftRight_eq_div_pow]
  omega

theorem getVersionMinor_lt (version : U32) : getVersionMinor version < 256 := by
  simp only [getVersionMinor, BitVec.toNat_and]
  exact Nat.lt_succ_of_le (Nat.and_le_right)

theorem getVersionRevision_lt (version : U32) : getVersionRevision version < 256 := by
  simp only [getVersionRevision, BitVec.toNat_and]
  exact Nat.lt_succ_of_le (Nat.and_le_right)

/-- `menuDraw`'s `sprintf` calls write at most 12 characters into `versionString[16]` and 15 into
`ipBuffer[17]`. -/
theorem menuDraw_strings_fit (version ip : U32) :
    (menuVersionString version).length ≤ 12 ∧ (menuIpString ip).length ≤ 15 ∧
      (menuVersionString 0xFFFFFF00).length = 12 ∧ (menuIpString 0xFFFFFFFF).length = 15 := by
  have h1 := fmtDec_length_le_three (getVersionMajor_lt version)
  have h2 := fmtDec_length_le_three (getVersionMinor_lt version)
  have h3 := fmtDec_length_le_three (getVersionRevision_lt version)
  have hb : ∀ b : U8, (fmtDec b.toNat).length ≤ 3 := fun b => fmtDec_length_le_three b.isLt
  refine ⟨?_, ?_, by decide, by decide⟩
  · unfold menuVersionString
    split <;> simp only [List.length_cons, List.length_append] <;> omega
  · have := hb (ip.extractLsb' 0 8)
    have := hb (ip.extractLsb' 8 8)
    have := hb (ip.extractLsb' 16 8)
    have := hb (ip.extractLsb' 24 8)
    simp only [menuIpString, wordBytes, List.map_cons, List.map_nil, List.intercalate, List.intersperse,
      List.flatten, List.length_append, List.length_cons, List.length_nil, List.append_nil]
    omega

end Luma
