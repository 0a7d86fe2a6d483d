import Luma3DS.Spec.ErrDisp

/-! The replies `ERRF_HandleCommands` leaves in the command buffer, and what
SetUserString stores as the banner. Throw and a well-formed or malformed
SetUserString get the replies the protocol documents; a command id the switch
has no case for gets no reply written, so the request words go back as they
were. SetUserString copies the banner from `cmdbuf + 3`, where the kernel has
put the address of the static buffer, not from the buffer itself. -/

namespace Luma

@[simp] theorem reply_zero (cmdbuf : Nat → U32) (hdr res : U32) : reply cmdbuf hdr res 0 = hdr := rfl
@[simp] theorem reply_one (cmdbuf : Nat → U32) (hdr res : U32) : reply cmdbuf hdr res 1 = res := rfl

section

variable (menuShouldExit : Bool) (s : ErrfState)

theorem errfHandleCommands_throw (h : commandId (s.cmdbuf 0) = 1) :
    (errfHandleCommands menuShouldExit s).cmdbuf 0 = ipcMakeHeader 1 1 0 ∧
    (errfHandleCommands menuShouldExit s).cmdbuf 1 = 0 := by
  simp [errfHandleCommands, h]

def SetUserStringWellFormed (cmdbuf : Nat → U32) : Prop :=
  cmdbuf 0 = ipcMakeHeader 2 1 2 ∧ (cmdbuf 2 &&& 0x3C0F) = 2

theorem header_command_two {cmdbuf : Nat → U32} (h : SetUserStringWellFormed cmdbuf) :
    commandId (cmdbuf 0) = 2 := by
  rw [h.1]; decide

def copiedBanner (s : ErrfState) (i : Nat) : U8 :=
  if i < min (s.cmdbuf 1).toNat 0x100 then cmdbufByte s.cmdbuf (12 + i)
  else if i = min (s.cmdbuf 1).toNat 0x100 then 0 else s.userString i

theorem errfHandleCommands_setUserString_eq (h : SetUserStringWellFormed s.cmdbuf) :
    errfHandleCommands menuShouldExit s =
      { s with userString := copiedBanner s, cmdbuf := reply s.cmdbuf (ipcMakeHeader 2 1 0) 0 } := by
  have hsz : (if s.cmdbuf 1 ≤ 0x100 then s.cmdbuf 1 else 0x100).toNat =
      min (s.cmdbuf 1).toNat 0x100 := by
    split_ifs with hle <;> rw [BitVec.le_def] at hle <;> simp at hle ⊢ <;> omega
  simp only [errfHandleCommands, header_command_two h]
  rw [if_neg (fun hor => hor.elim (· h.1) (· h.2))]
  simp only [hsz]
  rfl

/-- A well-formed SetUserString copies `min(cmdbuf[1], 0x100)` bytes from `cmdbuf + 3`, then a NUL.
-/
theorem errfHandleCommands_setUserString (h : SetUserStringWellFormed s.cmdbuf) :
    let sz := min (s.cmdbuf 1).toNat 0x100
    let s' := errfHandleCommands menuShouldExit s
    s'.cmdbuf 0 = ipcMakeHeader 2 1 0 ∧ s'.cmdbuf 1 = 0 ∧ s'.shown = s.shown ∧
    (∀ i < sz, s'.userString i = cmdbufByte s.cmdbuf (12 + i)) ∧ s'.userString sz = 0 ∧
    (∀ i > sz, s'.userString i = s.userString i) := by
  rw [errfHandleCommands_setUserString_eq menuShouldExit s h]
  refine ⟨rfl, rfl, rfl, fun i hi => if_pos hi, by simp [copiedBanner], fun i hi => ?_⟩
  simp [copiedBanner, show ¬ i < min (s.cmdbuf 1).toNat 0x100 by omega,
    show i ≠ min (s.cmdbuf 1).toNat 0x100 by omega]

theorem errfHandleCommands_setUserString_malformed (h2 : commandId (s.cmdbuf 0) = 2)
    (h : ¬ SetUserStringWellFormed s.cmdbuf) :
    errfHandleCommands menuShouldExit s =
      { s with cmdbuf := reply s.cmdbuf (ipcMakeHeader 0 1 0) 0xD9001830 } := by
  unfold SetUserStringWellFormed at h
  simp only [errfHandleCommands, h2]
  rw [if_pos (by tauto)]

/-- A command id other than 1 and 2 falls through the switch: the request goes back as the reply. -/
theorem errfHandleCommands_other (h1 : commandId (s.cmdbuf 0) ≠ 1)
    (h2 : commandId (s.cmdbuf 0) ≠ 2) : errfHandleCommands menuShouldExit s = s := by
  simp only [errfHandleCommands]

theorem errfHandleCommands_unknown_id_succeeds :
    errfHandleCommands menuShouldExit { s with cmdbuf := reply s.cmdbuf 0x00030040 0 } =
      { s with cmdbuf := reply s.cmdbuf 0x00030040 0 } ∧
    reply s.cmdbuf 0x00030040 0 0 ≠ ipcMakeHeader 0 1 0 ∧ reply s.cmdbuf 0x00030040 0 1 = 0 := by
  have h3 : commandId (reply s.cmdbuf 0x00030040 0 0) = 3 := by rw [reply_zero]; decide
  refine ⟨errfHandleCommands_other _ _ ?_ ?_, by rw [reply_zero]; decide, rfl⟩
  · show commandId (reply s.cmdbuf 0x00030040 0 0) ≠ 1; rw [h3]; decide
  · show commandId (reply s.cmdbuf 0x00030040 0 0) ≠ 2; rw [h3]; decide

end

/-- A SetUserString request as the kernel delivers it: `str` in static buffer 0, whose address is in
`cmdbuf[3]`. -/
def deliverSetUserString (s : ErrfState) (len size : U32) (str : List U8) (staticBufAddr : U32) :
    ErrfState :=
  { s with
    cmdbuf := fun i =>
      if i = 0 then ipcMakeHeader 2 1 2 else if i = 1 then len
      else if i = 2 then ipcDescStaticBuffer size 0 else if i = 3 then staticBufAddr else s.cmdbuf i
    staticBuf := fun i => str.getD i (s.staticBuf i) }

theorem ipcDescStaticBuffer_id_zero (size : U32) : ipcDescStaticBuffer size 0 &&& 0x3C0F = 2 := by
  apply BitVec.eq_of_getLsbD_eq
  rintro ⟨i, hi⟩
  by_cases h : i < 14
  · have low : ∀ k < 14, Nat.testBit 2 k = true → Nat.testBit 0x3C0F k = true := by decide
    simpa [ipcDescStaticBuffer, BitVec.getLsbD_ofNat, h, hi] using low i h
  · have high : ∀ n < 2 ^ 14, Nat.testBit n i = false := fun n hn =>
      Nat.testBit_lt_two_pow (lt_of_lt_of_le hn (Nat.pow_le_pow_right Nat.two_pos (by omega)))
    simp [ipcDescStaticBuffer, BitVec.getLsbD_ofNat, high 0x3C0F (by decide), high 2 (by decide)]

theorem deliverSetUserString_wellFormed (s : ErrfState) (len size : U32) (str : List U8)
    (staticBufAddr : U32) :
    SetUserStringWellFormed (deliverSetUserString s len size str staticBufAddr).cmdbuf :=
  ⟨rfl, ipcDescStaticBuffer_id_zero size⟩

theorem cmdbufByte_word (cmdbuf : Nat → U32) (j : Nat) {k : Nat} (hk : k < 4) :
    cmdbufByte cmdbuf (4 * j + k) = (wordBytes (cmdbuf j)).getD k 0 := by
  simp only [cmdbufByte]
  rw [show (4 * j + k) / 4 = j by omega, show (4 * j + k) % 4 = k by omega]

/-- Whatever string the client sent, `userString` starts with the bytes of the address in
`cmdbuf[3]`. -/
theorem setUserString_copies_address (menuShouldExit : Bool) (s : ErrfState) (len size : U32)
    (str : List U8) (staticBufAddr : U32) {i : Nat} (hi : i < min len.toNat 0x100) (h4 : i < 4) :
    (errfHandleCommands menuShouldExit (deliverSetUserString s len size str staticBufAddr)).userString i =
      (wordBytes staticBufAddr).getD i 0 := by
  obtain ⟨-, -, -, hcopy, -, -⟩ :=
    errfHandleCommands_setUserString menuShouldExit _ (deliverSetUserString_wellFormed s len size str staticBufAddr)
  rw [hcopy i hi, show 12 + i = 4 * 3 + i by omega, cmdbufByte_word _ _ h4]
  rfl

/-- `"ABCD"` delivered into a static buffer at `0x0010A000` leaves `userString` starting `0x00,
0xA0`. -/
theorem setUserString_userString_from_address (menuShouldExit : Bool) (s : ErrfState) :
    (deliverSetUserString s 4 4 [0x41, 0x42, 0x43, 0x44] 0x0010A000).staticBuf 0 = 0x41 ∧
    (deliverSetUserString s 4 4 [0x41, 0x42, 0x43, 0x44] 0x0010A000).staticBuf 1 = 0x42 ∧
    (errfHandleCommands menuShouldExit
      (deliverSetUserString s 4 4 [0x41, 0x42, 0x43, 0x44] 0x0010A000)).userString 0 = 0x00 ∧
    (errfHandleCommands menuShouldExit
      (deliverSetUserString s 4 4 [0x41, 0x42, 0x43, 0x44] 0x0010A000)).userString 1 = 0xA0 := by
  refine ⟨rfl, rfl, ?_, ?_⟩
  · rw [setUserString_copies_address _ _ _ _ _ _ (by decide) (by decide)]; decide
  · rw [setUserString_copies_address _ _ _ _ _ _ (by decide) (by decide)]; decide

end Luma
