import Luma3DS.Spec.Input

/-! `waitInputWithTimeout` over every sequence of key reads and every change
of `menuShouldExit` and `isHidInitialized`. A pass stops the loop at once when
HID is down or an exit is asked; otherwise it counts itself in `n`, reads the
keys that went down (and the directions that repeat), and the loop goes on
only with no key, the globals still good and time left. So the function
returns within `msec` passes (one at least), with the keys of the first pass
that read any, and 0 only at the timeout or when a stop flag was seen. -/

namespace Luma

theorem comboContinue_eq_false {msec : Int} {n : Nat} {f : HidFlags} :
    comboContinue msec n f = false ↔ f.stopped = true ∨ 0 ≤ msec ∧ msec ≤ n := by
  rcases f with ⟨x, h⟩
  cases x <;> cases h <;> simp [comboContinue, HidFlags.stopped, Int.not_lt]

section

variable {msec : Int} {passes : Nat → InputPass}

theorem stopped_eq_false_of_comboContinue {n : Nat} {f : HidFlags} (h : comboContinue msec n f = true) :
    f.stopped = false := by
  rcases f with ⟨x, i⟩
  cases x <;> cases i <;> simp_all [comboContinue, HidFlags.stopped]

/-- Everything a pass of the loop can do: stop at the lock with 0, go on, or end with its keys. -/
theorem waitInputLoop_cases {fuel n : Nat} {r : U32 × Nat} (h : waitInputLoop msec passes fuel n = some r) :
    (passes n).flags.stopped = true ∧ r = (0, n) ∨
    (passes n).flags.stopped = false ∧ (passes n).keys = 0 ∧ comboContinue msec (n + 1) (passes n).after = true ∧
      (∃ fuel', fuel = fuel' + 1 ∧ waitInputLoop msec passes fuel' (n + 1) = some r) ∨
    (passes n).flags.stopped = false ∧ ((passes n).keys ≠ 0 ∨ comboContinue msec (n + 1) (passes n).after = false) ∧
      r = ((passes n).keys, n + 1) := by
  unfold waitInputLoop at h
  split at h
  · next hs => exact .inl ⟨hs, (Option.some.inj h).symm⟩
  · next hs =>
    rw [Bool.not_eq_true] at hs
    split at h
    · next hc =>
      simp only [Bool.and_eq_true, beq_iff_eq] at hc
      cases fuel with
      | zero => cases h
      | succ fuel => exact .inr (.inl ⟨hs, hc.1, hc.2, fuel, rfl, h⟩)
    · next hc =>
      simp only [Bool.and_eq_true, beq_iff_eq, not_and, Bool.not_eq_true] at hc
      refine .inr (.inr ⟨hs, ?_, (Option.some.inj h).symm⟩)
      by_cases hk : (passes n).keys = 0
      · exact .inr (hc hk)
      · exact .inl hk

theorem waitInputLoop_keys {fuel n₀ n : Nat} {keys : U32} (h : waitInputLoop msec passes fuel n₀ = some (keys, n))
    (hk : keys ≠ 0) :
    ∃ i, n₀ ≤ i ∧ n = i + 1 ∧ keys = (passes i).keys ∧ (passes i).flags.stopped = false ∧
      ∀ j, n₀ ≤ j → j < i →
        (passes j).keys = 0 ∧ (passes j).flags.stopped = false ∧ (passes j).after.stopped = false := by
  induction fuel generalizing n₀ with
  | zero =>
    rcases waitInputLoop_cases h with ⟨_, he⟩ | ⟨_, _, _, fuel', hf, _⟩ | ⟨hs, _, he⟩
    · exact absurd (Prod.mk.inj he).1 hk
    · cases hf
    · obtain ⟨rfl, rfl⟩ := Prod.mk.inj he
      exact ⟨n₀, le_rfl, rfl, rfl, hs, fun j h1 h2 => absurd h2 (by omega)⟩
  | succ fuel ih =>
    rcases waitInputLoop_cases h with ⟨_, he⟩ | ⟨hs, h0, hc, fuel', hf, hr⟩ | ⟨hs, _, he⟩
    · exact absurd (Prod.mk.inj he).1 hk
    · obtain rfl : fuel = fuel' := Nat.succ.inj hf
      obtain ⟨i, hi, rfl, rfl, hsi, hj⟩ := ih hr
      refine ⟨i, by omega, rfl, rfl, hsi, fun j h1 h2 => ?_⟩
      rcases Nat.eq_or_lt_of_le h1 with rfl | h1
      · exact ⟨h0, hs, stopped_eq_false_of_comboContinue hc⟩
      · exact hj j h1 h2
    · obtain ⟨rfl, rfl⟩ := Prod.mk.inj he
      exact ⟨n₀, le_rfl, rfl, rfl, hs, fun j h1 h2 => absurd h2 (by omega)⟩

theorem waitInputLoop_zero {fuel n₀ n : Nat} (h : waitInputLoop msec passes fuel n₀ = some (0, n)) :
    (0 ≤ msec ∧ msec.toNat ≤ n) ∨ (passes n).flags.stopped = true ∨
      ∃ i, n = i + 1 ∧ (passes i).after.stopped = true := by
  induction fuel generalizing n₀ with
  | zero =>
    rcases waitInputLoop_cases h with ⟨hs, he⟩ | ⟨_, _, _, fuel', hf, _⟩ | ⟨_, hc, he⟩
    · obtain ⟨-, rfl⟩ := Prod.mk.inj he
      exact .inr (.inl hs)
    · cases hf
    · obtain ⟨h0, rfl⟩ := Prod.mk.inj he
      rcases hc with hc | hc
      · exact absurd h0.symm hc
      · rcases comboContinue_eq_false.mp hc with hc | hc
        · exact .inr (.inr ⟨n₀, rfl, hc⟩)
        · exact .inl ⟨hc.1, by omega⟩
  | succ fuel ih =>
    rcases waitInputLoop_cases h with ⟨hs, he⟩ | ⟨_, _, _, fuel', hf, hr⟩ | ⟨_, hc, he⟩
    · obtain ⟨-, rfl⟩ := Prod.mk.inj he
      exact .inr (.inl hs)
    · obtain rfl : fuel = fuel' := Nat.succ.inj hf
      exact ih hr
    · obtain ⟨h0, rfl⟩ := Prod.mk.inj he
      rcases hc with hc | hc
      · exact absurd h0.symm hc
      · rcases comboContinue_eq_false.mp hc with hc | hc
        · exact .inr (.inr ⟨n₀, rfl, hc⟩)
        · exact .inl ⟨hc.1, by omega⟩

theorem lt_of_comboContinue (hmsec : 0 ≤ msec) {n : Nat} {f : HidFlags} (h : comboContinue msec n f = true) :
    n < msec.toNat := by
  simp only [comboContinue, Bool.and_eq_true, Bool.or_eq_true, decide_eq_true_eq] at h
  omega

theorem waitInputLoop_some (hmsec : 0 ≤ msec) (passes : Nat → InputPass) {fuel n₀ : Nat}
    (hf : msec.toNat ≤ n₀ + fuel + 1) :
    ∃ keys n, waitInputLoop msec passes fuel n₀ = some (keys, n) ∧ n ≤ max (n₀ + 1) msec.toNat := by
  induction fuel generalizing n₀ with
  | zero =>
    rw [waitInputLoop]
    split
    · exact ⟨_, _, rfl, by omega⟩
    split
    · next h => exact absurd (lt_of_comboContinue hmsec (Bool.and_eq_true_iff.mp h).2) (by omega)
    · exact ⟨_, _, rfl, by omega⟩
  | succ fuel ih =>
    rw [waitInputLoop]
    split
    · exact ⟨_, _, rfl, by omega⟩
    split
    · next h =>
      have := lt_of_comboContinue hmsec (Bool.and_eq_true_iff.mp h).2
      obtain ⟨keys, n, h', hn⟩ := ih (by omega : msec.toNat ≤ n₀ + 1 + fuel + 1)
      exact ⟨keys, n, h', by omega⟩
    · exact ⟨_, _, rfl, by omega⟩

end

/-- With `msec ≥ 0`, `waitInputWithTimeout` returns within `max 1 msec` passes, whatever it reads.
-/
theorem waitInputWithTimeout_returns (msec : Int) (passes : Nat → InputPass) (fuel : Nat) (hmsec : 0 ≤ msec)
    (hf : msec.toNat ≤ fuel) :
    ∃ keys n, waitInputWithTimeout msec passes fuel = some (keys, n) ∧ n ≤ max 1 msec.toNat :=
  waitInputLoop_some hmsec passes (by omega)

def noKeys : Nat → InputPass := fun _ => ⟨⟨false, true⟩, 0, 0, ⟨false, true⟩⟩

theorem waitInputWithTimeout_returns_menuShow :
    ∃ keys n, waitInputWithTimeout 1000 noKeys 1000 = some (keys, n) ∧ n ≤ max 1 (1000 : Int).toNat :=
  waitInputWithTimeout_returns 1000 noKeys 1000 (by decide) (by decide)

/-- A non-zero result is the keys of the first pass that read any, and 0 comes from the timeout or a
stop flag. -/
theorem waitInputWithTimeout_first_keys {msec : Int} {passes : Nat → InputPass} {fuel n : Nat} {keys : U32}
    (h : waitInputWithTimeout msec passes fuel = some (keys, n)) :
    (keys ≠ 0 → ∃ i, n = i + 1 ∧ keys = (passes i).keys ∧
      ∀ j ≤ i, (passes j).flags.stopped = false ∧
        (j < i → (passes j).keys = 0 ∧ (passes j).after.stopped = false)) ∧
    (keys = 0 → (0 ≤ msec ∧ msec.toNat ≤ n) ∨ (passes n).flags.stopped = true ∨
      ∃ i, n = i + 1 ∧ (passes i).after.stopped = true) := by
  refine ⟨fun hk => ?_, fun hk => waitInputLoop_zero (hk ▸ h)⟩
  obtain ⟨i, -, rfl, rfl, hs, hj⟩ := waitInputLoop_keys h hk
  refine ⟨i, rfl, rfl, fun j hji => ⟨?_, fun hlt => ⟨(hj j (Nat.zero_le j) hlt).1, (hj j (Nat.zero_le j) hlt).2.2⟩⟩⟩
  rcases Nat.eq_or_lt_of_le hji with rfl | hlt
  · exact hs
  · exact (hj j (Nat.zero_le j) hlt).2.1

def keyAAtTwo : Nat → InputPass := fun i => ⟨⟨false, true⟩, if i = 2 then 1 else 0, 0, ⟨false, true⟩⟩

theorem waitInput_keyAAtTwo :
    waitInput keyAAtTwo 5 = some (1, 3) ∧
      ∃ i, 3 = i + 1 ∧ 1 = (keyAAtTwo i).keys ∧
        ∀ j ≤ i, (keyAAtTwo j).flags.stopped = false ∧
          (j < i → (keyAAtTwo j).keys = 0 ∧ (keyAAtTwo j).after.stopped = false) :=
  ⟨rfl, (waitInputWithTimeout_first_keys (rfl : waitInput keyAAtTwo 5 = some (1, 3))).1 (by decide)⟩

end Luma
