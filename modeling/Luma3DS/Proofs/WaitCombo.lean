import Luma3DS.Spec.Input

/-! `waitComboWithTimeout` over every sequence of `scanHeldKeys` results and
every change of `menuShouldExit` and `isHidInitialized`. Both loops sleep and
count one pass in `n`, and go on only while `n < msec` when `msec ≥ 0`: the
second loop is entered only with `n < msec`. So for `msec ≥ 0` the function
returns after at most `msec` passes. `keys` is set only at the end of a `for`
loop whose `0x10000` calls all returned `tempKeys`, and `tempKeys` is the
result of the call just before them; the function returns `keys` or 0. -/

namespace Luma

theorem comboHold_cases (hold : Nat → HidSample) (tempKeys keys : U32) (i : Nat) :
    (comboHold hold tempKeys keys i).1 = keys ∨
      (comboHold hold tempKeys keys i).1 = tempKeys ∧ (comboHold hold tempKeys keys i).2 = List.replicate i tempKeys := by
  induction i generalizing keys with
  | zero => exact .inl rfl
  | succ i ih =>
    simp only [comboHold]
    split
    · exact .inl rfl
    · next h =>
      have hk : scanHeldKeys (hold (i + 1)) = tempKeys := (by simpa using h : tempKeys = _).symm
      rcases ih (if i + 1 = 1 then tempKeys else keys) with h' | ⟨h1, h2⟩
      · cases i with
        | zero => exact .inr ⟨h', by rw [hk]; rfl⟩
        | succ i => exact .inl (by simpa using h')
      · exact .inr ⟨h1, by rw [h2, hk, List.replicate_succ]⟩

/-- `keys` is 0, or what `0x10001` consecutive `scanHeldKeys` calls returned. -/
def KeysSeen (s : ComboState) : Prop := s.keys = 0 ∨ List.replicate 0x10001 s.keys <:+: s.scans

theorem KeysSeen.append {s : ComboState} (h : KeysSeen s) (scans : List U32) :
    KeysSeen { s with scans := s.scans ++ scans } :=
  h.imp_right fun hi => hi.trans (List.prefix_append _ _).isInfix

section

variable (msec : Int) (p : ComboPass) (s : ComboState)

@[simp] theorem comboPass_n : (comboPass msec p s).2.n = s.n + 1 := by
  unfold comboPass; dsimp only; split <;> rfl

/-- A pass keeps `KeysSeen`. -/
theorem comboPass_keysSeen (h : KeysSeen s) : KeysSeen (comboPass msec p s).2 := by
  have hsc : ∀ more : List U32, KeysSeen ⟨s.n + 1, (comboHold p.hold (scanHeldKeys p.first) s.keys 0x10000).1,
      s.scans ++ scanHeldKeys p.first :: (comboHold p.hold (scanHeldKeys p.first) s.keys 0x10000).2 ++ more⟩ := by
    intro more
    rcases comboHold_cases p.hold (scanHeldKeys p.first) s.keys 0x10000 with h1 | ⟨h1, h2⟩
    · rw [h1]
      exact (h.append (scanHeldKeys p.first :: _)).append more
    · refine .inr ⟨s.scans, more, ?_⟩
      rw [h1, h2]
      rfl
  unfold comboPass
  dsimp only
  split
  · simpa using hsc []
  · exact hsc _

end

section

variable {msec : Int} (hmsec : 0 ≤ msec)
include hmsec

theorem comboWaitRelease_some (release : ReleaseTest) {fuel : Nat} {s : ComboState} (hn : s.n ≤ msec.toNat)
    (hf : msec.toNat - s.n ≤ fuel) :
    ∃ s', comboWaitRelease msec release fuel s = some s' ∧ s'.n ≤ msec.toNat := by
  induction fuel generalizing s with
  | zero =>
    rw [comboWaitRelease]
    split
    · next h => simp [comboContinue] at h; omega
    · exact ⟨_, rfl, hn⟩
  | succ fuel ih =>
    rw [comboWaitRelease]
    split
    · next h =>
      simp [comboContinue] at h
      exact ih (by simp only; omega) (by simp only; omega)
    · exact ⟨_, rfl, hn⟩

theorem comboPass_more {p : ComboPass} {s : ComboState} (h : (comboPass msec p s).1 = true) :
    s.n + 1 < msec.toNat := by
  unfold comboPass at h
  dsimp only at h
  split at h <;> simp [comboContinue] at h <;> omega

theorem comboPoll_some (passes : Nat → ComboPass) {fuel : Nat} {s : ComboState} (hn : s.n < msec.toNat)
    (hf : msec.toNat - s.n ≤ fuel + 1) :
    ∃ s', comboPoll msec passes fuel s = some s' ∧ s'.n ≤ msec.toNat := by
  induction fuel generalizing s with
  | zero =>
    rw [comboPoll]
    split
    · next h => have := comboPass_more hmsec h; omega
    · exact ⟨_, rfl, by simp only [comboPass_n]; omega⟩
  | succ fuel ih =>
    rw [comboPoll]
    split
    · next h =>
      have := comboPass_more hmsec h
      exact ih (by simp only [comboPass_n]; omega) (by simp only [comboPass_n]; omega)
    · exact ⟨_, rfl, by simp only [comboPass_n]; omega⟩

end

theorem comboWaitRelease_keysSeen {msec : Int} {release : ReleaseTest} {fuel : Nat} {s s' : ComboState}
    (h : KeysSeen s) (hr : comboWaitRelease msec release fuel s = some s') : KeysSeen s' := by
  induction fuel generalizing s with
  | zero =>
    rw [comboWaitRelease] at hr
    split at hr
    · cases hr
    · cases hr; exact h.append _
  | succ fuel ih =>
    rw [comboWaitRelease] at hr
    split at hr
    · refine ih ?_ hr
      exact h.append _
    · cases hr; exact h.append _

theorem comboPoll_keysSeen {msec : Int} {passes : Nat → ComboPass} {fuel : Nat} {s s' : ComboState}
    (h : KeysSeen s) (hr : comboPoll msec passes fuel s = some s') : KeysSeen s' := by
  induction fuel generalizing s with
  | zero =>
    rw [comboPoll] at hr
    split at hr
    · cases hr
    · cases hr; exact comboPass_keysSeen msec _ s h
  | succ fuel ih =>
    rw [comboPoll] at hr
    split at hr
    · exact ih (comboPass_keysSeen msec _ s h) hr
    · cases hr; exact comboPass_keysSeen msec _ s h

theorem waitComboWithTimeout_some {msec : Int} (hmsec : 0 ≤ msec) (input : ComboInput) {fuel : Nat}
    (hf : msec.toNat ≤ fuel) :
    ∃ keys s, waitComboWithTimeout msec input fuel = some (keys, s) ∧ s.n ≤ msec.toNat := by
  obtain ⟨s₁, h₁, hn₁⟩ := comboWaitRelease_some hmsec input.release (s := ⟨0, 0, []⟩) (Nat.zero_le _)
    (by simpa using hf)
  simp only [waitComboWithTimeout, h₁, Option.bind_eq_bind, Option.some_bind]
  split
  · exact ⟨_, _, rfl, hn₁⟩
  · next hc =>
    have : s₁.n < msec.toNat := by simp [comboContinue] at hc; omega
    obtain ⟨s₂, h₂, hn₂⟩ := @comboPoll_some msec hmsec input.passes fuel s₁ this (by omega)
    simp only [h₂, Option.some_bind]
    exact ⟨_, _, rfl, hn₂⟩

theorem waitComboWithTimeout_keysSeen {msec : Int} {input : ComboInput} {fuel : Nat} {keys : U32}
    {s : ComboState} (h : waitComboWithTimeout msec input fuel = some (keys, s)) :
    keys = 0 ∨ List.replicate 0x10001 keys <:+: s.scans := by
  simp only [waitComboWithTimeout, Option.bind_eq_bind, Option.bind_eq_some] at h
  obtain ⟨s₁, h₁, h⟩ := h
  split at h
  · cases h; exact .inl rfl
  · obtain ⟨s₂, h₂, h⟩ := Option.bind_eq_some.mp h
    simp only [Option.some.injEq, Prod.mk.injEq] at h
    obtain ⟨rfl, rfl⟩ := h
    exact comboPoll_keysSeen (comboWaitRelease_keysSeen (.inl rfl) h₁) h₂

/-- `waitComboWithTimeout` returns within `msec` passes, with 0 or a key set `0x10001` consecutive
scans agreed on. -/
theorem waitComboWithTimeout_bounded_stable :
    (∀ (msec : Int) (input : ComboInput) (fuel : Nat), 0 ≤ msec → msec.toNat ≤ fuel →
      ∃ keys s, waitComboWithTimeout msec input fuel = some (keys, s) ∧ s.n ≤ msec.toNat) ∧
    ∀ (msec : Int) (input : ComboInput) (fuel : Nat) (keys : U32) (s : ComboState),
      waitComboWithTimeout msec input fuel = some (keys, s) → keys = 0 ∨ List.replicate 0x10001 keys <:+: s.scans :=
  ⟨fun _ input _ hmsec hf => waitComboWithTimeout_some hmsec input hf,
    fun _ _ _ _ _ h => waitComboWithTimeout_keysSeen h⟩

end Luma
