import Luma3DS.Spec.Basic

/-! How the menu waits for keys: the loop of `waitInputWithTimeout`,
`scanHeldKeys` and the two polling loops of `waitComboWithTimeout`, one pass
every millisecond. Other
threads change `menuShouldExit` and `isHidInitialized` and the user presses
keys while the loops run, so everything a pass reads is an input of the pass.
`n` and `msec` are `s32`s: `n` never passes `msec` when `msec ≥ 0` and is not
read when `msec < 0`, so both are integers here. -/

namespace Luma

/-- What one `scanHeldKeys` call sees under `Draw_Lock`. -/
structure HidSample where
  isHidInitialized : Bool
  menuShouldExit : Bool
  held : U32

def scanHeldKeys (x : HidSample) : U32 :=
  if !x.isHidInitialized || x.menuShouldExit then 0 else x.held

structure HidFlags where
  menuShouldExit : Bool
  isHidInitialized : Bool

/-- `!menuShouldExit && isHidInitialized && (msec < 0 || n < msec)`, the end of both loop tests. -/
def comboContinue (msec : Int) (n : Nat) (f : HidFlags) : Bool :=
  !f.menuShouldExit && f.isHidInitialized && (decide (msec < 0) || decide ((n : Int) < msec))

structure ComboState where
  n : Nat
  keys : U32
  scans : List U32

abbrev ReleaseTest := Nat → HidSample × HidFlags

/-- The first loop of `waitComboWithTimeout`; `none` when `fuel` passes are not enough. -/
def comboWaitRelease (msec : Int) (release : ReleaseTest) : Nat → ComboState → Option ComboState
  | fuel, s =>
    let k := scanHeldKeys (release s.n).1
    let s := { s with scans := s.scans ++ [k] }
    if k != 0 && comboContinue msec s.n (release s.n).2 then
      match fuel with
      | 0 => none
      | fuel + 1 => comboWaitRelease msec release fuel { s with n := s.n + 1 }
    else some s

def comboHold (hold : Nat → HidSample) (tempKeys keys : U32) : Nat → U32 × List U32
  | 0 => (keys, [])
  | i + 1 =>
    let k := scanHeldKeys (hold (i + 1))
    if tempKeys != k then (keys, [k])
    else
      let rest := comboHold hold tempKeys (if i + 1 = 1 then tempKeys else keys) i
      (rest.1, k :: rest.2)

/-- A pass of the second loop: `tempKeys`, the calls of its `for` loop, and the test, which scans
only when `keys != 0`. -/
structure ComboPass where
  first : HidSample
  hold : Nat → HidSample
  test : HidSample
  flags : HidFlags

/-- One pass of the `do … while` loop, and whether the loop goes on. -/
def comboPass (msec : Int) (p : ComboPass) (s : ComboState) : Bool × ComboState :=
  let n := s.n + 1
  let tempKeys := scanHeldKeys p.first
  let hold := comboHold p.hold tempKeys s.keys 0x10000
  let s : ComboState := ⟨n, hold.1, s.scans ++ tempKeys :: hold.2⟩
  if s.keys = 0 then (comboContinue msec n p.flags, s)
  else
    let k := scanHeldKeys p.test
    (k != 0 && comboContinue msec n p.flags, { s with scans := s.scans ++ [k] })

def comboPoll (msec : Int) (passes : Nat → ComboPass) : Nat → ComboState → Option ComboState
  | fuel, s =>
    let pass := comboPass msec (passes s.n) s
    if pass.1 then
      match fuel with
      | 0 => none
      | fuel + 1 => comboPoll msec passes fuel pass.2
    else some pass.2

structure ComboInput where
  release : ReleaseTest
  afterRelease : HidFlags
  passes : Nat → ComboPass

/-- `waitComboWithTimeout(msec)`, with its locals and every `scanHeldKeys` result; `none` when the
fuel is not enough. -/
def waitComboWithTimeout (msec : Int) (input : ComboInput) (fuel : Nat) : Option (U32 × ComboState) := do
  let s ← comboWaitRelease msec input.release fuel ⟨0, 0, []⟩
  if !comboContinue msec s.n input.afterRelease then some (0, s)
  else
    let s ← comboPoll msec input.passes fuel s
    some (s.keys, s)

def directionalKeys : U32 := 0xF00000F0

def HidFlags.stopped (f : HidFlags) : Bool := !f.isHidInitialized || f.menuShouldExit

/-- What a pass of `waitInputWithTimeout` reads: the globals at its lock, the keys, and the globals
at its test. -/
structure InputPass where
  flags : HidFlags
  down : U32
  downRepeat : U32
  after : HidFlags

def InputPass.keys (p : InputPass) : U32 := p.down ||| (p.downRepeat &&& directionalKeys)

/-- The loop of `waitInputWithTimeout` from the pass that reads `passes n`: its keys and `n` at the
end. -/
def waitInputLoop (msec : Int) (passes : Nat → InputPass) : Nat → Nat → Option (U32 × Nat)
  | fuel, n =>
    if (passes n).flags.stopped then some (0, n)
    else if (passes n).keys == 0 && comboContinue msec (n + 1) (passes n).after then
      match fuel with
      | 0 => none
      | fuel + 1 => waitInputLoop msec passes fuel (n + 1)
    else some ((passes n).keys, n + 1)

def waitInputWithTimeout (msec : Int) (passes : Nat → InputPass) (fuel : Nat) : Option (U32 × Nat) :=
  waitInputLoop msec passes fuel 0

def waitInput (passes : Nat → InputPass) (fuel : Nat) : Option (U32 × Nat) :=
  waitInputWithTimeout (-1) passes fuel

end Luma
