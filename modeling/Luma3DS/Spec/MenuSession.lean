import Luma3DS.Spec.Menu
import Luma3DS.Spec.Services

/-! A whole pass of `menuShow`'s loop with the calls it makes besides
navigating: the method of a `METHOD` item on `A`, `menuToggleLEDs` on
`SELECT`, and `menuDraw` at the end of every pass that does not leave the
loop through `B` at the root; of `menuDraw`, what changes state is its
`menuUpdateMcuInfo`. The keys and the item visibilities are those of
`MenuInput`. -/

namespace Luma

def keySelect : U32 := 0x4

structure MenuSession where
  nav : MenuShowState
  mcu : McuGlobals
  services : ServiceState

/-- What the calls of a pass meet: the selected method, and `mcu::HWC`'s answers to `menuToggleLEDs`
and to `menuDraw`. -/
structure MenuPassEnv where
  method : ServiceState → ServiceState
  toggle : McuEnv
  garbage : U8
  draw : McuEnv

inductive MenuSessionStep where
  | next (st : MenuSession)
  | exit (st : MenuSession)
  | trap
  | fault

/-- `menuDraw(currentMenu, selectedItem)`, then the test `while(!menuShouldExit)`. -/
def menuDrawAndTest (input : MenuInput) (env : MenuPassEnv) (st : MenuSession) : MenuSessionStep :=
  let r := menuUpdateMcuInfo env.draw st.mcu st.services
  let st := { st with mcu := r.2.1, services := r.2.2 }
  if input.menuShouldExit then .exit st else .next st

/-- One pass of the `do … while` loop of `menuShow`, calls included. -/
def menuShowPass (tree : List Menu) (input : MenuInput) (env : MenuPassEnv) (st : MenuSession) : MenuSessionStep :=
  match tree[st.nav.currentMenu]? with
  | none => .fault
  | some menu =>
    if input.pressed &&& keyA ≠ 0 then
      match menu.items[st.nav.selectedItem]? with
      | none => .fault
      | some item =>
        match item.actionType with
        | .method => menuDrawAndTest input env { st with services := env.method st.services }
        | .menu =>
          if st.nav.nbPreviousMenus < 0x80 then menuDrawAndTest input env { st with nav := st.nav.openSubmenu item }
          else .fault
        | .menuEnd => .trap
    else if input.pressed &&& keyB ≠ 0 then
      if st.nav.nbPreviousMenus > 0 then
        if st.nav.nbPreviousMenus - 1 < 0x80 then menuDrawAndTest input env { st with nav := st.nav.backToParent }
        else .fault
      else .exit st
    else if input.pressed &&& keyDown ≠ 0 then
      match menuMoveCursor menu input.visible st.nav.selectedItem 1 with
      | none => .fault
      | some selectedItem => menuDrawAndTest input env { st with nav := { st.nav with selectedItem } }
    else if input.pressed &&& keyUp ≠ 0 then
      match menuMoveCursor menu input.visible st.nav.selectedItem (-1) with
      | none => .fault
      | some selectedItem => menuDrawAndTest input env { st with nav := { st.nav with selectedItem } }
    else if input.pressed &&& keySelect ≠ 0 then
      let r := menuToggleLEDs env.toggle env.garbage st.mcu st.services
      menuDrawAndTest input env { st with mcu := r.1, services := r.2 }
    else menuDrawAndTest input env st

def menuShowRun (tree : List Menu) : List (MenuInput × MenuPassEnv) → MenuSession → MenuSessionStep
  | [], st => .next st
  | (input, env) :: passes, st =>
    match menuShowPass tree input env st with
    | .next st' => menuShowRun tree passes st'
    | r => r

end Luma
