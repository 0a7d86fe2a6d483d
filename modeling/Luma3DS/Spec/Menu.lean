import Luma3DS.Spec.Basic

/-! Rosalina's menu: `menuEnter` and `menuLeave`, which two threads call in
pairs around their use of the bottom screen, and the navigation loop of
`menuShow` over a tree of menus. Drawing, the LEDs and the methods an item
runs act on nothing this state holds; they are left out. -/

namespace Luma

/-- The globals `menuEnter` and `menuLeave` share under `Draw_Lock`; `menuRefCount` is an `s32`. -/
structure MenuState where
  menuRefCount : U32
  framebufferSetUp : Bool
  menuShouldExit : Bool
  deriving DecidableEq, Repr

/-- `menuEnter()`; `allocOk` says whether `Draw_AllocateFramebufferCache` succeeds. -/
def menuEnter (allocOk : Bool) (s : MenuState) : MenuState :=
  if !s.menuShouldExit && s.menuRefCount == 0 then
    let s := { s with menuRefCount := s.menuRefCount + 1 }
    if !allocOk then { s with menuRefCount := 0 } else { s with framebufferSetUp := true }
  else s

def menuLeave (s : MenuState) : MenuState :=
  let s := { s with menuRefCount := s.menuRefCount - 1 }
  if s.menuRefCount == 0 then { s with framebufferSetUp := false } else s

inductive MenuUser where
  | menuThread
  | errDisp
  deriving DecidableEq, Repr

/-- Where each thread is: `none` outside its pair, `some b` inside it, `b` saying that its
`menuEnter` set the menu up. -/
structure MenuSystem where
  globals : MenuState
  phase : MenuUser → Option Bool

inductive MenuEvent where
  | enter (t : MenuUser) (allocOk : Bool)
  | leave (t : MenuUser)
  | setMenuShouldExit (b : Bool)

def menuEnterSetsUp (allocOk : Bool) (s : MenuState) : Bool :=
  !s.menuShouldExit && s.menuRefCount == 0 && allocOk

def menuSystemStep (sys : MenuSystem) : MenuEvent → Option MenuSystem
  | .enter t allocOk =>
    if (sys.phase t).isSome then none
    else some ⟨menuEnter allocOk sys.globals,
      Function.update sys.phase t (some (menuEnterSetsUp allocOk sys.globals))⟩
  | .leave t =>
    if (sys.phase t).isSome then some ⟨menuLeave sys.globals, Function.update sys.phase t none⟩
    else none
  | .setMenuShouldExit b => some ⟨{ sys.globals with menuShouldExit := b }, sys.phase⟩

def menuSystemRun (sys : MenuSystem) : List MenuEvent → Option MenuSystem
  | [] => some sys
  | e :: es => (menuSystemStep sys e).bind fun sys => menuSystemRun sys es

def menuSystemInit : MenuSystem := ⟨⟨0, false, false⟩, fun _ => none⟩

inductive MenuItemAction where
  | menuEnd
  | method
  | menu
  deriving DecidableEq, Repr

abbrev MenuId := Nat

/-- The fields of `MenuItem` that `menuShow` reads. -/
structure MenuItem where
  actionType : MenuItemAction
  menu : MenuId
  hasVisibility : Bool
  deriving DecidableEq, Repr

structure Menu where
  items : List MenuItem
  deriving DecidableEq, Repr

def menuCountItems (menu : Menu) : Nat := (menu.items.takeWhile (·.actionType != .menuEnd)).length

def menuAdvanceCursor (pos numItems : Nat) (displ : Int) : Option Nat :=
  if numItems = 0 then none
  else some ((pos + numItems + (displ % 2 ^ 32).toNat) % 2 ^ 32 % numItems)

def menuItemIsHidden (item : MenuItem) (visible : Bool) : Bool := item.hasVisibility && !visible

def keyA : U32 := 0x1
def keyB : U32 := 0x2
def keyUp : U32 := 0x40000040
def keyDown : U32 := 0x80000080

structure MenuShowState where
  selectedItem : Nat
  currentMenu : MenuId
  nbPreviousMenus : Nat
  previousMenus : Nat → MenuId
  previousSelectedItems : Nat → Nat

/-- What a pass reads besides its locals: the keys, each item's `visibility()`, and `menuShouldExit`
at the test. -/
structure MenuInput where
  pressed : U32
  visible : Nat → Bool
  menuShouldExit : Bool

inductive MenuShowStep where
  | next (s : MenuShowState)
  | exit
  | trap
  | fault

def MenuShowState.openSubmenu (s : MenuShowState) (item : MenuItem) : MenuShowState :=
  { s with
    previousSelectedItems := Function.update s.previousSelectedItems s.nbPreviousMenus s.selectedItem
    previousMenus := Function.update s.previousMenus s.nbPreviousMenus s.currentMenu
    nbPreviousMenus := s.nbPreviousMenus + 1
    currentMenu := item.menu
    selectedItem := 0 }

def MenuShowState.backToParent (s : MenuShowState) : MenuShowState :=
  { s with
    nbPreviousMenus := s.nbPreviousMenus - 1
    currentMenu := s.previousMenus (s.nbPreviousMenus - 1)
    selectedItem := s.previousSelectedItems (s.nbPreviousMenus - 1) }

/-- The `KEY_DOWN` and `KEY_UP` branches: advance by `displ`, and once more if the item reached is
hidden. -/
def menuMoveCursor (menu : Menu) (visible : Nat → Bool) (selectedItem : Nat) (displ : Int) : Option Nat := do
  let numItems := menuCountItems menu
  let selectedItem ← menuAdvanceCursor selectedItem numItems displ
  let item ← menu.items[selectedItem]?
  if menuItemIsHidden item (visible selectedItem) then menuAdvanceCursor selectedItem numItems displ
  else some selectedItem

def endOfPass (input : MenuInput) (s : MenuShowState) : MenuShowStep :=
  if input.menuShouldExit then .exit else .next s

def menuShowStep (tree : List Menu) (input : MenuInput) (s : MenuShowState) : MenuShowStep :=
  match tree[s.currentMenu]? with
  | none => .fault
  | some menu =>
    if input.pressed &&& keyA ≠ 0 then
      match menu.items[s.selectedItem]? with
      | none => .fault
      | some item =>
        match item.actionType with
        | .method => endOfPass input s
        | .menu =>
          if s.nbPreviousMenus < 0x80 then endOfPass input (s.openSubmenu item) else .fault
        | .menuEnd => .trap
    else if input.pressed &&& keyB ≠ 0 then
      if s.nbPreviousMenus > 0 then
        if s.nbPreviousMenus - 1 < 0x80 then endOfPass input s.backToParent else .fault
      else .exit
    else if input.pressed &&& keyDown ≠ 0 then
      match menuMoveCursor menu input.visible s.selectedItem 1 with
      | none => .fault
      | some selectedItem => endOfPass input { s with selectedItem }
    else if input.pressed &&& keyUp ≠ 0 then
      match menuMoveCursor menu input.visible s.selectedItem (-1) with
      | none => .fault
      | some selectedItem => endOfPass input { s with selectedItem }
    else endOfPass input s  -- `KEY_SELECT` toggles the LEDs

/-- The cursor `menuShow` starts with on `root`, skipping a hidden first item. -/
def menuShowStart (tree : List Menu) (root : MenuId) (visible : Nat → Bool) : Option Nat := do
  let menu ← tree[root]?
  let item ← menu.items[0]?
  if menuItemIsHidden item (visible 0) then menuAdvanceCursor 0 (menuCountItems menu) 1 else some 0

inductive MenuShowReachable (tree : List Menu) (root : MenuId) : MenuShowState → Prop
  | start {visible : Nat → Bool} {selectedItem : Nat} (previousMenus : Nat → MenuId)
      (previousSelectedItems : Nat → Nat) :
      menuShowStart tree root visible = some selectedItem →
      MenuShowReachable tree root ⟨selectedItem, root, 0, previousMenus, previousSelectedItems⟩
  | step {s s' : MenuShowState} {input : MenuInput} :
      MenuShowReachable tree root s → menuShowStep tree input s = .next s' → MenuShowReachable tree root s'

/-- The states at the head of the loop when every `visibility()` returns `vis m i` all run long. -/
inductive MenuShowReachableUnder (tree : List Menu) (root : MenuId) (vis : MenuId → Nat → Bool) :
    MenuShowState → Prop
  | start {selectedItem : Nat} (previousMenus : Nat → MenuId) (previousSelectedItems : Nat → Nat) :
      menuShowStart tree root (vis root) = some selectedItem →
      MenuShowReachableUnder tree root vis ⟨selectedItem, root, 0, previousMenus, previousSelectedItems⟩
  | step {s s' : MenuShowState} {input : MenuInput} :
      MenuShowReachableUnder tree root vis s → input.visible = vis s.currentMenu →
      menuShowStep tree input s = .next s' → MenuShowReachableUnder tree root vis s'

end Luma
