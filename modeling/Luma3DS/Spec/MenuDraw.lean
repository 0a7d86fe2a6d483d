import Luma3DS.Spec.ErrFormat
import Luma3DS.Spec.Menu

/-! What `menuDraw` puts on the bottom screen besides the battery line. The
two `sprintf` calls into fixed buffers: `versionString[16]` gets the version
`svcGetSystemInfo(0x10000, 0)` reports, `ipBuffer[17]` the address
`socGethostid` returns. And the item loop: a row for each item before
`MENU_END` that is not hidden, with its title and, in front of it, `'>'` for
the selected item and `' '` for the others. The draw calls are kept as a list;
what `Draw_DrawString` does with the pixels is left out. -/

namespace Luma

/-- `sprintf(versionString, "v%lu.%lu", …)`, or with the revision when it is not 0. -/
def menuVersionString (version : U32) : List Char :=
  if getVersionRevision version = 0 then
    'v' :: fmtDec (getVersionMajor version) ++ '.' :: fmtDec (getVersionMinor version)
  else
    'v' :: fmtDec (getVersionMajor version) ++ '.' :: fmtDec (getVersionMinor version) ++
      '.' :: fmtDec (getVersionRevision version)

def menuIpString (ip : U32) : List Char :=
  List.intercalate ['.'] ((wordBytes ip).map fun b => fmtDec b.toNat)

/-- `Draw_DrawString(30, 30 + dispY, …, items[i].title)` and `Draw_DrawCharacter(10, 30 + dispY, …,
c)`. -/
inductive MenuDrawCall where
  | itemTitle (posY : U32) (i : Nat)
  | cursorChar (posY : U32) (c : Char)
  deriving DecidableEq, Repr

/-- The item loop of `menuDraw` from index `i` and row offset `dispY`; `spacingY` is `SPACING_Y`. -/
def menuDrawItemsFrom (spacingY : U32) (visible : Nat → Bool) (selected : Nat) :
    Nat → U32 → List MenuItem → List MenuDrawCall
  | _, _, [] => []
  | i, dispY, item :: items =>
    if menuItemIsHidden item (visible i) then menuDrawItemsFrom spacingY visible selected (i + 1) dispY items
    else
      .itemTitle (30 + dispY) i :: .cursorChar (30 + dispY) (if i = selected then '>' else ' ') ::
        menuDrawItemsFrom spacingY visible selected (i + 1) (dispY + spacingY) items

def menuDrawItems (spacingY : U32) (menu : Menu) (visible : Nat → Bool) (selected : Nat) : List MenuDrawCall :=
  menuDrawItemsFrom spacingY visible selected 0 0 (menu.items.take (menuCountItems menu))

end Luma
