import Luma3DS.Spec.MenuDraw
import Luma3DS.Proofs.MenuCursor

/-! Where `menuDraw` puts its cursor. The `'>'` stands on exactly the rows
where the title of the selected item is drawn, and that title is drawn once
when the item comes before `MENU_END` and is shown, and never otherwise. So in
every state `menuShow` reaches with its cursor on a shown item, the item list
has exactly one `'>'`, on the selected item's row. -/

namespace Luma

/-- The rows of the `'>'` characters among the calls. -/
def cursorRows (calls : List MenuDrawCall) : List U32 :=
  calls.filterMap fun
    | .cursorChar posY c => if c = '>' then some posY else none
    | .itemTitle _ _ => none

def titleRows (j : Nat) (calls : List MenuDrawCall) : List U32 :=
  calls.filterMap fun
    | .itemTitle posY i => if i = j then some posY else none
    | .cursorChar _ _ => none

@[simp] theorem cursorRows_nil : cursorRows [] = [] := rfl

@[simp] theorem cursorRows_itemTitle (posY : U32) (i : Nat) (calls : List MenuDrawCall) :
    cursorRows (.itemTitle posY i :: calls) = cursorRows calls := rfl

@[simp] theorem cursorRows_cursorChar (posY : U32) (c : Char) (calls : List MenuDrawCall) :
    cursorRows (.cursorChar posY c :: calls) = if c = '>' then posY :: cursorRows calls else cursorRows calls := by
  by_cases h : c = '>' <;> simp [cursorRows, h]

@[simp] theorem titleRows_nil (j : Nat) : titleRows j [] = [] := rfl

@[simp] theorem titleRows_itemTitle (j : Nat) (posY : U32) (i : Nat) (calls : List MenuDrawCall) :
    titleRows j (.itemTitle posY i :: calls) = if i = j then posY :: titleRows j calls else titleRows j calls := by
  by_cases h : i = j <;> simp [titleRows, h]

@[simp] theorem titleRows_cursorChar (j : Nat) (posY : U32) (c : Char) (calls : List MenuDrawCall) :
    titleRows j (.cursorChar posY c :: calls) = titleRows j calls := rfl

section

variable (spacingY : U32) (visible : Nat → Bool) (selected : Nat)

/-- The `'>'` marks exactly the rows of the selected item's title. -/
theorem cursorRows_menuDrawItemsFrom (i : Nat) (dispY : U32) (items : List MenuItem) :
    cursorRows (menuDrawItemsFrom spacingY visible selected i dispY items) =
      titleRows selected (menuDrawItemsFrom spacingY visible selected i dispY items) := by
  induction items generalizing i dispY with
  | nil => rfl
  | cons item items ih =>
    simp only [menuDrawItemsFrom]
    split
    · exact ih _ _
    · by_cases h : i = selected <;> simp [h, ih]

theorem titleRows_menuDrawItemsFrom_of_lt {i : Nat} (h : selected < i) (dispY : U32) (items : List MenuItem) :
    titleRows selected (menuDrawItemsFrom spacingY visible selected i dispY items) = [] := by
  induction items generalizing i dispY with
  | nil => rfl
  | cons item items ih =>
    simp only [menuDrawItemsFrom]
    split
    · exact ih (Nat.lt_succ_of_lt h) _
    · simp [Nat.ne_of_gt h, ih (Nat.lt_succ_of_lt h)]

theorem titleRows_menuDrawItemsFrom_shown {i : Nat} (hi : i ≤ selected) (dispY : U32) {items : List MenuItem}
    {item : MenuItem} (hitem : items[selected - i]? = some item)
    (hshown : menuItemIsHidden item (visible selected) = false) :
    ∃ posY, titleRows selected (menuDrawItemsFrom spacingY visible selected i dispY items) = [posY] := by
  induction items generalizing i dispY with
  | nil => cases hitem
  | cons it items ih =>
    simp only [menuDrawItemsFrom]
    rcases Nat.eq_or_lt_of_le hi with rfl | hlt
    · rw [Nat.sub_self, List.getElem?_cons_zero] at hitem
      obtain rfl := Option.some.inj hitem
      rw [if_neg (by simp [hshown])]
      exact ⟨30 + dispY, by simp [titleRows_menuDrawItemsFrom_of_lt spacingY visible i (Nat.lt_succ_self i)]⟩
    · rw [show selected - i = selected - (i + 1) + 1 by omega, List.getElem?_cons_succ] at hitem
      split
      · exact ih hlt _ hitem
      · simpa [Nat.ne_of_lt hlt] using ih hlt _ hitem

end

/-- At every state `menuShow` reaches, the item list has one `'>'`, on the row of the selected
item's title. -/
theorem menuDraw_marks_selected_row (spacingY : U32) {tree : List Menu} {root : MenuId} {vis : MenuId → Nat → Bool}
    (htree : MenuTreeOk tree root) (hadj : NoAdjacentHidden tree vis)
    (hsmall : ∀ menu ∈ tree, menuCountItems menu < 2 ^ 31)
    (hfirst : ∀ menu ∈ tree, ∀ m ∈ submenus menu, itemHidden tree vis m 0 = false)
    {s : MenuShowState} (hs : MenuShowReachableUnder tree root vis s) :
    ∃ menu, tree[s.currentMenu]? = some menu ∧ ∃ posY,
      cursorRows (menuDrawItems spacingY menu (vis s.currentMenu) s.selectedItem) = [posY] ∧
      titleRows s.selectedItem (menuDrawItems spacingY menu (vis s.currentMenu) s.selectedItem) = [posY] := by
  obtain ⟨menu, hm, hsel⟩ := (hs.reachable.navInv htree).cursor
  obtain ⟨item, hi, -⟩ := getElem?_of_lt_menuCountItems hsel
  have hshown := (hs.cursorShown htree hadj hsmall hfirst).cursor
  rw [itemHidden_eq hm hi] at hshown
  have hitem : (menu.items.take (menuCountItems menu))[s.selectedItem - 0]? = some item := by
    rw [Nat.sub_zero, List.getElem?_take_of_lt hsel]
    exact hi
  obtain ⟨posY, hp⟩ := @titleRows_menuDrawItemsFrom_shown spacingY (vis s.currentMenu) s.selectedItem 0
    (Nat.zero_le _) 0 _ item hitem hshown
  exact ⟨menu, hm, posY, (cursorRows_menuDrawItemsFrom _ _ _ _ _ _).trans hp, hp⟩

theorem menuDraw_marks_selected_row_sampleTree :
    MenuTreeOk sampleMenuTree 0 ∧ NoAdjacentHidden sampleMenuTree (fun _ _ => false) ∧
    (∀ menu ∈ sampleMenuTree, menuCountItems menu < 2 ^ 31) ∧
    (∀ menu ∈ sampleMenuTree, ∀ m ∈ submenus menu, itemHidden sampleMenuTree (fun _ _ => false) m 0 = false) ∧
    MenuShowReachableUnder sampleMenuTree 0 (fun _ _ => false) ⟨0, 0, 0, fun _ => 0, fun _ => 0⟩ ∧
    ∃ menu, sampleMenuTree[0]? = some menu ∧ ∃ posY,
      cursorRows (menuDrawItems 10 menu (fun _ => false) 0) = [posY] ∧
      titleRows 0 (menuDrawItems 10 menu (fun _ => false) 0) = [posY] := by
  have htree := sampleMenuTree_ok
  have h := sampleMenuTree_cursorOk
  have hs : MenuShowReachableUnder sampleMenuTree 0 (fun _ _ => false) ⟨0, 0, 0, fun _ => 0, fun _ => 0⟩ :=
    .start _ _ rfl
  exact ⟨htree, h.1, h.2.1, h.2.2, hs, menuDraw_marks_selected_row 10 htree h.1 h.2.1 h.2.2 hs⟩

end Luma
