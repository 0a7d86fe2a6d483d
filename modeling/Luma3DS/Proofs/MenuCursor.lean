import Luma3DS.Proofs.MenuShow

/-! Where `menuShow` leaves the cursor when every `visibility()` keeps its
value. The skip at the start and the one re-skip after `UP` or `DOWN` land on
a shown item in every menu with no two cyclically adjacent hidden items, and
`B` returns to a cursor that was shown when it was saved. `A` on a `MENU`
item opens the submenu at item 0 with no skip, so a submenu whose first item
is hidden gets the cursor on it, and `menuDraw` then marks no item. With the
first item of every submenu shown, the cursor is never on a hidden item. -/

namespace Luma

/-- Whether item `i` of menu `m` is hidden when its `visibility()` returns `vis m i`. -/
def itemHidden (tree : List Menu) (vis : MenuId → Nat → Bool) (m : MenuId) (i : Nat) : Bool :=
  match tree[m]? with
  | some menu =>
    match menu.items[i]? with
    | some item => menuItemIsHidden item (vis m i)
    | none => false
  | none => false

theorem itemHidden_eq {tree : List Menu} {vis : MenuId → Nat → Bool} {m : MenuId} {menu : Menu} {i : Nat}
    {item : MenuItem} (hm : tree[m]? = some menu) (hi : menu.items[i]? = some item) :
    itemHidden tree vis m i = menuItemIsHidden item (vis m i) := by
  simp [itemHidden, hm, hi]

/-- No two cyclically adjacent items of a menu are hidden. -/
def NoAdjacentHidden (tree : List Menu) (vis : MenuId → Nat → Bool) : Prop :=
  ∀ m (hm : m < tree.length), ∀ i < menuCountItems tree[m],
    itemHidden tree vis m i = true → itemHidden tree vis m ((i + 1) % menuCountItems tree[m]) = false

instance (tree : List Menu) (vis : MenuId → Nat → Bool) : Decidable (NoAdjacentHidden tree vis) :=
  Nat.decidableBallLT _ _

theorem NoAdjacentHidden.next {tree : List Menu} {vis : MenuId → Nat → Bool} (hadj : NoAdjacentHidden tree vis)
    {m : MenuId} {menu : Menu} (hm : tree[m]? = some menu) {i : Nat} (hi : i < menuCountItems menu)
    (h : itemHidden tree vis m i = true) : itemHidden tree vis m ((i + 1) % menuCountItems menu) = false := by
  obtain ⟨hlt, rfl⟩ := List.getElem?_eq_some_iff.mp hm
  exact hadj m hlt i hi h

theorem MenuShowReachableUnder.reachable {tree : List Menu} {root : MenuId} {vis : MenuId → Nat → Bool}
    {s : MenuShowState} (h : MenuShowReachableUnder tree root vis s) : MenuShowReachable tree root s := by
  induction h with
  | start previousMenus previousSelectedItems hs => exact .start previousMenus previousSelectedItems hs
  | step _ _ hs ih => exact .step ih hs

/-- `A` on a `MENU` item opens its menu with the cursor on item 0, hidden or not. -/
theorem menuShow_opens_submenu_on_hidden_item {tree : List Menu} {root : MenuId} {vis : MenuId → Nat → Bool}
    (htree : MenuTreeOk tree root) {s : MenuShowState} (hs : MenuShowReachableUnder tree root vis s)
    {menu : Menu} {item : MenuItem} (hm : tree[s.currentMenu]? = some menu)
    (hi : menu.items[s.selectedItem]? = some item) (ht : item.actionType = .menu)
    (hhid : itemHidden tree vis item.menu 0 = true) :
    menuShowStep tree ⟨keyA, vis s.currentMenu, false⟩ s = .next (s.openSubmenu item) ∧
      MenuShowReachableUnder tree root vis (s.openSubmenu item) ∧
      itemHidden tree vis (s.openSubmenu item).currentMenu (s.openSubmenu item).selectedItem = true := by
  have hnb := (hs.reachable.navInv htree).nb_lt_of_menu hm hi ht
  have hstep : menuShowStep tree ⟨keyA, vis s.currentMenu, false⟩ s = .next (s.openSubmenu item) := by
    simp only [menuShowStep, hm, if_pos (show keyA &&& keyA ≠ 0 by decide), hi, ht, if_pos hnb, endOfPass,
      Bool.false_eq_true, if_false]
  exact ⟨hstep, .step hs rfl hstep, hhid⟩

def hiddenFirstTree : List Menu :=
  [⟨[⟨.menu, 1, false⟩, ⟨.menuEnd, 0, false⟩]⟩,
    ⟨[⟨.method, 0, true⟩, ⟨.method, 0, false⟩, ⟨.menuEnd, 0, false⟩]⟩]

theorem menuShow_hidden_cursor_hiddenFirstTree :
    MenuTreeOk hiddenFirstTree 0 ∧ NoAdjacentHidden hiddenFirstTree (fun _ _ => false) ∧
    ∃ s, MenuShowReachableUnder hiddenFirstTree 0 (fun _ _ => false) s ∧
      itemHidden hiddenFirstTree (fun _ _ => false) s.currentMenu s.selectedItem = true := by
  have htree : MenuTreeOk hiddenFirstTree 0 := ⟨by decide, by decide, by decide, by decide⟩
  have hs : MenuShowReachableUnder hiddenFirstTree 0 (fun _ _ => false) ⟨0, 0, 0, fun _ => 0, fun _ => 0⟩ :=
    .start _ _ rfl
  obtain ⟨-, hr, hh⟩ := menuShow_opens_submenu_on_hidden_item htree hs rfl rfl rfl (by decide)
  exact ⟨htree, by decide, _, hr, hh⟩

theorem menuAdvanceCursor_down {pos numItems : Nat} (hpos : pos < numItems) (hn : numItems < 2 ^ 31) :
    menuAdvanceCursor pos numItems 1 = some ((pos + 1) % numItems) := by
  have h1 : ((1 : Int) % 2 ^ 32).toNat = 1 := rfl
  rw [menuAdvanceCursor, if_neg (by omega), h1, Nat.mod_eq_of_lt (by omega : pos + numItems + 1 < 2 ^ 32),
    Nat.add_right_comm, Nat.add_mod_right]

theorem menuAdvanceCursor_up {pos numItems : Nat} (hpos : pos < numItems) (hn : numItems < 2 ^ 31) :
    menuAdvanceCursor pos numItems (-1) = some ((pos + numItems - 1) % numItems) := by
  have h1 : ((-1 : Int) % 2 ^ 32).toNat = 2 ^ 32 - 1 := rfl
  rw [menuAdvanceCursor, if_neg (by omega), h1, show (pos + numItems + (2 ^ 32 - 1)) % 2 ^ 32 = pos + numItems - 1 by omega]

theorem up_succ_mod {p numItems : Nat} (hp : p < numItems) : ((p + numItems - 1) % numItems + 1) % numItems = p := by
  rw [Nat.mod_add_mod, Nat.sub_add_cancel (by omega), Nat.add_mod_right, Nat.mod_eq_of_lt hp]

theorem skipHidden_shown {tree : List Menu} {vis : MenuId → Nat → Bool} {m : MenuId} {menu : Menu}
    (hm : tree[m]? = some menu) {p q r : Nat} {item : MenuItem} (hi : menu.items[p]? = some item)
    (hq : itemHidden tree vis m p = true → itemHidden tree vis m q = false)
    (h : (if menuItemIsHidden item (vis m p) then some q else some p) = some r) :
    itemHidden tree vis m r = false := by
  split at h
  · next hh =>
    cases h
    exact hq (by rw [itemHidden_eq hm hi, hh])
  · next hh =>
    cases h
    rw [itemHidden_eq hm hi]
    simpa using hh

section

variable {tree : List Menu} {vis : MenuId → Nat → Bool} (hadj : NoAdjacentHidden tree vis) {m : MenuId}
  {menu : Menu} (hm : tree[m]? = some menu) (hsmall : menuCountItems menu < 2 ^ 31)
include hadj hm hsmall

theorem menuMoveCursor_shown {pos r : Nat} (hpos : pos < menuCountItems menu) {displ : Int}
    (hd : displ = 1 ∨ displ = -1) (hr : menuMoveCursor menu (vis m) pos displ = some r) :
    itemHidden tree vis m r = false := by
  have hn : 0 < menuCountItems menu := by omega
  rcases hd with rfl | rfl
  · have hp1 := Nat.mod_lt (pos + 1) hn
    obtain ⟨item, hi, -⟩ := getElem?_of_lt_menuCountItems hp1
    simp only [menuMoveCursor, menuAdvanceCursor_down hpos hsmall, hi, Option.bind_eq_bind, Option.some_bind,
      menuAdvanceCursor_down hp1 hsmall] at hr
    exact skipHidden_shown hm hi (hadj.next hm hp1) hr
  · have hp1 := Nat.mod_lt (pos + menuCountItems menu - 1) hn
    obtain ⟨item, hi, -⟩ := getElem?_of_lt_menuCountItems hp1
    simp only [menuMoveCursor, menuAdvanceCursor_up hpos hsmall, hi, Option.bind_eq_bind, Option.some_bind,
      menuAdvanceCursor_up hp1 hsmall] at hr
    refine skipHidden_shown hm hi (fun h1 => Bool.eq_false_iff.mpr fun h2 => ?_) hr
    -- the item above a hidden one is shown: otherwise the two would be adjacent
    have := hadj.next hm (Nat.mod_lt _ hn) h2
    rw [up_succ_mod hp1, h1] at this
    cases this

end

/-- The cursor, and every cursor saved on the stack, are on shown items. -/
structure CursorShown (tree : List Menu) (vis : MenuId → Nat → Bool) (s : MenuShowState) : Prop where
  cursor : itemHidden tree vis s.currentMenu s.selectedItem = false
  saved : ∀ k < s.nbPreviousMenus, itemHidden tree vis (s.previousMenus k) (s.previousSelectedItems k) = false

section

variable {tree : List Menu} {root : MenuId} {vis : MenuId → Nat → Bool} (htree : MenuTreeOk tree root)
  (hadj : NoAdjacentHidden tree vis) (hsmall : ∀ menu ∈ tree, menuCountItems menu < 2 ^ 31)
include htree hadj hsmall

theorem menuShowStart_shown {selectedItem : Nat} (h : menuShowStart tree root (vis root) = some selectedItem) :
    itemHidden tree vis root selectedItem = false := by
  have hm := List.getElem?_eq_getElem htree.root_lt
  have hn := (htree.wellFormed_of hm).1
  have hsm := hsmall _ (List.getElem?_mem hm)
  obtain ⟨item, hi, -⟩ := getElem?_of_lt_menuCountItems hn
  simp only [menuShowStart, hm, hi, Option.bind_eq_bind, Option.some_bind, menuAdvanceCursor_down hn hsm] at h
  exact skipHidden_shown hm hi (hadj.next hm hn) h

omit htree in
theorem menuShowStep_cursorShown (hfirst : ∀ menu ∈ tree, ∀ m ∈ submenus menu, itemHidden tree vis m 0 = false)
    {s s' : MenuShowState} (hinv : NavInv tree root s) (hc : CursorShown tree vis s) {input : MenuInput}
    (hv : input.visible = vis s.currentMenu) (hs : menuShowStep tree input s = .next s') : CursorShown tree vis s' := by
  obtain ⟨menu, hm, h | ⟨item, hi, ht, -, h⟩ | ⟨h0, h⟩ | h | ⟨displ, r, hd, hr, -, h⟩⟩ :=
    menuShowStep_cases hinv input <;> rw [h] at hs
  · exact endOfPass_next hs ▸ hc
  · obtain rfl := endOfPass_next hs
    refine ⟨hfirst menu (List.getElem?_mem hm) _ (mem_submenus hi ht), fun k hk => ?_⟩
    simp only [MenuShowState.openSubmenu_nbPreviousMenus, MenuShowState.openSubmenu_previousMenus,
      MenuShowState.openSubmenu_previousSelectedItems] at hk ⊢
    rcases Nat.lt_or_eq_of_le (Nat.le_of_lt_succ hk) with hk | rfl
    · rw [Function.update_noteq (Nat.ne_of_lt hk), Function.update_noteq (Nat.ne_of_lt hk)]
      exact hc.saved k hk
    · simpa using hc.cursor
  · obtain rfl := endOfPass_next hs
    exact ⟨hc.saved _ (by omega), fun k hk => hc.saved k (by simp only [MenuShowState.backToParent_nbPreviousMenus] at hk; omega)⟩
  · cases hs
  · obtain rfl := endOfPass_next hs
    obtain ⟨menu', hm', hsel⟩ := hinv.cursor
    obtain rfl : menu = menu' := Option.some_injective _ (hm.symm.trans hm')
    exact ⟨menuMoveCursor_shown hadj hm (hsmall menu (List.getElem?_mem hm)) hsel hd (hv ▸ hr), hc.saved⟩

theorem MenuShowReachableUnder.cursorShown
    (hfirst : ∀ menu ∈ tree, ∀ m ∈ submenus menu, itemHidden tree vis m 0 = false)
    {s : MenuShowState} (hs : MenuShowReachableUnder tree root vis s) : CursorShown tree vis s := by
  induction hs with
  | start previousMenus previousSelectedItems h =>
    exact ⟨menuShowStart_shown htree hadj hsmall h, fun k hk => absurd hk (Nat.not_lt_zero k)⟩
  | step hs hv hstep ih =>
    exact menuShowStep_cursorShown hadj hsmall hfirst (hs.reachable.navInv htree) ih hv hstep

/-- At every state `menuShow` reaches under a fixed `vis`, the cursor is on a shown item. -/
theorem menuShow_cursor_shown (hfirst : ∀ menu ∈ tree, ∀ m ∈ submenus menu, itemHidden tree vis m 0 = false)
    {s : MenuShowState} (hs : MenuShowReachableUnder tree root vis s) : CursorShown tree vis s :=
  hs.cursorShown htree hadj hsmall hfirst

end

theorem sampleMenuTree_cursorOk :
    NoAdjacentHidden sampleMenuTree (fun _ _ => false) ∧ (∀ menu ∈ sampleMenuTree, menuCountItems menu < 2 ^ 31) ∧
      ∀ menu ∈ sampleMenuTree, ∀ m ∈ submenus menu, itemHidden sampleMenuTree (fun _ _ => false) m 0 = false := by
  decide

theorem menuShow_cursor_shown_sampleTree :
    MenuTreeOk sampleMenuTree 0 ∧ NoAdjacentHidden sampleMenuTree (fun _ _ => false) ∧
    (∀ menu ∈ sampleMenuTree, menuCountItems menu < 2 ^ 31) ∧
    (∀ menu ∈ sampleMenuTree, ∀ m ∈ submenus menu, itemHidden sampleMenuTree (fun _ _ => false) m 0 = false) ∧
    MenuShowReachableUnder sampleMenuTree 0 (fun _ _ => false) ⟨0, 0, 0, fun _ => 0, fun _ => 0⟩ ∧
    CursorShown sampleMenuTree (fun _ _ => false) ⟨0, 0, 0, fun _ => 0, fun _ => 0⟩ := by
  have htree := sampleMenuTree_ok
  have h := sampleMenuTree_cursorOk
  have hs : MenuShowReachableUnder sampleMenuTree 0 (fun _ _ => false) ⟨0, 0, 0, fun _ => 0, fun _ => 0⟩ :=
    .start _ _ rfl
  exact ⟨htree, h.1, h.2.1, h.2.2, hs, menuShow_cursor_shown htree h.1 h.2.1 h.2.2 hs⟩

end Luma
