import Luma3DS.Spec.Menu

/-! The navigation invariant of `menuShow`. On a well-formed tree at most
`0x80` menus deep, every state the loop reaches, over every sequence of keys
and visibilities, keeps the parent menus a path from the root through `MENU`
items, at most `0x80` long, with every cursor on an item before `MENU_END`. So
no pass traps, reads or writes outside an array or takes a remainder by zero,
and `B` goes back to the parent with the cursor on the item that opened the
menu. -/

namespace Luma

def submenus (menu : Menu) : List MenuId := (menu.items.filter (·.actionType == .menu)).map (·.menu)

def childMenus (tree : List Menu) (m : MenuId) : List MenuId := (tree[m]?.map submenus).getD []

/-- Every chain of submenus from `m` opens at most `d` menus. -/
def menuDepthLe (tree : List Menu) : Nat → MenuId → Bool
  | 0, m => (childMenus tree m).isEmpty
  | d + 1, m => (childMenus tree m).all (menuDepthLe tree d)

def ItemsWellFormed (menu : Menu) : Prop := 0 < menuCountItems menu ∧ menuCountItems menu < menu.items.length

instance : DecidablePred ItemsWellFormed := fun _ => inferInstanceAs (Decidable (_ ∧ _))

/-- The trees `menuShow` is meant for: every menu well formed, every `MENU` item in the tree, at
most `0x80` deep. -/
structure MenuTreeOk (tree : List Menu) (root : MenuId) : Prop where
  root_lt : root < tree.length
  wellFormed : ∀ menu ∈ tree, ItemsWellFormed menu
  submenus_lt : ∀ menu ∈ tree, ∀ m ∈ submenus menu, m < tree.length
  depth : menuDepthLe tree 0x80 root = true

theorem getElem?_of_lt_menuCountItems {menu : Menu} {i : Nat} (h : i < menuCountItems menu) :
    ∃ item, menu.items[i]? = some item ∧ item.actionType ≠ .menuEnd := by
  have hp : menu.items.takeWhile (fun item => item.actionType != .menuEnd) <+: menu.items :=
    List.takeWhile_prefix _
  have h' : i < (menu.items.takeWhile fun item => item.actionType != .menuEnd).length := h
  refine ⟨(menu.items.takeWhile fun item => item.actionType != .menuEnd)[i], ?_, fun he => ?_⟩
  · rw [List.getElem?_eq_getElem (lt_of_lt_of_le h hp.length_le), ← hp.getElem h]
  · have := List.mem_takeWhile_imp (List.getElem_mem h)
    simp [he] at this

theorem mem_submenus {menu : Menu} {i : Nat} {item : MenuItem} (hi : menu.items[i]? = some item)
    (ht : item.actionType = .menu) : item.menu ∈ submenus menu :=
  List.mem_map.mpr ⟨item, List.mem_filter.mpr ⟨List.getElem?_mem hi, by simp [ht]⟩, rfl⟩

section

variable {tree : List Menu} {root : MenuId} (htree : MenuTreeOk tree root)
include htree

theorem MenuTreeOk.wellFormed_of {m : MenuId} {menu : Menu} (hm : tree[m]? = some menu) :
    ItemsWellFormed menu :=
  htree.wellFormed menu (List.getElem?_mem hm)

theorem MenuTreeOk.submenu {m : MenuId} {menu : Menu} {i : Nat} {item : MenuItem} (hm : tree[m]? = some menu)
    (hi : menu.items[i]? = some item) (ht : item.actionType = .menu) :
    ∃ menu', tree[item.menu]? = some menu' ∧ 0 < menuCountItems menu' := by
  have hlt := htree.submenus_lt menu (List.getElem?_mem hm) _ (mem_submenus hi ht)
  exact ⟨_, List.getElem?_eq_getElem hlt, (htree.wellFormed_of (List.getElem?_eq_getElem hlt)).1⟩

end

theorem menuDepthLe_submenu {tree : List Menu} {d : Nat} {m : MenuId} {menu : Menu} {i : Nat}
    {item : MenuItem} (hd : menuDepthLe tree d m = true) (hm : tree[m]? = some menu)
    (hi : menu.items[i]? = some item) (ht : item.actionType = .menu) :
    0 < d ∧ menuDepthLe tree (d - 1) item.menu = true := by
  have hc : item.menu ∈ childMenus tree m := by simpa [childMenus, hm] using mem_submenus hi ht
  cases d with
  | zero => simp [menuDepthLe, List.isEmpty_iff] at hd; simp [hd] at hc
  | succ d => exact ⟨d.succ_pos, (List.all_eq_true.mp hd) _ hc⟩

theorem menuAdvanceCursor_lt (pos : Nat) {numItems : Nat} (h : 0 < numItems) (displ : Int) :
    ∃ r, menuAdvanceCursor pos numItems displ = some r ∧ r < numItems :=
  ⟨_, if_neg (by omega), Nat.mod_lt _ h⟩

theorem menuMoveCursor_lt {menu : Menu} (h : 0 < menuCountItems menu) (visible : Nat → Bool)
    (selectedItem : Nat) (displ : Int) :
    ∃ r, menuMoveCursor menu visible selectedItem displ = some r ∧ r < menuCountItems menu := by
  obtain ⟨r, hr, hlt⟩ := menuAdvanceCursor_lt selectedItem h displ
  obtain ⟨item, hitem, -⟩ := getElem?_of_lt_menuCountItems hlt
  simp only [menuMoveCursor, hr, hitem, Option.bind_eq_bind, Option.some_bind]
  split
  · exact menuAdvanceCursor_lt r h displ
  · exact ⟨r, rfl, hlt⟩

namespace MenuShowState

variable (s : MenuShowState) (item : MenuItem)

@[simp] theorem openSubmenu_nbPreviousMenus : (s.openSubmenu item).nbPreviousMenus = s.nbPreviousMenus + 1 := rfl
@[simp] theorem openSubmenu_currentMenu : (s.openSubmenu item).currentMenu = item.menu := rfl
@[simp] theorem openSubmenu_selectedItem : (s.openSubmenu item).selectedItem = 0 := rfl
@[simp] theorem openSubmenu_previousMenus :
    (s.openSubmenu item).previousMenus = Function.update s.previousMenus s.nbPreviousMenus s.currentMenu := rfl
@[simp] theorem openSubmenu_previousSelectedItems :
    (s.openSubmenu item).previousSelectedItems =
      Function.update s.previousSelectedItems s.nbPreviousMenus s.selectedItem := rfl

@[simp] theorem backToParent_nbPreviousMenus : s.backToParent.nbPreviousMenus = s.nbPreviousMenus - 1 := rfl
@[simp] theorem backToParent_currentMenu :
    s.backToParent.currentMenu = s.previousMenus (s.nbPreviousMenus - 1) := rfl
@[simp] theorem backToParent_selectedItem :
    s.backToParent.selectedItem = s.previousSelectedItems (s.nbPreviousMenus - 1) := rfl
@[simp] theorem backToParent_previousMenus : s.backToParent.previousMenus = s.previousMenus := rfl
@[simp] theorem backToParent_previousSelectedItems :
    s.backToParent.previousSelectedItems = s.previousSelectedItems := rfl

end MenuShowState

def pathMenu (s : MenuShowState) (k : Nat) : MenuId :=
  if k < s.nbPreviousMenus then s.previousMenus k else s.currentMenu

theorem pathMenu_openSubmenu (s : MenuShowState) (item : MenuItem) {k : Nat} (hk : k ≤ s.nbPreviousMenus) :
    pathMenu (s.openSubmenu item) k = pathMenu s k := by
  simp only [pathMenu, MenuShowState.openSubmenu_nbPreviousMenus, MenuShowState.openSubmenu_previousMenus]
  rcases Nat.lt_or_eq_of_le hk with hk | rfl
  · simp [hk, Function.update_noteq (Nat.ne_of_lt hk), show k < s.nbPreviousMenus + 1 by omega]
  · simp

theorem pathMenu_openSubmenu_top (s : MenuShowState) (item : MenuItem) :
    pathMenu (s.openSubmenu item) (s.nbPreviousMenus + 1) = item.menu := by
  simp [pathMenu]

theorem pathMenu_backToParent (s : MenuShowState) {k : Nat} (h0 : 0 < s.nbPreviousMenus)
    (hk : k ≤ s.nbPreviousMenus - 1) : pathMenu s.backToParent k = pathMenu s k := by
  simp only [pathMenu, MenuShowState.backToParent_nbPreviousMenus, MenuShowState.backToParent_previousMenus,
    MenuShowState.backToParent_currentMenu]
  rcases Nat.lt_or_eq_of_le hk with hk | rfl
  · simp [hk, show k < s.nbPreviousMenus by omega]
  · simp [show s.nbPreviousMenus - 1 < s.nbPreviousMenus by omega]

/-- The navigation invariant: (a) at most `0x80` parents, (b) the first the root, (c) each saved
cursor on the item that opens the next menu, (d) the cursor before `MENU_END`. -/
structure NavInv (tree : List Menu) (root : MenuId) (s : MenuShowState) : Prop where
  nb_le : s.nbPreviousMenus ≤ 0x80
  root_eq : pathMenu s 0 = root
  link : ∀ k < s.nbPreviousMenus, ∃ menu item, tree[s.previousMenus k]? = some menu ∧
    s.previousSelectedItems k < menuCountItems menu ∧ menu.items[s.previousSelectedItems k]? = some item ∧
    item.actionType = .menu ∧ item.menu = pathMenu s (k + 1)
  cursor : ∃ menu, tree[s.currentMenu]? = some menu ∧ s.selectedItem < menuCountItems menu
  depth : ∀ k ≤ s.nbPreviousMenus, menuDepthLe tree (0x80 - k) (pathMenu s k) = true

section

variable {tree : List Menu} {root : MenuId} {s : MenuShowState}

theorem NavInv.openSubmenu (htree : MenuTreeOk tree root) (hinv : NavInv tree root s) {menu : Menu}
    {item : MenuItem} (hm : tree[s.currentMenu]? = some menu) (hsel : s.selectedItem < menuCountItems menu)
    (hi : menu.items[s.selectedItem]? = some item) (ht : item.actionType = .menu)
    (hnb : s.nbPreviousMenus < 0x80) : NavInv tree root (s.openSubmenu item) where
  nb_le := by simp only [MenuShowState.openSubmenu_nbPreviousMenus]; omega
  root_eq := by rw [pathMenu_openSubmenu s item (Nat.zero_le _), hinv.root_eq]
  link k hk := by
    simp only [MenuShowState.openSubmenu_nbPreviousMenus, MenuShowState.openSubmenu_previousMenus,
      MenuShowState.openSubmenu_previousSelectedItems] at hk ⊢
    rcases Nat.lt_or_eq_of_le (Nat.le_of_lt_succ hk) with hk | rfl
    · obtain ⟨menu', item', h⟩ := hinv.link k hk
      rw [pathMenu_openSubmenu s item (by omega : k + 1 ≤ _), Function.update_noteq (Nat.ne_of_lt hk),
        Function.update_noteq (Nat.ne_of_lt hk)]
      exact ⟨menu', item', h⟩
    · refine ⟨menu, item, ?_⟩
      simpa [hm, hsel, hi, ht] using (pathMenu_openSubmenu_top s item).symm
  cursor := by
    obtain ⟨menu', h⟩ := htree.submenu hm hi ht
    exact ⟨menu', h⟩
  depth k hk := by
    simp only [MenuShowState.openSubmenu_nbPreviousMenus] at hk
    rcases Nat.lt_or_eq_of_le hk with hk | rfl
    · rw [pathMenu_openSubmenu s item (by omega)]
      exact hinv.depth k (by omega)
    · have hcur : pathMenu s s.nbPreviousMenus = s.currentMenu := by simp [pathMenu]
      have := (menuDepthLe_submenu (hcur ▸ hinv.depth _ le_rfl) hm hi ht).2
      rw [pathMenu_openSubmenu_top]
      simpa [Nat.sub_add_eq] using this

theorem NavInv.backToParent (hinv : NavInv tree root s) (h0 : 0 < s.nbPreviousMenus) :
    NavInv tree root s.backToParent where
  nb_le := by simp only [MenuShowState.backToParent_nbPreviousMenus]; have := hinv.nb_le; omega
  root_eq := by rw [pathMenu_backToParent s h0 (Nat.zero_le _), hinv.root_eq]
  link k hk := by
    simp only [MenuShowState.backToParent_nbPreviousMenus, MenuShowState.backToParent_previousMenus,
      MenuShowState.backToParent_previousSelectedItems] at hk ⊢
    rw [pathMenu_backToParent s h0 (by omega)]
    exact hinv.link k (by omega)
  cursor := by
    obtain ⟨menu, item, hm, hsel, -⟩ := hinv.link _ (Nat.sub_lt h0 Nat.one_pos)
    exact ⟨menu, hm, hsel⟩
  depth k hk := by
    simp only [MenuShowState.backToParent_nbPreviousMenus] at hk
    rw [pathMenu_backToParent s h0 hk]
    exact hinv.depth k (by omega)

theorem NavInv.setCursor (hinv : NavInv tree root s) {menu : Menu} (hm : tree[s.currentMenu]? = some menu)
    {selectedItem : Nat} (hsel : selectedItem < menuCountItems menu) :
    NavInv tree root { s with selectedItem } :=
  ⟨hinv.nb_le, hinv.root_eq, hinv.link, ⟨menu, hm, hsel⟩, hinv.depth⟩

end

theorem NavInv.nb_lt_of_menu {tree : List Menu} {root : MenuId} {s : MenuShowState} (hinv : NavInv tree root s)
    {menu : Menu} {item : MenuItem} (hm : tree[s.currentMenu]? = some menu)
    (hi : menu.items[s.selectedItem]? = some item) (ht : item.actionType = .menu) : s.nbPreviousMenus < 0x80 := by
  have hcur : pathMenu s s.nbPreviousMenus = s.currentMenu := by simp [pathMenu]
  have hd := (menuDepthLe_submenu (hcur ▸ hinv.depth _ le_rfl) hm hi ht).1
  omega

theorem endOfPass_next {input : MenuInput} {s s' : MenuShowState} (h : endOfPass input s = .next s') : s' = s := by
  unfold endOfPass at h; split at h <;> cases h; rfl

theorem endOfPass_safe (input : MenuInput) (s : MenuShowState) :
    endOfPass input s ≠ .trap ∧ endOfPass input s ≠ .fault := by
  unfold endOfPass; split <;> simp

section

variable {tree : List Menu} {root : MenuId} {s : MenuShowState} (hinv : NavInv tree root s) (input : MenuInput)
include hinv

/-- Everything a pass can do from a state of the invariant. -/
theorem menuShowStep_cases :
    ∃ menu, tree[s.currentMenu]? = some menu ∧
      (menuShowStep tree input s = endOfPass input s ∨
        (∃ item, menu.items[s.selectedItem]? = some item ∧ item.actionType = .menu ∧
          s.nbPreviousMenus < 0x80 ∧ menuShowStep tree input s = endOfPass input (s.openSubmenu item)) ∨
        (0 < s.nbPreviousMenus ∧ menuShowStep tree input s = endOfPass input s.backToParent) ∨
        menuShowStep tree input s = .exit ∨
        ∃ displ r, (displ = 1 ∨ displ = -1) ∧ menuMoveCursor menu input.visible s.selectedItem displ = some r ∧
          r < menuCountItems menu ∧ menuShowStep tree input s = endOfPass input { s with selectedItem := r }) := by
  obtain ⟨menu, hm, hsel⟩ := hinv.cursor
  have hpos : 0 < menuCountItems menu := by omega
  refine ⟨menu, hm, ?_⟩
  unfold menuShowStep
  simp only [hm]
  by_cases hA : input.pressed &&& keyA ≠ 0
  · rw [if_pos hA]
    obtain ⟨item, hi, hne⟩ := getElem?_of_lt_menuCountItems hsel
    simp only [hi]
    cases ht : item.actionType with
    | menuEnd => exact absurd ht hne
    | method => exact .inl rfl
    | menu =>
      have hnb := hinv.nb_lt_of_menu hm hi ht
      exact .inr (.inl ⟨item, rfl, ht, hnb, by simp only [if_pos hnb]⟩)
  rw [if_neg hA]
  by_cases hB : input.pressed &&& keyB ≠ 0
  · rw [if_pos hB]
    by_cases h0 : s.nbPreviousMenus > 0
    · rw [if_pos h0, if_pos (by have := hinv.nb_le; omega)]
      exact .inr (.inr (.inl ⟨h0, rfl⟩))
    · rw [if_neg h0]
      exact .inr (.inr (.inr (.inl rfl)))
  rw [if_neg hB]
  by_cases hD : input.pressed &&& keyDown ≠ 0
  · rw [if_pos hD]
    obtain ⟨r, hr, hlt⟩ := menuMoveCursor_lt hpos input.visible s.selectedItem 1
    simp only [hr]
    exact .inr (.inr (.inr (.inr ⟨1, r, .inl rfl, hr, hlt, rfl⟩)))
  rw [if_neg hD]
  by_cases hU : input.pressed &&& keyUp ≠ 0
  · rw [if_pos hU]
    obtain ⟨r, hr, hlt⟩ := menuMoveCursor_lt hpos input.visible s.selectedItem (-1)
    simp only [hr]
    exact .inr (.inr (.inr (.inr ⟨-1, r, .inr rfl, hr, hlt, rfl⟩)))
  rw [if_neg hU]
  exact .inl rfl

theorem menuShowStep_safe : menuShowStep tree input s ≠ .trap ∧ menuShowStep tree input s ≠ .fault := by
  obtain ⟨menu, -, h | ⟨item, -, -, -, h⟩ | ⟨-, h⟩ | h | ⟨-, r, -, -, -, h⟩⟩ := menuShowStep_cases hinv input <;>
    rw [h] <;> first | exact endOfPass_safe _ _ | simp

theorem menuShowStep_navInv (htree : MenuTreeOk tree root) {s' : MenuShowState}
    (hs : menuShowStep tree input s = .next s') : NavInv tree root s' := by
  obtain ⟨menu, hm, h | ⟨item, hi, ht, hnb, h⟩ | ⟨h0, h⟩ | h | ⟨-, r, -, -, hr, h⟩⟩ :=
    menuShowStep_cases hinv input <;> rw [h] at hs
  · exact endOfPass_next hs ▸ hinv
  · obtain ⟨menu', hm', hsel⟩ := hinv.cursor
    obtain rfl : menu' = menu := Option.some_injective _ (hm'.symm.trans hm)
    exact endOfPass_next hs ▸ hinv.openSubmenu htree hm hsel hi ht hnb
  · exact endOfPass_next hs ▸ hinv.backToParent h0
  · cases hs
  · exact endOfPass_next hs ▸ hinv.setCursor hm hr

end

section

variable {tree : List Menu} {root : MenuId} (htree : MenuTreeOk tree root)
include htree

theorem menuShowStart_some (visible : Nat → Bool) :
    ∃ selectedItem, menuShowStart tree root visible = some selectedItem ∧
      ∃ menu, tree[root]? = some menu ∧ selectedItem < menuCountItems menu := by
  have hm := List.getElem?_eq_getElem htree.root_lt
  have hw := htree.wellFormed_of hm
  obtain ⟨item, hi, -⟩ := getElem?_of_lt_menuCountItems hw.1
  simp only [menuShowStart, hm, hi, Option.bind_eq_bind, Option.some_bind]
  split
  · obtain ⟨r, hr, hlt⟩ := menuAdvanceCursor_lt 0 hw.1 1
    exact ⟨r, hr, _, rfl, hlt⟩
  · exact ⟨0, rfl, _, rfl, hw.1⟩

theorem navInv_start {visible : Nat → Bool} {selectedItem : Nat} (previousMenus : Nat → MenuId)
    (previousSelectedItems : Nat → Nat) (h : menuShowStart tree root visible = some selectedItem) :
    NavInv tree root ⟨selectedItem, root, 0, previousMenus, previousSelectedItems⟩ := by
  obtain ⟨selectedItem', h', hcur⟩ := menuShowStart_some htree visible
  obtain rfl : selectedItem' = selectedItem := Option.some_injective _ (h'.symm.trans h)
  refine ⟨Nat.zero_le _, rfl, fun k hk => absurd hk (Nat.not_lt_zero k), hcur, fun k hk => ?_⟩
  obtain rfl : k = 0 := Nat.le_zero.mp hk
  exact htree.depth

theorem MenuShowReachable.navInv {s : MenuShowState} (h : MenuShowReachable tree root s) :
    NavInv tree root s := by
  induction h with
  | start previousMenus previousSelectedItems hs => exact navInv_start htree previousMenus previousSelectedItems hs
  | step _ hs ih => exact menuShowStep_navInv ih _ htree hs

end

theorem menuShowStep_back {tree : List Menu} {root : MenuId} {s : MenuShowState} (hinv : NavInv tree root s)
    (h0 : 0 < s.nbPreviousMenus) {input : MenuInput} (hA : input.pressed &&& keyA = 0)
    (hB : input.pressed &&& keyB ≠ 0) (hx : input.menuShouldExit = false) :
    menuShowStep tree input s = .next s.backToParent ∧
    ∃ menu item, tree[s.previousMenus (s.nbPreviousMenus - 1)]? = some menu ∧
      menu.items[s.previousSelectedItems (s.nbPreviousMenus - 1)]? = some item ∧
      item.actionType = .menu ∧ item.menu = s.currentMenu := by
  obtain ⟨menu, hm, -⟩ := hinv.cursor
  obtain ⟨pmenu, item, hpm, -, hi, ht, he⟩ := hinv.link _ (Nat.sub_lt h0 Nat.one_pos)
  refine ⟨?_, pmenu, item, hpm, hi, ht, by simpa [pathMenu, Nat.sub_add_cancel h0] using he⟩
  have hnb := hinv.nb_le
  simp only [menuShowStep, hm, if_neg (not_not.mpr hA), if_pos hB, if_pos h0,
    if_pos (show s.nbPreviousMenus - 1 < 0x80 by omega), endOfPass, hx, Bool.false_eq_true, ite_false]

/-- Every state `menuShow` reaches satisfies `NavInv`; no pass traps or faults, and `B` pops the
parent menu. -/
theorem menuShow_navigation (tree : List Menu) (root : MenuId) (htree : MenuTreeOk tree root) :
    (∀ visible, ∃ selectedItem, menuShowStart tree root visible = some selectedItem) ∧
    ∀ s, MenuShowReachable tree root s →
      NavInv tree root s ∧
      (∀ input, menuShowStep tree input s ≠ .trap ∧ menuShowStep tree input s ≠ .fault) ∧
      (0 < s.nbPreviousMenus → ∀ input : MenuInput, input.pressed &&& keyA = 0 →
        input.pressed &&& keyB ≠ 0 → input.menuShouldExit = false →
        menuShowStep tree input s = .next { s with
          nbPreviousMenus := s.nbPreviousMenus - 1
          currentMenu := s.previousMenus (s.nbPreviousMenus - 1)
          selectedItem := s.previousSelectedItems (s.nbPreviousMenus - 1) } ∧
        ∃ menu item, tree[s.previousMenus (s.nbPreviousMenus - 1)]? = some menu ∧
          menu.items[s.previousSelectedItems (s.nbPreviousMenus - 1)]? = some item ∧
          item.actionType = .menu ∧ item.menu = s.currentMenu) := by
  refine ⟨fun visible => (menuShowStart_some htree visible).imp fun _ h => h.1, fun s hs => ?_⟩
  have hinv := hs.navInv htree
  exact ⟨hinv, fun input => menuShowStep_safe hinv input,
    fun h0 _ hA hB hx => menuShowStep_back hinv h0 hA hB hx⟩

def sampleMenuTree : List Menu :=
  [⟨[⟨.menu, 1, false⟩, ⟨.method, 0, true⟩, ⟨.menuEnd, 0, false⟩]⟩, ⟨[⟨.method, 0, false⟩, ⟨.menuEnd, 0, false⟩]⟩]

theorem sampleMenuTree_ok : MenuTreeOk sampleMenuTree 0 := ⟨by decide, by decide, by decide, by decide⟩

theorem menuShow_navigation_sampleTree :
    MenuTreeOk sampleMenuTree 0 ∧
    ∀ s, MenuShowReachable sampleMenuTree 0 s → NavInv sampleMenuTree 0 s ∧
      ∀ input, menuShowStep sampleMenuTree input s ≠ .trap ∧ menuShowStep sampleMenuTree input s ≠ .fault := by
  have htree : MenuTreeOk sampleMenuTree 0 := ⟨by decide, by decide, by decide, by decide⟩
  obtain ⟨-, h⟩ := menuShow_navigation sampleMenuTree 0 htree
  exact ⟨htree, fun s hs => ⟨(h s hs).1, (h s hs).2.1⟩⟩

end Luma
