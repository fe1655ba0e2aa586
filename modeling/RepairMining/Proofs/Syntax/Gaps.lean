import RepairMining.Proofs.Syntax.Ancestors

namespace RepairMining

theorem insertIdx_eq_append {α : Type} {items : List α} {position : Nat} (item : α)
    (fits : position ≤ items.length) :
    items.insertIdx position item = items.take position ++ item :: items.drop position := by
  induction items generalizing position with
  | nil =>
    obtain rfl := Nat.le_zero.mp fits
    rfl
  | cons first items ih =>
    cases position with
    | zero => rfl
    | succ position =>
      rw [List.insertIdx_succ_cons, ih (Nat.le_of_succ_le_succ fits), List.take_succ_cons,
        List.drop_succ_cons, List.cons_append]

namespace Tree

mutual

def mapChildren (change : List Tree → List Tree) : Nat → Tree → Tree
  | 0, node attributes children => node attributes (change children)
  | number + 1, node attributes children =>
    node attributes (mapChildrenAll change number children)

def mapChildrenAll (change : List Tree → List Tree) : Nat → List Tree → List Tree
  | _, [] => []
  | number, tree :: trees =>
    if number < tree.size then mapChildren change number tree :: trees
    else tree :: mapChildrenAll change (number - tree.size) trees

end

def listing (tree : Tree) : List Attributes := tree.subtrees.map attributes

def listingAll (trees : List Tree) : List Attributes := (subtreesAll trees).map attributes

theorem length_listing (tree : Tree) : tree.listing.length = tree.size := by
  rw [listing, List.length_map, length_subtrees]

theorem length_listingAll (trees : List Tree) : (listingAll trees).length = forestSize trees := by
  rw [listingAll, List.length_map, length_subtreesAll]

theorem listing_node (attributes : Attributes) (children : List Tree) :
    (node attributes children).listing = attributes :: listingAll children := by
  rw [listing, subtrees, List.map_cons]
  rfl

theorem listingAll_cons (tree : Tree) (trees : List Tree) :
    listingAll (tree :: trees) = tree.listing ++ listingAll trees := by
  rw [listingAll, subtreesAll, List.map_append]
  rfl

theorem listingAll_singleton (tree : Tree) : listingAll [tree] = tree.listing := by
  rw [listingAll_cons, listingAll, subtreesAll, List.map_nil, List.append_nil]

theorem listingAll_append (trees others : List Tree) :
    listingAll (trees ++ others) = listingAll trees ++ listingAll others := by
  induction trees with
  | nil => rfl
  | cons tree trees ih => rw [List.cons_append, listingAll_cons, listingAll_cons, ih,
      List.append_assoc]

variable {change : List Tree → List Tree} {attributes : Attributes}

/-- Two lists of which the second has `new` in the place of `old`, with so many items in front. -/
def Swaps {α : Type} (old new : List α) (place : Nat) (first second : List α) : Prop :=
  ∃ front back, first = front ++ old ++ back ∧ second = front ++ new ++ back ∧
    front.length = place

theorem Swaps.within {α : Type} {old new first second : List α} {place : Nat}
    (swaps : Swaps old new place first second) (ahead behind : List α) :
    Swaps old new (ahead.length + place) (ahead ++ first ++ behind) (ahead ++ second ++ behind) := by
  obtain ⟨front, back, rfl, rfl, rfl⟩ := swaps
  refine ⟨ahead ++ front, back ++ behind, ?_, ?_, List.length_append⟩ <;>
    simp only [List.append_assoc]

mutual

/-- If the children of a node change in one stretch, the tree does so in one stretch of its
pre-order. -/
theorem swaps_mapChildren (change : List Tree → List Tree) (new : List Tree) {tree : Tree}
    {number : Nat} {left old right : List Tree}
    (found : tree.subtrees[number]? = some (node attributes (left ++ old ++ right)))
    (changed : change (left ++ old ++ right) = left ++ new ++ right) :
    Swaps (listingAll old) (listingAll new) (number + 1 + forestSize left) tree.listing
      (tree.mapChildren change number).listing := by
  match tree, number with
  | node outer _, 0 =>
    obtain ⟨rfl, rfl⟩ := Tree.node.inj (Option.some.inj found)
    rw [mapChildren, changed, listing_node, listing_node]
    refine ⟨outer :: listingAll left, listingAll right, ?_, ?_, ?_⟩
    · simp only [listingAll_append, List.cons_append]
    · simp only [listingAll_append, List.cons_append]
    · rw [List.length_cons, length_listingAll]
      omega
  | node outer children, number + 1 =>
    rw [subtrees, List.getElem?_cons_succ] at found
    rw [mapChildren, listing_node, listing_node]
    have below := (swaps_mapChildrenAll change new found changed).within [outer] []
    rw [List.append_nil, List.append_nil, List.length_singleton] at below
    rw [show number + 1 + 1 + forestSize left = 1 + (number + 1 + forestSize left) by omega]
    exact below

theorem swaps_mapChildrenAll (change : List Tree → List Tree) (new : List Tree) {trees : List Tree}
    {number : Nat} {left old right : List Tree}
    (found : (subtreesAll trees)[number]? = some (node attributes (left ++ old ++ right)))
    (changed : change (left ++ old ++ right) = left ++ new ++ right) :
    Swaps (listingAll old) (listingAll new) (number + 1 + forestSize left) (listingAll trees)
      (listingAll (mapChildrenAll change number trees)) := by
  match trees with
  | [] => cases found
  | tree :: trees =>
    rw [subtreesAll] at found
    rw [mapChildrenAll]
    split
    · rename_i early
      rw [List.getElem?_append_left (by rw [length_subtrees]; exact early)] at found
      have inside := (swaps_mapChildren change new found changed).within [] (listingAll trees)
      rw [List.length_nil, Nat.zero_add] at inside
      rw [listingAll_cons, listingAll_cons]
      exact inside
    · rename_i late
      rw [Nat.not_lt] at late
      rw [List.getElem?_append_right (by rw [length_subtrees]; exact late), length_subtrees] at found
      have behind := (swaps_mapChildrenAll change new found changed).within tree.listing []
      rw [List.append_nil, List.append_nil, length_listing] at behind
      rw [listingAll_cons, listingAll_cons]
      rw [show number + 1 + forestSize left =
        tree.size + (number - tree.size + 1 + forestSize left) by omega]
      exact behind

end

mutual

theorem subtrees_mapChildren {tree : Tree} {number : Nat} {children : List Tree}
    (found : tree.subtrees[number]? = some (node attributes children)) :
    (tree.mapChildren change number).subtrees[number]? =
      some (node attributes (change children)) := by
  match tree, number with
  | node _ _, 0 =>
    obtain ⟨rfl, rfl⟩ := Tree.node.inj (Option.some.inj found)
    rw [mapChildren, subtrees]
    rfl
  | node outer trees, number + 1 =>
    rw [subtrees, List.getElem?_cons_succ] at found
    rw [mapChildren, subtrees, List.getElem?_cons_succ]
    exact subtreesAll_mapChildrenAll found

theorem subtreesAll_mapChildrenAll {trees : List Tree} {number : Nat} {children : List Tree}
    (found : (subtreesAll trees)[number]? = some (node attributes children)) :
    (subtreesAll (mapChildrenAll change number trees))[number]? =
      some (node attributes (change children)) := by
  match trees with
  | [] => cases found
  | tree :: trees =>
    rw [subtreesAll] at found
    rw [mapChildrenAll]
    split
    · rename_i early
      rw [List.getElem?_append_left (by rw [length_subtrees]; exact early)] at found
      have inside : (tree.mapChildren change number).subtrees[number]? = _ :=
        subtrees_mapChildren found
      rw [subtreesAll, List.getElem?_append_left (List.getElem?_eq_some_iff.mp inside).1]
      exact inside
    · rename_i late
      rw [Nat.not_lt] at late
      rw [List.getElem?_append_right (by rw [length_subtrees]; exact late), length_subtrees] at found
      rw [subtreesAll, List.getElem?_append_right (by rw [length_subtrees]; exact late),
        length_subtrees]
      exact subtreesAll_mapChildrenAll found

end

theorem Swaps.length {α : Type} {old new first second : List α} {place : Nat}
    (swaps : Swaps old new place first second) :
    second.length + old.length = first.length + new.length ∧
      place + old.length ≤ first.length := by
  obtain ⟨front, back, rfl, rfl, rfl⟩ := swaps
  simp only [List.length_append]
  omega

theorem Swaps.getElem?_front {α : Type} {old new first second : List α} {place index : Nat}
    (swaps : Swaps old new place first second) (early : index < place) :
    second[index]? = first[index]? := by
  obtain ⟨front, back, rfl, rfl, rfl⟩ := swaps
  simp only [List.append_assoc, List.getElem?_append_left early]

theorem Swaps.getElem?_back {α : Type} {old new first second : List α} {place : Nat}
    (swaps : Swaps old new place first second) (index : Nat) :
    second[place + new.length + index]? = first[place + old.length + index]? := by
  obtain ⟨front, back, rfl, rfl, rfl⟩ := swaps
  rw [← List.length_append, ← List.length_append, List.getElem?_append_right (Nat.le_add_right _ _),
    List.getElem?_append_right (Nat.le_add_right _ _), Nat.add_sub_cancel_left,
    Nat.add_sub_cancel_left]

theorem roots_middle (start : Nat) (left : List Tree) (child : Tree) (right : List Tree) :
    (roots start (left ++ child :: right))[left.length]? = some (start + forestSize left) := by
  induction left generalizing start with
  | nil => rfl
  | cons tree left ih =>
    rw [List.cons_append, roots, List.length_cons, List.getElem?_cons_succ, ih, forestSize,
      Nat.add_assoc]

end Tree

namespace Arena

variable {arena : Arena} {above : Option Nat} {start : Nat} {tree : Tree}

theorem HoldsAll.middle {parent : Nat} {left right : List Tree} {child : Tree}
    (holds : arena.HoldsAll parent start (left ++ child :: right)) :
    arena.Holds (some parent) (start + Tree.forestSize left) child := by
  induction left generalizing start with
  | nil => exact holds.head
  | cons tree left ih =>
    rw [Tree.forestSize, ← Nat.add_assoc]
    exact ih holds.tail

def attributes? (arena : Arena) (node : Nat) : Option Attributes :=
  (arena.entry? node).map (·.attributes)

theorem attributes?_ofTree (tree : Tree) (node : Nat) :
    (ofTree tree).attributes? node = tree.listing[node]? := by
  rw [attributes?, attributes_ofTree, Tree.listing, List.getElem?_map]

theorem Holds.entry (holds : arena.Holds above start tree) :
    ∃ entry, arena.entry? start = some entry ∧ entry.attributes = tree.attributes ∧
      entry.parent = above ∧ entry.stop = start + tree.size := by
  cases tree with
  | node attributes children =>
    refine ⟨_, holds.root, rfl, rfl, ?_⟩
    dsimp only
    rw [Tree.size]
    omega

theorem Holds.kind? (holds : arena.Holds above start tree) :
    arena.kind? start = some tree.attributes.kind := by
  obtain ⟨entry, present, same, _⟩ := holds.entry
  rw [Arena.kind?, present, Option.map_some, same]

theorem Holds.role? (holds : arena.Holds above start tree) :
    arena.role? start = tree.attributes.role := by
  obtain ⟨entry, present, same, _⟩ := holds.entry
  rw [Arena.role?, present, Option.bind_some, same]

theorem Holds.parent? (holds : arena.Holds above start tree) : arena.parent? start = above := by
  obtain ⟨entry, present, _, same, _⟩ := holds.entry
  rw [Arena.parent?, present, Option.bind_some, same]

theorem Holds.children (holds : arena.Holds above start tree) :
    arena.children start = Tree.roots (start + 1) tree.children := by
  cases tree with
  | node attributes children =>
    rw [Arena.children, holds.root]
    rfl

theorem Holds.isStatement (holds : arena.Holds above start tree) :
    arena.isStatement start = tree.attributes.kind.isStatement := by
  rw [Arena.isStatement, holds.kind?, Option.any_some]

theorem Holds.mem_chain_iff {node : Nat} (holds : arena.Holds above start tree) :
    start ∈ arena.chain node ↔ start ≤ node ∧ node < start + tree.size := by
  obtain ⟨entry, present, _, _, wide⟩ := holds.entry
  constructor
  · intro member
    obtain ⟨other, there, first, last⟩ := inside_of_mem_chain member
    rw [present] at there
    obtain rfl := Option.some.inj there
    exact ⟨first, wide ▸ last⟩
  · rintro ⟨first, last⟩
    exact mem_chain_of_inside present first (wide ▸ last)

end Arena

/-- A gap among the children of a node: in front of the child at the position, or behind the last
one. -/
structure Gap where
  tree : Tree
  parent : Nat
  around : Tree
  position : Nat
  found : tree.subtrees[parent]? = some around
  fits : position ≤ around.children.length

namespace Gap

variable (gap : Gap) (added : Tree)

def place : Nat := gap.parent + 1 + Tree.forestSize (gap.around.children.take gap.position)

def insert : Tree :=
  gap.tree.mapChildren (fun children => children.insertIdx gap.position added) gap.parent

def replace : Tree :=
  gap.tree.mapChildren (fun children => children.set gap.position added) gap.parent

/-- The number that a node gets when so many nodes are put into the gap. -/
def image (width node : Nat) : Nat := if node < gap.place then node else node + width

theorem found_node : gap.tree.subtrees[gap.parent]? =
    some (.node gap.around.attributes gap.around.children) := by
  rw [gap.found]
  cases gap.around
  rfl

theorem swaps_insert :
    Tree.Swaps [] added.listing gap.place gap.tree.listing (gap.insert added).listing := by
  have split := List.take_append_drop gap.position gap.around.children
  have found := gap.found_node
  rw [← split, ← List.append_nil (List.take _ _)] at found
  have swaps := Tree.swaps_mapChildren (fun children => children.insertIdx gap.position added)
    [added] found (by
      rw [List.append_nil, split, insertIdx_eq_append added gap.fits, List.append_assoc]
      rfl)
  rwa [Tree.listingAll_singleton] at swaps

theorem swaps_replace {child : Tree} (there : gap.around.children[gap.position]? = some child) :
    Tree.Swaps child.listing added.listing gap.place gap.tree.listing
      (gap.replace added).listing := by
  obtain ⟨inside, same⟩ := List.getElem?_eq_some_iff.mp there
  have split : gap.around.children.take gap.position ++ [child] ++
      gap.around.children.drop (gap.position + 1) = gap.around.children := by
    rw [← same, List.append_assoc, List.singleton_append, ← List.drop_eq_getElem_cons inside,
      List.take_append_drop]
  have found := gap.found_node
  rw [← split] at found
  have swaps := Tree.swaps_mapChildren (fun children => children.set gap.position added)
    [added] found (by
      rw [split, List.set_eq_take_append_cons_drop, if_pos inside, List.append_assoc]
      rfl)
  rwa [Tree.listingAll_singleton, Tree.listingAll_singleton] at swaps

theorem size_insert : (gap.insert added).size = gap.tree.size + added.size := by
  have lengths := (gap.swaps_insert added).length.1
  simp only [Tree.length_listing, List.length_nil] at lengths
  exact lengths

theorem place_le : gap.place ≤ gap.tree.size := by
  have lengths := (gap.swaps_insert (.node ⟨.empty, none, none, none⟩ [])).length.2
  rwa [Tree.length_listing] at lengths

theorem attributes?_image (node : Nat) :
    (Arena.ofTree (gap.insert added)).attributes? (gap.image added.size node) =
      (Arena.ofTree gap.tree).attributes? node := by
  have swaps := gap.swaps_insert added
  rw [Arena.attributes?_ofTree, Arena.attributes?_ofTree, image]
  split
  · rename_i early
    exact swaps.getElem?_front early
  · rename_i late
    have moved := swaps.getElem?_back (node - gap.place)
    rw [Tree.length_listing, List.length_nil] at moved
    rw [show node + added.size = gap.place + added.size + (node - gap.place) by omega, moved]
    congr 1
    omega

theorem image_parent (width : Nat) : gap.image width gap.parent = gap.parent := by
  rw [image, if_pos]
  rw [place]
  omega

theorem exists_holds_parent {left right : List Tree} (change : List Tree → List Tree)
    (changed : change gap.around.children = left ++ added :: right) :
    ∃ above, (Arena.ofTree (gap.tree.mapChildren change gap.parent)).Holds above gap.parent
      (.node gap.around.attributes (left ++ added :: right)) := by
  rw [← changed]
  exact Arena.holds_ofTree (Tree.subtrees_mapChildren gap.found_node)

theorem exists_holds_insert :
    ∃ above, (Arena.ofTree (gap.insert added)).Holds above gap.parent
      (.node gap.around.attributes (gap.around.children.take gap.position ++
        added :: gap.around.children.drop gap.position)) :=
  gap.exists_holds_parent added (fun children => children.insertIdx gap.position added)
    (insertIdx_eq_append added gap.fits)

theorem holds_insert :
    (Arena.ofTree (gap.insert added)).Holds (some gap.parent) gap.place added := by
  obtain ⟨above, holds⟩ := gap.exists_holds_insert added
  exact holds.below.middle

theorem holds_replace {child : Tree} (there : gap.around.children[gap.position]? = some child) :
    (Arena.ofTree (gap.replace added)).Holds (some gap.parent) gap.place added := by
  have inside := (List.getElem?_eq_some_iff.mp there).1
  obtain ⟨above, holds⟩ := gap.exists_holds_parent added
    (fun children => children.set gap.position added)
    (List.set_eq_take_append_cons_drop.trans (if_pos inside))
  exact holds.below.middle

theorem children_insert :
    ((Arena.ofTree (gap.insert added)).children gap.parent)[gap.position]? = some gap.place := by
  obtain ⟨above, holds⟩ := gap.exists_holds_insert added
  have listed := Tree.roots_middle (gap.parent + 1) (gap.around.children.take gap.position) added
    (gap.around.children.drop gap.position)
  rw [List.length_take_of_le gap.fits] at listed
  rw [holds.children]
  exact listed

end Gap

end RepairMining
