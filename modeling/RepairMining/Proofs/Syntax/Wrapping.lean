import RepairMining.Proofs.Syntax.Gaps

namespace RepairMining

theorem Arena.part?_of_pair {arena : Arena} {node first second : Nat}
    (listed : arena.children node = [first, second]) (role : Role) :
    arena.part? node role = if arena.role? first = some role then some first
      else if arena.role? second = some role then some second else none := by
  rw [part?, listed, List.find?_cons, List.find?_cons, List.find?_nil]
  cases here : arena.role? first == some role <;> cases there : arena.role? second == some role <;>
    simp_all

theorem getElem?_middle {α : Type} (front items back : List α) {index : Nat}
    (inside : index < items.length) :
    (front ++ items ++ back)[front.length + index]? = items[index]? := by
  rw [List.append_assoc, List.getElem?_append_right (Nat.le_add_right _ _), Nat.add_sub_cancel_left,
    List.getElem?_append_left inside]

theorem Arena.Holds.unwrapBlock {arena : Arena} {above : Option Nat} {start : Nat} {tree : Tree}
    (holds : arena.Holds above start tree)
    (plain : tree.attributes.kind = .block → tree.children.length ≠ 1) :
    arena.unwrapBlock start = start := by
  rw [Arena.unwrapBlock, holds.children]
  match listed : tree.children with
  | [] => rfl
  | [only] =>
    have other : ¬ arena.hasKind start .block = true := by
      intro block
      have kind := Arena.hasKind_iff.mp block
      rw [holds.kind?] at kind
      exact plain (Option.some.inj kind) (by rw [listed]; rfl)
    exact if_neg other
  | first :: second :: others => rfl

/-- A statement among the children of a node, and an if-statement without an else-branch in its
place. The if-statement consists of a guard and a branch, which is the statement or a block with
nothing else in it. The statement may look different there, but for its kind. -/
structure Wrapping extends Gap where
  stmt : Tree
  child : around.children[position]? = some stmt
  statement : stmt.attributes.kind.isStatement = true
  plain : stmt.attributes.kind = .block → stmt.children.length ≠ 1
  outer : Attributes
  isIf : outer.kind = .ifElse
  guard : Tree
  condition : guard.attributes.role = some .condition
  inner : Attributes
  sameKind : inner.kind = stmt.attributes.kind
  block : Option Attributes
  isBlock : ∀ attributes ∈ block, attributes.kind = .block
  branches : (block.getD inner).role = some .thenBranch
  guardFirst : Bool

namespace Wrapping

variable (wrapping : Wrapping)

def moved : Tree := .node wrapping.inner wrapping.stmt.children

def branch : Tree :=
  match wrapping.block with
  | none => wrapping.moved
  | some attributes => .node attributes [wrapping.moved]

def front : List Tree := if wrapping.guardFirst then [wrapping.guard] else []

def back : List Tree := if wrapping.guardFirst then [] else [wrapping.guard]

def wrapper : Tree := .node wrapping.outer (wrapping.front ++ wrapping.branch :: wrapping.back)

def wrapped : Tree := wrapping.replace wrapping.wrapper

def braceCount : Nat := if wrapping.block.isSome then 1 else 0

def branchPlace : Nat := wrapping.place + 1 + Tree.forestSize wrapping.front

def guardPlace : Nat :=
  if wrapping.guardFirst then wrapping.place + 1 else wrapping.branchPlace + wrapping.branch.size

def lead : Nat := 1 + Tree.forestSize wrapping.front + wrapping.braceCount

def rest : Nat := Tree.forestSize wrapping.back

def image (node : Nat) : Nat :=
  if node < wrapping.place then node
  else if node < wrapping.place + wrapping.stmt.size then node + wrapping.lead
  else node + wrapping.lead + wrapping.rest

theorem size_moved : wrapping.moved.size = wrapping.stmt.size := by
  rw [moved]
  cases wrapping.stmt
  rfl

theorem size_branch : wrapping.branch.size = wrapping.stmt.size + wrapping.braceCount := by
  rw [branch, braceCount]
  cases wrapping.block with
  | none => exact wrapping.size_moved
  | some attributes =>
    rw [← wrapping.size_moved]
    rfl

theorem size_wrapper :
    wrapping.wrapper.size = wrapping.lead + wrapping.stmt.size + wrapping.rest := by
  rw [wrapper, Tree.size, Tree.forestSize_append, Tree.forestSize, size_branch, lead, rest]
  omega

theorem image_place : wrapping.image wrapping.place = wrapping.place + wrapping.lead := by
  have positive := wrapping.stmt.size_pos
  rw [image, if_neg (Nat.lt_irrefl _), if_pos (by omega)]

theorem holds_wrapper : (Arena.ofTree wrapping.wrapped).Holds (some wrapping.parent) wrapping.place
    wrapping.wrapper :=
  wrapping.holds_replace _ wrapping.child

theorem holds_branch : (Arena.ofTree wrapping.wrapped).Holds (some wrapping.place)
    wrapping.branchPlace wrapping.branch :=
  wrapping.holds_wrapper.below.middle

theorem holds_moved : ∃ above, (Arena.ofTree wrapping.wrapped).Holds above
    (wrapping.place + wrapping.lead) wrapping.moved := by
  have holds := wrapping.holds_branch
  rw [lead, braceCount, ← Nat.add_assoc, ← Nat.add_assoc, ← branchPlace]
  rw [branch] at holds
  cases unbraced : wrapping.block with
  | none =>
    rw [unbraced] at holds
    exact ⟨_, holds⟩
  | some attributes =>
    rw [unbraced] at holds
    exact ⟨_, holds.below.head⟩

theorem holds_guard : (Arena.ofTree wrapping.wrapped).Holds (some wrapping.place)
    wrapping.guardPlace wrapping.guard := by
  have holds := wrapping.holds_wrapper.below
  rw [guardPlace]
  rw [front, back] at holds
  cases first : wrapping.guardFirst with
  | true =>
    rw [first] at holds
    exact holds.head
  | false =>
    rw [first] at holds
    rw [branchPlace, front, first]
    exact holds.tail.head

theorem size_wrapped :
    wrapping.wrapped.size = wrapping.tree.size + wrapping.lead + wrapping.rest := by
  have lengths := (wrapping.swaps_replace wrapping.wrapper wrapping.child).length.1
  simp only [Tree.length_listing, size_wrapper] at lengths
  rw [wrapped]
  omega

theorem children_place :
    (Arena.ofTree wrapping.wrapped).children wrapping.place =
      if wrapping.guardFirst then [wrapping.guardPlace, wrapping.branchPlace]
      else [wrapping.branchPlace, wrapping.guardPlace] := by
  rw [wrapping.holds_wrapper.children, wrapper, guardPlace, branchPlace, front, back]
  cases wrapping.guardFirst <;> rfl

theorem role?_branchPlace :
    (Arena.ofTree wrapping.wrapped).role? wrapping.branchPlace = some .thenBranch := by
  rw [wrapping.holds_branch.role?, ← wrapping.branches, branch]
  cases wrapping.block <;> rfl

theorem role?_guardPlace :
    (Arena.ofTree wrapping.wrapped).role? wrapping.guardPlace = some .condition :=
  wrapping.holds_guard.role?.trans wrapping.condition

theorem part?_place (role : Role) :
    (Arena.ofTree wrapping.wrapped).part? wrapping.place role =
      if role = .condition then some wrapping.guardPlace
      else if role = .thenBranch then some wrapping.branchPlace else none := by
  have listed := wrapping.children_place
  have guarded := wrapping.role?_guardPlace
  have branched := wrapping.role?_branchPlace
  cases first : wrapping.guardFirst with
  | true =>
    rw [first] at listed
    rw [Arena.part?_of_pair listed, guarded, branched]
    cases role <;> rfl
  | false =>
    rw [first] at listed
    rw [Arena.part?_of_pair listed, guarded, branched]
    cases role <;> rfl

theorem unwrapBlock_branchPlace :
    (Arena.ofTree wrapping.wrapped).unwrapBlock wrapping.branchPlace =
      wrapping.place + wrapping.lead := by
  have holds := wrapping.holds_branch
  rw [lead, braceCount, ← Nat.add_assoc, ← Nat.add_assoc, ← branchPlace]
  cases braces : wrapping.block with
  | none =>
    have same : wrapping.branch = wrapping.moved := by rw [branch, braces]
    rw [same] at holds
    apply holds.unwrapBlock
    intro kind
    exact wrapping.plain (wrapping.sameKind.symm.trans kind)
  | some attributes =>
    have same : wrapping.branch = .node attributes [wrapping.moved] := by rw [branch, braces]
    rw [same] at holds
    have block : (Arena.ofTree wrapping.wrapped).hasKind wrapping.branchPlace .block = true := by
      rw [Arena.hasKind_iff, holds.kind?, ← wrapping.isBlock attributes braces]
      rfl
    rw [Arena.unwrapBlock, holds.children]
    exact if_pos block

theorem isStatement_place :
    (Arena.ofTree wrapping.wrapped).isStatement wrapping.place = true := by
  rw [wrapping.holds_wrapper.isStatement]
  exact congrArg NodeKind.isStatement wrapping.isIf

theorem isStatement_image :
    (Arena.ofTree wrapping.wrapped).isStatement (wrapping.image wrapping.place) = true := by
  obtain ⟨above, holds⟩ := wrapping.holds_moved
  rw [wrapping.image_place, holds.isStatement, ← wrapping.statement]
  exact congrArg NodeKind.isStatement wrapping.sameKind

theorem place_lt : wrapping.place < wrapping.tree.size := by
  have fits := (wrapping.swaps_replace wrapping.wrapper wrapping.child).length.2
  have positive := wrapping.stmt.size_pos
  rw [Tree.length_listing, Tree.length_listing] at fits
  omega

theorem exists_image_iff {node : Nat}
    (inside : (Arena.ofTree wrapping.wrapped).contains node = true) :
    (∃ origin < wrapping.tree.size, node = wrapping.image origin) ↔
      (wrapping.place ∈ (Arena.ofTree wrapping.wrapped).chain node →
        wrapping.place + wrapping.lead ∈ (Arena.ofTree wrapping.wrapped).chain node) := by
  obtain ⟨above, holds⟩ := wrapping.holds_moved
  rw [Arena.contains_iff, Arena.size_ofTree, size_wrapped] at inside
  rw [wrapping.holds_wrapper.mem_chain_iff, holds.mem_chain_iff, size_wrapper, size_moved]
  have fits := (wrapping.swaps_replace wrapping.wrapper wrapping.child).length.2
  rw [Tree.length_listing, Tree.length_listing] at fits
  constructor
  · rintro ⟨origin, _, rfl⟩
    rw [image]
    split
    · omega
    · split <;> omega
  · intro outside
    by_cases early : node < wrapping.place
    · exact ⟨node, by omega, by rw [image, if_pos early]⟩
    · by_cases late : node < wrapping.place + (wrapping.lead + wrapping.stmt.size + wrapping.rest)
      · refine ⟨node - wrapping.lead, by omega, ?_⟩
        rw [image, if_neg (by omega), if_pos (by omega)]
        omega
      · refine ⟨node - wrapping.lead - wrapping.rest, by omega, ?_⟩
        rw [image, if_neg (by omega), if_neg (by omega)]
        omega

theorem lead_pos : 0 < wrapping.lead := by
  rw [lead]
  omega

theorem piece_wrapped :
    (Arena.ofTree wrapping.wrapped).Piece
      (fun node => ¬ ∃ origin < wrapping.tree.size, node = wrapping.image origin)
      wrapping.parent wrapping.place := by
  apply Arena.piece_of_chain
    (fun node => wrapping.place + wrapping.lead ∈ (Arena.ofTree wrapping.wrapped).chain node)
    wrapping.holds_wrapper.parent?
  · intro above
    have lower := Arena.le_of_mem_chain above
    have positive := wrapping.lead_pos
    omega
  · intro node upper known above
    exact (Arena.mem_chain_iff known).mpr (.inr above)
  · intro node inside
    rw [wrapping.exists_image_iff inside, Classical.not_imp]

theorem exists_listing : ∃ ahead behind, ahead.length = wrapping.lead ∧
    wrapping.wrapper.listing = ahead ++ wrapping.moved.listing ++ behind := by
  have listed : wrapping.wrapper.listing = wrapping.outer :: (Tree.listingAll wrapping.front ++
      (wrapping.branch.listing ++ Tree.listingAll wrapping.back)) := by
    rw [wrapper, Tree.listing_node, Tree.listingAll_append, Tree.listingAll_cons]
  have braced : ∃ block, block.length = wrapping.braceCount ∧
      wrapping.branch.listing = block ++ wrapping.moved.listing := by
    rw [branch, braceCount]
    cases wrapping.block with
    | none => exact ⟨[], rfl, rfl⟩
    | some attributes =>
      exact ⟨[attributes], rfl, by rw [Tree.listing_node, Tree.listingAll_singleton]; rfl⟩
  obtain ⟨block, width, branched⟩ := braced
  refine ⟨wrapping.outer :: (Tree.listingAll wrapping.front ++ block),
    Tree.listingAll wrapping.back, ?_, ?_⟩
  · rw [List.length_cons, List.length_append, Tree.length_listingAll, width, lead]
    omega
  · rw [listed, branched]
    simp only [List.cons_append, List.append_assoc]

theorem listing_below {offset : Nat} (below : 0 < offset) (inside : offset < wrapping.stmt.size) :
    wrapping.wrapped.listing[wrapping.place + offset + wrapping.lead]? =
      wrapping.tree.listing[wrapping.place + offset]? := by
  obtain ⟨front, back, before, after, place⟩ :=
    wrapping.swaps_replace wrapping.wrapper wrapping.child
  obtain ⟨ahead, behind, lead, wrapper⟩ := wrapping.exists_listing
  have old := Tree.length_listing wrapping.stmt
  have middle := Tree.length_listing wrapping.moved
  have new := Tree.length_listing wrapping.wrapper
  rw [size_moved] at middle
  rw [size_wrapper] at new
  rw [wrapped, before, after, ← place, ← lead, Nat.add_assoc, Nat.add_comm offset,
    getElem?_middle _ _ _ (by omega), getElem?_middle _ _ _ (by omega), wrapper,
    getElem?_middle _ _ _ (by omega), moved]
  -- The two listings differ in the first entry only.
  obtain ⟨next, rfl⟩ := Nat.exists_eq_succ_of_ne_zero (Nat.ne_of_gt below)
  cases wrapping.stmt
  rw [Tree.listing_node, Tree.listing_node]
  rfl

theorem attributes?_image {node : Nat} (other : node ≠ wrapping.place) :
    (Arena.ofTree wrapping.wrapped).attributes? (wrapping.image node) =
      (Arena.ofTree wrapping.tree).attributes? node := by
  have swaps := wrapping.swaps_replace wrapping.wrapper wrapping.child
  rw [Arena.attributes?_ofTree, Arena.attributes?_ofTree, image]
  split
  · rename_i early
    exact swaps.getElem?_front early
  · split
    · rename_i inside
      obtain ⟨offset, rfl⟩ := Nat.exists_eq_add_of_le (show wrapping.place ≤ node by omega)
      exact wrapping.listing_below (by omega) (by omega)
    · have behind := swaps.getElem?_back (node - (wrapping.place + wrapping.stmt.size))
      rw [Tree.length_listing, Tree.length_listing, size_wrapper] at behind
      rw [show node + wrapping.lead + wrapping.rest =
        wrapping.place + (wrapping.lead + wrapping.stmt.size + wrapping.rest) +
          (node - (wrapping.place + wrapping.stmt.size)) by omega, wrapped, behind]
      congr 1
      omega

end Wrapping

end RepairMining
