import RepairMining.Document.Tree
import RepairMining.Proofs.Json.Nesting
import RepairMining.Proofs.Syntax.Subtrees

namespace RepairMining

structure Span.Small (span : Span) : Prop where
  startLine : span.startLine < 4294967296
  startCol : span.startCol < 4294967296
  endLine : span.endLine < 4294967296
  endCol : span.endCol < 4294967296

def Attributes.Small (attributes : Attributes) : Prop :=
  ∀ span, attributes.span = some span → span.Small

namespace Tree

def SmallSpans (tree : Tree) : Prop := ∀ part ∈ tree.subtrees, part.attributes.Small

theorem smallSpans_node {attributes : Attributes} {children : List Tree} :
    (node attributes children).SmallSpans ↔
      attributes.Small ∧ ∀ child ∈ children, child.SmallSpans := by
  constructor
  · intro small
    exact ⟨small _ (self_mem_subtrees _), fun child member part below =>
      small part (mem_subtrees_node.mpr (.inr ⟨child, member, below⟩))⟩
  · rintro ⟨root, below⟩ part member
    rcases mem_subtrees_node.mp member with rfl | ⟨child, listed, inside⟩
    · exact root
    · exact below child listed part inside

/-- Number of nodes on the longest way down from the root. -/
def levels (tree : Tree) : Nat := tree.fold fun _ below => below.foldr max 0 + 1

theorem levels_node (attributes : Attributes) (children : List Tree) :
    (node attributes children).levels = (children.map levels).foldr max 0 + 1 := by
  rw [levels, fold_node]
  rfl

def tower (attributes : Attributes) : Nat → Tree
  | 0 => node attributes []
  | below + 1 => node attributes [tower attributes below]

theorem levels_tower (attributes : Attributes) (below : Nat) :
    (tower attributes below).levels = below + 1 := by
  induction below with
  | zero => rfl
  | succ below ih =>
    rw [tower, levels_node, List.map_singleton, ih, List.foldr_cons, List.foldr_nil, Nat.max_zero]

theorem size_tower (attributes : Attributes) (below : Nat) :
    (tower attributes below).size = below + 1 := by
  induction below with
  | zero => rfl
  | succ below ih => rw [tower, size, forestSize, forestSize, ih]

theorem smallSpans_tower {attributes : Attributes} (small : attributes.Small) (below : Nat) :
    (tower attributes below).SmallSpans := by
  induction below with
  | zero => exact smallSpans_node.mpr ⟨small, nofun⟩
  | succ below ih => exact smallSpans_node.mpr ⟨small, by simpa using ih⟩

end Tree

namespace Document

open Json

theorem span_gauges {written : Span} (small : written.Small) (room : Nat) :
    Gauges span (spanValue written) written room := by
  have filled (inner : Nat) : spanShape.fillMembers (.stream inner)
      (Value.toMembers [("start_line", .natural written.startLine),
        ("start_col", .natural written.startCol), ("end_line", .natural written.endLine),
        ("end_col", .natural written.endCol)]) ⟨none, none, none, none⟩ =
      .ok ⟨some written.startLine, some written.startCol, some written.endLine,
        some written.endCol⟩ := by
    have natural {n : Nat} (bound : n < 4294967296) :=
      Decode.nat32_restores bound (.stream inner) (Nat.zero_le inner)
    simp only [Value.toMembers]
    rw [Shape.fillMembers_cons _ rfl rfl (RecordField.fill_of (natural small.startLine)),
      Shape.fillMembers_cons _ rfl rfl (RecordField.fill_of (natural small.startCol)),
      Shape.fillMembers_cons _ rfl rfl (RecordField.fill_of (natural small.endLine)),
      Shape.fillMembers_cons _ rfl rfl (RecordField.fill_of (natural small.endCol))]
    rfl
  exact Shape.complete_gauges
    (fun inner _ => (filled inner).trans (confined_of_le (Nat.zero_le inner)).symm) rfl

def listed (children : List Tree) : Option (List Tree) :=
  match children with
  | [] => none
  | children => some children

theorem listed_cons (child : Tree) (children : List Tree) :
    listed (child :: children) = some (child :: children) := rfl

theorem eq_of_listed {children trees : List Tree} (some : listed children = some trees) :
    trees = children := by
  cases children with
  | nil => cases some
  | cons tree rest => exact (Option.some.inj some).symm

theorem nodeValue_eq (attributes : Attributes) (children : List Tree) :
    nodeValue attributes (children.map treeValue) =
      .object (attributeMembers attributes ++
        Value.memberOf "children" (fun trees => .array (trees.map treeValue))
          (listed children)) := by
  cases children <;> rfl

def nodeDraft (attributes : Attributes) (children : List Tree) : NodeDraft where
  kind := some attributes.kind
  label := attributes.label.map some
  role := attributes.role.map some
  span := attributes.span.map some
  children := listed children

theorem finishNode_nodeDraft (attributes : Attributes) (children : List Tree) :
    finishNode (nodeDraft attributes children) = .ok (.node attributes children) := by
  obtain ⟨kind, label, role, span⟩ := attributes
  cases label <;> cases role <;> cases span <;> cases children <;> rfl

theorem fillMembers_attributes {child : Decoder Tree} {attributes : Attributes} {room : Nat}
    (small : attributes.Small) (members : List (String × Value)) :
    (nodeShape child).fillMembers (.stream room)
        (Value.toMembers (attributeMembers attributes ++ members)) ⟨none, none, none, none, none⟩ =
      confined (Value.membersDepth (attributeMembers attributes)) room
        ((nodeShape child).fillMembers (.stream room) (Value.toMembers members)
          ⟨some attributes.kind, attributes.label.map some, attributes.role.map some,
            attributes.span.map some, none⟩) := by
  obtain ⟨kind, label, role, span⟩ := attributes
  have kinds (rest : List (String × Value)) :
      (nodeShape child).fillMembers (.stream room)
          (Value.toMembers (("kind", .text kind.name) :: rest)) ⟨none, none, none, none, none⟩ =
        confined 0 room ((nodeShape child).fillMembers (.stream room) (Value.toMembers rest)
          ⟨some kind, none, none, none, none⟩) :=
    Shape.fillMembers_gauged _ rfl rfl (RecordField.fill_gauged (Decode.named_gauges kind room))
  have labels (rest : List (String × Value)) :
      (nodeShape child).fillMembers (.stream room)
          (Value.toMembers (Value.memberOf "label" .text label ++ rest))
          ⟨some kind, none, none, none, none⟩ =
        confined (Value.membersDepth (Value.memberOf "label" .text label)) room
          ((nodeShape child).fillMembers (.stream room) (Value.toMembers rest)
            ⟨some kind, label.map some, none, none, none⟩) := by
    refine Shape.fillMembers_memberOf _ rfl (by rintro rfl; rfl) ?_
    rintro text rfl
    exact ⟨rfl, RecordField.fill_gauged
      (Decode.optional_gauges (Decode.string_gauges text room) nofun)⟩
  have roles (rest : List (String × Value)) :
      (nodeShape child).fillMembers (.stream room)
          (Value.toMembers (Value.memberOf "role" (fun role => .text role.name) role ++ rest))
          ⟨some kind, label.map some, none, none, none⟩ =
        confined (Value.membersDepth (Value.memberOf "role" (fun role => .text role.name) role))
          room ((nodeShape child).fillMembers (.stream room) (Value.toMembers rest)
            ⟨some kind, label.map some, role.map some, none, none⟩) := by
    refine Shape.fillMembers_memberOf _ rfl (by rintro rfl; rfl) ?_
    rintro part rfl
    exact ⟨rfl, RecordField.fill_gauged
      (Decode.optional_gauges (Decode.named_gauges part room) nofun)⟩
  have spans (rest : List (String × Value)) :
      (nodeShape child).fillMembers (.stream room)
          (Value.toMembers (Value.memberOf "span" spanValue span ++ rest))
          ⟨some kind, label.map some, role.map some, none, none⟩ =
        confined (Value.membersDepth (Value.memberOf "span" spanValue span)) room
          ((nodeShape child).fillMembers (.stream room) (Value.toMembers rest)
            ⟨some kind, label.map some, role.map some, span.map some, none⟩) := by
    refine Shape.fillMembers_memberOf _ rfl (by rintro rfl; rfl) ?_
    rintro written rfl
    exact ⟨rfl, RecordField.fill_gauged
      (Decode.optional_gauges (span_gauges (small written rfl) room) nofun)⟩
  rw [attributeMembers, List.cons_append, kinds, List.append_assoc, labels, List.append_assoc,
    roles, spans, confined_confined, confined_confined, confined_confined,
    Value.membersDepth, Value.membersDepth_append, Value.membersDepth_append, Nat.max_assoc,
    Nat.max_assoc]
  rfl

theorem node_gauges {child : Decoder Tree} {attributes : Attributes} {children : List Tree}
    {room : Nat} (small : attributes.Small)
    (below : ∀ inner, room = inner + 2 → ∀ tree ∈ children,
      Gauges child (treeValue tree) tree inner) :
    Gauges ((nodeShape child).complete ⟨none, none, none, none, none⟩ finishNode)
      (nodeValue attributes (children.map treeValue)) (.node attributes children) room := by
  rw [nodeValue_eq]
  refine Shape.complete_gauges (fun inner entered => ?_) (finishNode_nodeDraft attributes children)
  subst entered
  have list : (nodeShape child).fillMembers (.stream inner)
      (Value.toMembers (Value.memberOf "children" (fun trees => .array (trees.map treeValue))
        (listed children) ++ []))
      ⟨some attributes.kind, attributes.label.map some, attributes.role.map some,
        attributes.span.map some, none⟩ =
      confined (Value.membersDepth (Value.memberOf "children"
        (fun trees => .array (trees.map treeValue)) (listed children))) inner
        (.ok (nodeDraft attributes children)) := by
    refine Shape.fillMembers_memberOf _ rfl ?_ ?_
    · intro none
      rw [nodeDraft, none]
    · intro trees some
      obtain rfl := eq_of_listed some
      rw [nodeDraft, some]
      refine ⟨rfl, RecordField.fill_gauged (Decode.list_gauges fun deeper entered => ?_)⟩
      exact below deeper (by rw [entered])
  rw [List.append_nil] at list
  rw [fillMembers_attributes small, list, confined_confined, Value.membersDepth_append]

theorem treeValue_node (attributes : Attributes) (children : List Tree) :
    treeValue (.node attributes children) = nodeValue attributes (children.map treeValue) := by
  rw [treeValue, Tree.fold_node]
  rfl

theorem treeValue_depth (tree : Tree) :
    2 * tree.levels ≤ (treeValue tree).depth + 1 ∧ (treeValue tree).depth ≤ 2 * tree.levels := by
  induction tree using Tree.children_induction with
  | step attributes children ih =>
    have shallow : Value.membersDepth (attributeMembers attributes) ≤ 1 := by
      obtain ⟨kind, label, role, span⟩ := attributes
      cases label <;> cases role <;> cases span <;>
        first | exact Nat.zero_le 1 | exact Nat.le_refl 1
    have below : 2 * (children.map Tree.levels).foldr max 0 ≤
          Value.itemsDepth (children.map treeValue) + 1 ∧
        Value.itemsDepth (children.map treeValue) ≤ 2 * (children.map Tree.levels).foldr max 0 := by
      clear shallow
      -- On the children, of which the deepest decides both sides.
      induction children with
      | nil => decide
      | cons child children rest =>
        have first := ih child List.mem_cons_self
        have others := rest fun tree member => ih tree (List.mem_cons_of_mem child member)
        rw [List.map_cons, List.map_cons, List.foldr_cons, Value.itemsDepth]
        omega
    rw [treeValue_node, nodeValue_eq, Tree.levels_node, Value.depth, Value.membersDepth_append]
    cases children with
    | nil =>
      rw [listed, Value.memberOf, Value.membersDepth, List.map_nil, List.foldr_nil]
      omega
    | cons child children =>
      rw [listed_cons, Value.memberOf, Value.membersDepth, Value.membersDepth, Value.depth]
      omega

theorem treeWithin_gauges {written : Tree} (small : written.SmallSpans) {levels room : Nat}
    (bound : room ≤ 2 * levels) :
    Gauges (treeWithin levels) (treeValue written) written room := by
  -- On the tree: a level takes two from the room, and the decoder has one level less for the rest.
  induction written using Tree.children_induction generalizing levels room with
  | step attributes children ih =>
    obtain ⟨root, below⟩ := Tree.smallSpans_node.mp small
    rw [treeValue_node]
    cases levels with
    | zero =>
      obtain rfl := Nat.le_zero.mp bound
      exact (confined_of_lt (Nat.succ_pos _)).symm
    | succ levels =>
      refine node_gauges root fun inner entered tree member => ?_
      exact ih tree member (below tree member) (by omega)

theorem arena_gauges {written : Arena} (small : written.toTree.SmallSpans) {room : Nat}
    (bound : room ≤ 128) : Gauges arena (arenaValue written) written room := by
  have gauged : Gauges tree (treeValue written.toTree) written.toTree room :=
    treeWithin_gauges small bound
  rw [Gauges] at gauged ⊢
  rw [arena, arenaValue, gauged, confined_map, Arena.ofTree_toTree]

theorem memberOf_fits {α : Type} {name : String} {encode : α → Value} {place : Option α}
    (fits : ∀ x, place = some x → (encode x).Fits) :
    ∀ member ∈ Value.memberOf name encode place, member.2.Fits := by
  intro member present
  cases place with
  | none => cases present
  | some x =>
    obtain rfl := List.mem_singleton.mp present
    exact fits x rfl

theorem spanValue_fits {span : Span} (small : span.Small) : (spanValue span).Fits := by
  have wide {n : Nat} (bound : n < 4294967296) : n < Numeral.bound :=
    Nat.lt_trans bound (by decide)
  exact ⟨wide small.startLine, wide small.startCol, wide small.endLine, wide small.endCol, trivial⟩

theorem treeValue_fits {tree : Tree} (small : tree.SmallSpans) : (treeValue tree).Fits := by
  induction tree using Tree.children_induction with
  | step attributes children ih =>
    obtain ⟨root, below⟩ := Tree.smallSpans_node.mp small
    rw [treeValue_node, nodeValue_eq]
    apply Value.membersFit_iff.mpr
    simp only [attributeMembers, List.cons_append, List.append_assoc, List.forall_mem_cons,
      List.forall_mem_append]
    refine ⟨trivial, memberOf_fits fun _ _ => trivial, memberOf_fits fun _ _ => trivial,
      memberOf_fits fun span written => spanValue_fits (root span written),
      memberOf_fits fun trees some => Value.itemsFit_iff.mpr ?_⟩
    obtain rfl := eq_of_listed some
    rw [List.forall_mem_map]
    exact fun tree member => ih tree member (below tree member)

end Document

end RepairMining
