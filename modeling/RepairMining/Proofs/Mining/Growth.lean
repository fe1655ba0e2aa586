import RepairMining.Proofs.Mining.Deletions
import RepairMining.Proofs.Mining.Insertions
import RepairMining.Proofs.Syntax.Gaps

namespace RepairMining

theorem eq_of_only_member {α : Type} {items : List α} {only : α} {there : Prop} [Decidable there]
    (once : items.Nodup) (member : ∀ item, item ∈ items ↔ item = only ∧ there) :
    items = if there then [only] else [] := by
  split
  · rename_i here
    apply List.perm_singleton.mp
    apply (List.perm_ext_iff_of_nodup once (List.nodup_singleton only)).mpr
    intro item
    rw [member, List.mem_singleton, and_iff_left here]
  · rename_i missing
    apply List.eq_nil_iff_forall_not_mem.mpr
    intro item listed
    exact missing ((member item).mp listed).2

namespace Diff

variable {diff : Diff} {stmt parent root : Nat}

/-- The old tree becomes the new one, and each of its nodes the one that is its image. -/
structure Extends (diff : Diff) (old new : Tree) (image : Nat → Nat) : Prop where
  before : diff.before = .ofTree old
  after : diff.after = .ofTree new
  pairs : ∀ node counterpart, (node, counterpart) ∈ diff.correspondence.pairs ↔
    node < old.size ∧ counterpart = image node

structure Reverts (diff : Diff) (old new : Tree) (image : Nat → Nat) : Prop where
  before : diff.before = .ofTree new
  after : diff.after = .ofTree old
  pairs : ∀ node counterpart, (counterpart, node) ∈ diff.correspondence.pairs ↔
    node < old.size ∧ counterpart = image node

theorem Extends.of_pairs {old new : Tree} {image : Nat → Nat} (before : diff.before = .ofTree old)
    (after : diff.after = .ofTree new)
    (listed : diff.correspondence.pairs =
      (List.range old.size).map fun node => (node, image node)) :
    diff.Extends old new image where
  before := before
  after := after
  pairs := by
    intro node counterpart
    simp only [listed, List.mem_map, List.mem_range, Prod.mk.injEq]
    grind

theorem Reverts.of_pairs {old new : Tree} {image : Nat → Nat} (before : diff.before = .ofTree new)
    (after : diff.after = .ofTree old)
    (listed : diff.correspondence.pairs =
      (List.range old.size).map fun node => (image node, node)) :
    diff.Reverts old new image where
  before := before
  after := after
  pairs := by
    intro node counterpart
    simp only [listed, List.mem_map, List.mem_range, Prod.mk.injEq]
    grind

theorem inserts_iff_root (piece : diff.after.Piece (fun node => ¬ diff.Inherited node) parent root) :
    diff.Inserts stmt ↔ stmt = root ∧ diff.after.isStatement root = true := by
  constructor
  · intro inserts
    obtain ⟨upper, known, old⟩ := inserts.attached
    obtain rfl := piece.eq_root inserts.fresh known (not_not_intro old)
    exact ⟨rfl, inserts.statement⟩
  · rintro ⟨rfl, statement⟩
    exact ⟨statement, piece.top, parent, piece.known, not_not.mp piece.outside⟩

theorem deletes_iff_root
    (piece : diff.before.Piece (fun node => ¬ diff.Survives node) parent root)
    (whole : ¬ diff.PartlySurvives root) :
    diff.Deletes stmt ↔ stmt = root ∧ diff.before.isStatement root = true := by
  have none (block : Nat) : ¬ diff.PartlySurvives block := by
    intro partly
    obtain ⟨upper, known, left⟩ := partly.around
    obtain rfl := piece.eq_root partly.gone known (not_not_intro left)
    exact whole partly
  constructor
  · intro deletes
    obtain ⟨upper, known, left | partly⟩ := deletes.attached
    · obtain rfl := piece.eq_root deletes.gone known (not_not_intro left)
      exact ⟨rfl, deletes.statement⟩
    · exact absurd partly (none upper)
  · rintro ⟨rfl, statement⟩
    exact ⟨statement, piece.top, parent, piece.known, .inl (not_not.mp piece.outside)⟩

section

variable {old new : Tree} {image : Nat → Nat}

theorem Extends.not_deletes (extended : diff.Extends old new image) : ¬ diff.Deletes stmt := by
  intro deletes
  have inside := Arena.contains_iff.mp (Arena.contains_of_mem_statements
    (Arena.mem_statements.mpr deletes.statement))
  rw [extended.before, Arena.size_ofTree] at inside
  exact deletes.gone ⟨image stmt, (extended.pairs _ _).mpr ⟨inside, rfl⟩⟩

theorem Reverts.not_inserts (reverted : diff.Reverts old new image) : ¬ diff.Inserts stmt := by
  intro inserts
  have inside := Arena.contains_iff.mp (Arena.contains_of_mem_statements
    (Arena.mem_statements.mpr inserts.statement))
  rw [reverted.after, Arena.size_ofTree] at inside
  exact inserts.fresh ⟨image stmt, (reverted.pairs _ _).mpr ⟨inside, rfl⟩⟩

theorem Extends.inherited_iff (extended : diff.Extends old new image) {node : Nat} :
    diff.Inherited node ↔ ∃ origin < old.size, node = image origin := by
  simp only [Inherited, extended.pairs]

theorem Reverts.survives_iff (reverted : diff.Reverts old new image) {node : Nat} :
    diff.Survives node ↔ ∃ origin < old.size, node = image origin := by
  simp only [Survives, reverted.pairs]

end

end Diff

namespace Gap

variable (gap : Gap) (added : Tree)

theorem exists_image_iff {node : Nat} (inside : node < (gap.insert added).size) :
    (∃ origin < gap.tree.size, node = gap.image added.size origin) ↔
      ¬ (gap.place ≤ node ∧ node < gap.place + added.size) := by
  have sized := gap.size_insert added
  have fits := gap.place_le
  constructor
  · rintro ⟨origin, _, rfl⟩
    rw [image]
    split <;> omega
  · intro outside
    by_cases early : node < gap.place
    · exact ⟨node, by omega, by rw [image, if_pos early]⟩
    · refine ⟨node - added.size, by omega, ?_⟩
      rw [image, if_neg (by omega)]
      omega

theorem exists_image_iff_chain {node : Nat}
    (inside : (Arena.ofTree (gap.insert added)).contains node = true) :
    (∃ origin < gap.tree.size, node = gap.image added.size origin) ↔
      gap.place ∉ (Arena.ofTree (gap.insert added)).chain node := by
  rw [Arena.contains_iff, Arena.size_ofTree] at inside
  rw [gap.exists_image_iff added inside, (gap.holds_insert added).mem_chain_iff]

theorem piece_insert :
    (Arena.ofTree (gap.insert added)).Piece
      (fun node => ¬ ∃ origin < gap.tree.size, node = gap.image added.size origin)
      gap.parent gap.place := by
  apply Arena.piece_of_chain (fun _ => False) (gap.holds_insert added).parent? id
  · intro node upper _ nothing
    exact nothing
  · intro node inside
    rw [gap.exists_image_iff_chain added inside, not_not, not_false_eq_true, and_true]

end Gap

namespace Detection

variable {diff : Diff} {edits : List EditOp} {parent root : Nat}

theorem inserted_of_piece
    (piece : diff.after.Piece (fun node => ¬ diff.Inherited node) parent root) :
    inserted (.make diff edits) =
      if diff.after.isStatement root = true then [(root, parent)] else [] := by
  apply eq_of_only_member (inserted_increasing _).nodup
  rintro ⟨stmt, upper⟩
  rw [mem_inserted_iff, Diff.inserts_iff_root piece, Prod.mk.injEq]
  constructor
  · rintro ⟨⟨rfl, statement⟩, known⟩
    exact ⟨⟨rfl, Option.some.inj (known.symm.trans piece.known)⟩, statement⟩
  · rintro ⟨⟨rfl, rfl⟩, statement⟩
    exact ⟨⟨rfl, statement⟩, piece.known⟩

theorem deleted_of_piece
    (piece : diff.before.Piece (fun node => ¬ diff.Survives node) parent root)
    (whole : ¬ diff.PartlySurvives root) :
    deleted (.make diff edits) = if diff.before.isStatement root = true then [root] else [] := by
  apply eq_of_only_member ((deleted_increasing _).imp Nat.ne_of_lt)
  intro stmt
  rw [mem_deleted, Diff.deletes_iff_root piece whole]

theorem deleted_of_extends {old new : Tree} {image : Nat → Nat}
    (extended : diff.Extends old new image) : deleted (.make diff edits) = [] := by
  apply List.eq_nil_iff_forall_not_mem.mpr
  intro stmt member
  exact extended.not_deletes (mem_deleted.mp member)

theorem inserted_of_reverts {old new : Tree} {image : Nat → Nat}
    (reverted : diff.Reverts old new image) : inserted (.make diff edits) = [] := by
  apply List.eq_nil_iff_forall_not_mem.mpr
  intro entry member
  exact reverted.not_inserts (mem_inserted_iff.mp member).1

end Detection

namespace Miner

variable {σ : Type} {kinds : List ActionKind}

/-- The law of one subtree. A subtree is put among the children of a node, and all other nodes go on
as their images, with the attributes that they had. Then its root is reported as the one inserted
statement, with the parent that it got, if it is a statement. If the subtree is taken out again, the
root is the one deleted statement. Nothing else is inserted or deleted, whatever the script says. -/
theorem mine_subtree {registry : Registry} (accepted : Registry.ofKinds kinds = .ok registry)
    (deletes : .deleteStatement ∈ kinds) (inserts : .insertStatement ∈ kinds)
    (storage : Storage (StateM σ)) (gap : Gap) (added : Tree) (diff : Diff) (state : σ) :
    ((Arena.ofTree (gap.insert added)).children (gap.image added.size gap.parent))[gap.position]? =
        some gap.place ∧
      (∀ node, (Arena.ofTree (gap.insert added)).attributes? (gap.image added.size node) =
        (Arena.ofTree gap.tree).attributes? node) ∧
      ∃ outcome, ((Miner.mk registry none).mine storage diff).run state = (.ok outcome, state) ∧
        outcome.isAnalyzed = diff.edits.isSome ∧
        ∀ set, outcome.actions? = some set →
          (diff.Extends gap.tree (gap.insert added) (gap.image added.size) →
            set.get? .insertStatement =
              some (if added.attributes.kind.isStatement = true then
                [.insertStatement gap.place (gap.image added.size gap.parent)] else []) ∧
            set.get? .deleteStatement = some []) ∧
          (diff.Reverts gap.tree (gap.insert added) (gap.image added.size) →
            set.get? .deleteStatement =
              some (if added.attributes.kind.isStatement = true then [.deleteStatement gap.place]
                else []) ∧
            set.get? .insertStatement = some []) := by
  rw [gap.image_parent]
  refine ⟨gap.children_insert added, gap.attributes?_image added, ?_⟩
  obtain ⟨outcome, mined, analyzed, found⟩ := mine_accepted accepted storage diff state
  refine ⟨outcome, mined, analyzed, ?_⟩
  intro set there
  obtain ⟨edits, _, finds, _⟩ := found set there
  have statement := (gap.holds_insert added).isStatement
  have piece := gap.piece_insert added
  have placed := finds.get?_eq inserts
  have dropped := finds.get?_eq deletes
  constructor
  · intro extended
    simp only [← extended.inherited_iff, ← extended.after] at piece statement
    rw [Detection.get?_inserted placed (Detection.inserted_of_piece piece), statement,
      apply_ite (List.map _)]
    exact ⟨rfl, Detection.get?_deleted dropped (Detection.deleted_of_extends extended)⟩
  · intro reverted
    simp only [← reverted.survives_iff, ← reverted.before] at piece statement
    -- The subtree went as a whole, so its root is no block with something left in it.
    have whole : ¬ diff.PartlySurvives gap.place := by
      intro partly
      obtain ⟨child, known, left⟩ := partly.within
      rw [reverted.before] at known
      exact (gap.exists_image_iff_chain added (Arena.contains_of_parent? known)).mp
        (reverted.survives_iff.mp left) (Arena.parent_mem_chain known)
    rw [Detection.get?_deleted dropped (Detection.deleted_of_piece piece whole), statement,
      apply_ite (List.map _)]
    exact ⟨rfl, Detection.get?_inserted placed (Detection.inserted_of_reverts reverted)⟩

end Miner

def Gap.loopBody : Gap where
  tree := .node ⟨.translationUnit, none, none, none⟩
    [.node ⟨.whileLoop, none, none, none⟩
      [.node ⟨.identity, some "n", some .condition, none⟩ [],
        .node ⟨.block, none, some .body, none⟩ [.node ⟨.exprStatement, none, none, none⟩ []]],
      .node ⟨.empty, none, none, none⟩ []]
  parent := 3
  around := .node ⟨.block, none, some .body, none⟩ [.node ⟨.exprStatement, none, none, none⟩ []]
  position := 0
  found := rfl
  fits := by decide

def Tree.breakOff : Tree :=
  .node ⟨.ifElse, none, none, none⟩
    [.node ⟨.identity, some "p", some .condition, none⟩ [],
      .node ⟨.block, none, some .thenBranch, none⟩ [.node ⟨.breakStatement, none, none, none⟩ []]]

def Diff.grown : Diff where
  id := ⟨"r", "f", "a.c"⟩
  before := .ofTree Gap.loopBody.tree
  after := .ofTree (Gap.loopBody.insert .breakOff)
  correspondence := ⟨[(0, 0), (1, 1), (2, 2), (3, 3), (4, 8), (5, 9)], by decide, by decide⟩
  edits := some [.insert 4, .insert 5, .insert 6, .insert 7]
  fixFiles := ["a.c"]
  in_trees := by decide

def Diff.shrunk : Diff where
  id := ⟨"r", "f", "a.c"⟩
  before := .ofTree (Gap.loopBody.insert .breakOff)
  after := .ofTree Gap.loopBody.tree
  correspondence := ⟨[(0, 0), (1, 1), (2, 2), (3, 3), (8, 4), (9, 5)], by decide, by decide⟩
  edits := some [.delete 4]
  fixFiles := ["a.c"]
  in_trees := by decide

namespace Miner

/-- The statement in the inner block is neither inserted nor deleted itself. -/
theorem mine_subtree_breakOff :
    ∃ (registry : Registry) (outcome back : MiningOutcome) (set undone : ActionSet),
      Registry.ofKinds [.deleteStatement, .insertStatement] = .ok registry ∧
      ((Miner.mk registry none).mine Disk.storage .grown).run .empty = (.ok outcome, .empty) ∧
      outcome.actions? = some set ∧
      set.get? .insertStatement = some [.insertStatement 4 3] ∧
      set.get? .deleteStatement = some [] ∧
      ((Miner.mk registry none).mine Disk.storage .shrunk).run .empty = (.ok back, .empty) ∧
      back.actions? = some undone ∧
      undone.get? .deleteStatement = some [.deleteStatement 4] ∧
      undone.get? .insertStatement = some [] := by
  have accepted : Registry.ofKinds [.deleteStatement, .insertStatement] =
      .ok (.builtin [.deleteStatement, .insertStatement]) :=
    Registry.ofKinds_ok_iff.mpr ⟨by decide, by unfold Pipeline.Closed; decide, rfl⟩
  obtain ⟨_, _, outcome, mined, analyzed, found⟩ := mine_subtree accepted (by decide) (by decide)
    Disk.storage .loopBody .breakOff .grown .empty
  obtain ⟨_, _, back, alsoMined, alsoAnalyzed, alsoFound⟩ := mine_subtree accepted (by decide)
    (by decide) Disk.storage .loopBody .breakOff .shrunk .empty
  cases outcome with
  | notAnalyzable reason => cases analyzed
  | analyzed set stats =>
    cases back with
    | notAnalyzable reason => cases alsoAnalyzed
    | analyzed undone alsoStats =>
      obtain ⟨inserted, kept⟩ := (found set rfl).1 (.of_pairs rfl rfl (by decide))
      obtain ⟨deleted, alsoKept⟩ := (alsoFound undone rfl).2 (.of_pairs rfl rfl (by decide))
      exact ⟨_, _, _, set, undone, accepted, mined, rfl, inserted, kept, alsoMined, rfl, deleted,
        alsoKept⟩

end Miner

end RepairMining
