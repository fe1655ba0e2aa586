import RepairMining.Proofs.Detection.Distinct
import RepairMining.Proofs.Diff.Correspondence
import RepairMining.Proofs.Mining.Cached
import RepairMining.Proofs.Syntax.Ancestors

namespace RepairMining

namespace Diff

/-- A block that is gone, though its parent and some child of it are left. -/
structure PartlySurvives (diff : Diff) (block : Nat) : Prop where
  kind : diff.before.hasKind block .block = true
  gone : ¬ diff.Survives block
  around : ∃ parent, diff.before.parent? block = some parent ∧ diff.Survives parent
  within : ∃ child, diff.before.parent? child = some block ∧ diff.Survives child

/-- A statement that is gone and whose parent is left, or is a block that is left in part. -/
structure Deletes (diff : Diff) (stmt : Nat) : Prop where
  statement : diff.before.isStatement stmt = true
  gone : ¬ diff.Survives stmt
  attached : ∃ parent, diff.before.parent? stmt = some parent ∧
    (diff.Survives parent ∨ diff.PartlySurvives parent)

variable {diff : Diff} {stmt kept top : Nat}

theorem PartlySurvives.deletes {block : Nat} (partly : diff.PartlySurvives block) :
    diff.Deletes block where
  statement := Arena.isStatement_iff.mpr ⟨.block, Arena.hasKind_iff.mp partly.kind, rfl⟩
  gone := partly.gone
  attached := by
    obtain ⟨parent, known, left⟩ := partly.around
    exact ⟨parent, known, .inl left⟩

/-- Of two nested deleted statements, the outer one is a block that is left in part and directly
around the inner one, unless something is left between the two. -/
theorem Deletes.nested {outer inner : Nat} (outerGone : diff.Deletes outer)
    (innerGone : diff.Deletes inner) (inside : diff.before.ProperAncestor outer inner) :
    (∃ kept, diff.Survives kept ∧ diff.before.ProperAncestor outer kept ∧
      diff.before.ProperAncestor kept inner) ∨
    diff.PartlySurvives outer ∧ diff.before.parent? inner = some outer := by
  have apart {kept : Nat} (left : diff.Survives kept) : outer ≠ kept := by
    rintro rfl
    exact outerGone.gone left
  obtain ⟨parent, known, above⟩ := Arena.properAncestor_iff.mp inside
  obtain ⟨_, alsoKnown, attached⟩ := innerGone.attached
  rw [known] at alsoKnown
  obtain rfl := Option.some.inj alsoKnown
  rcases attached with left | partly
  · have lower := Arena.mem_chain_self (Arena.contains_parent known)
    exact .inl ⟨parent, left, ⟨above, apart left⟩,
      Arena.properAncestor_iff.mpr ⟨parent, known, lower⟩⟩
  · by_cases same : outer = parent
    · subst same
      exact .inr ⟨partly, known⟩
    · -- The block lies between the two, and so does its parent, which is left.
      obtain ⟨kept, upward, left⟩ := partly.around
      have higher := ((Arena.mem_chain_iff upward).mp above).resolve_left same
      exact .inl ⟨kept, left, ⟨higher, apart left⟩,
        Arena.properAncestor_iff.mpr ⟨parent, known, Arena.parent_mem_chain upward⟩⟩

/-- The topmost node of those that are gone below a given one. -/
def TopmostGone (diff : Diff) (kept stmt top : Nat) : Prop :=
  diff.before.Furthest (fun node => ¬ diff.Survives node ∧ diff.before.ProperAncestor kept node)
    stmt top

theorem TopmostGone.deletes (topmost : diff.TopmostGone kept stmt top)
    (nearest : diff.before.Nearest diff.Survives stmt kept)
    (statement : diff.before.isStatement top = true) : diff.Deletes top where
  statement := statement
  gone := topmost.holds.1
  attached := ⟨kept, Arena.Furthest.parent? topmost nearest, .inl nearest.holds⟩

theorem exists_topmostGone (gone : ¬ diff.Survives stmt)
    (nearest : diff.before.Nearest diff.Survives stmt kept) :
    ∃ top, diff.TopmostGone kept stmt top :=
  Arena.exists_furthest_below gone nearest

end Diff

namespace Detection

variable {diff : Diff} {edits : List EditOp} {stmt : Nat}

theorem mapsBefore_make {node : Nat} :
    (Context.make diff edits).mapsBefore node = true ↔ diff.Survives node :=
  Diff.mapsBefore_iff

theorem not_mapsBefore_make {node : Nat} :
    (!(Context.make diff edits).mapsBefore node) = true ↔ ¬ diff.Survives node := by
  rw [Bool.not_eq_true', ← Bool.not_eq_true, mapsBefore_make]

theorem survivesInPart_iff {block : Nat} :
    survivesInPart (.make diff edits) block = true ↔ diff.PartlySurvives block := by
  simp only [survivesInPart, Bool.and_eq_true, not_mapsBefore_make, Option.any_eq_true,
    List.any_eq_true, mapsBefore_make, Arena.mem_children_iff, and_assoc]
  constructor
  · rintro ⟨kind, gone, around, within⟩
    exact ⟨kind, gone, around, within⟩
  · rintro ⟨kind, gone, around, within⟩
    exact ⟨kind, gone, around, within⟩

theorem anchor?_iff :
    ((anchor? (.make diff edits) stmt).any (Context.make diff edits).mapsBefore) = true ↔
      ∃ parent, diff.before.parent? stmt = some parent ∧
        (diff.Survives parent ∨ diff.PartlySurvives parent) := by
  simp only [anchor?, Option.any_eq_true, mapsBefore_make]
  split
  · rename_i root
    refine iff_of_false (by simp) ?_
    rintro ⟨parent, known, _⟩
    cases root.symm.trans known
  · rename_i parent known
    by_cases partly : diff.PartlySurvives parent
    · rw [if_pos (survivesInPart_iff.mpr partly)]
      exact iff_of_true partly.around ⟨parent, known, .inr partly⟩
    · rw [if_neg (mt survivesInPart_iff.mp partly)]
      constructor
      · rintro ⟨anchor, same, left⟩
        obtain rfl := Option.some.inj same
        exact ⟨parent, known, .inl left⟩
      · rintro ⟨other, alsoKnown, attached⟩
        obtain rfl := Option.some.inj (known.symm.trans alsoKnown)
        exact ⟨parent, rfl, attached.resolve_right partly⟩

theorem get?_deleted {set : ActionSet} {stmts : List Nat}
    (found : set.get? .deleteStatement = some (deleteStatement.finds (.make diff edits) set))
    (same : deleted (.make diff edits) = stmts) :
    set.get? .deleteStatement = some (stmts.map .deleteStatement) := by
  rw [found, ← same]
  rfl

theorem deletedStatements_eq {set : ActionSet}
    (found : set.get? .deleteStatement = some (deleteStatement.finds (.make diff edits) set)) :
    set.deletedStatements = deleted (.make diff edits) := by
  rw [ActionSet.deletedStatements, ActionSet.actions, found, Option.getD_some, deleteStatement,
    List.filterMap_map]
  exact List.filterMap_some

theorem mem_deleted : stmt ∈ deleted (.make diff edits) ↔ diff.Deletes stmt := by
  rw [deleted, List.mem_filter, Arena.mem_statements, Bool.and_eq_true, not_mapsBefore_make,
    anchor?_iff]
  constructor
  · rintro ⟨statement, gone, attached⟩
    exact ⟨statement, gone, attached⟩
  · rintro ⟨statement, gone, attached⟩
    exact ⟨statement, gone, attached⟩

end Detection

namespace Miner

variable {σ : Type} {kinds : List ActionKind}

/-- The deletion law. Reported are the statements that are gone and whose parent is left or is a
block that is left in part, each once and in the order of the tree. So of two nested ones either
something is left between them, or the outer one is such a block, which is always reported, and the
inner one is directly in it. And of the nodes that are gone above any of them, up to the nearest one
that is left, the topmost is reported if it is a statement. -/
theorem mine_deletions {registry : Registry} (accepted : Registry.ofKinds kinds = .ok registry)
    (listed : .deleteStatement ∈ kinds) (storage : Storage (StateM σ)) (diff : Diff) (state : σ) :
    ∃ outcome, ((Miner.mk registry none).mine storage diff).run state = (.ok outcome, state) ∧
      outcome.isAnalyzed = diff.edits.isSome ∧
      ∀ set, outcome.actions? = some set →
        ∃ stmts : List Nat, set.get? .deleteStatement = some (stmts.map .deleteStatement) ∧
          stmts.Pairwise (· < ·) ∧
          (∀ stmt, stmt ∈ stmts ↔ diff.Deletes stmt) ∧
          (∀ outer ∈ stmts, ∀ inner ∈ stmts, diff.before.ProperAncestor outer inner →
            (∃ kept, diff.Survives kept ∧ diff.before.ProperAncestor outer kept ∧
              diff.before.ProperAncestor kept inner) ∨
            diff.PartlySurvives outer ∧ diff.before.parent? inner = some outer) ∧
          (∀ block, diff.PartlySurvives block → block ∈ stmts) ∧
          ∀ node, ¬ diff.Survives node →
            (∃ other, diff.before.ProperAncestor other node ∧ diff.Survives other) →
            ∃ kept top, diff.before.Nearest diff.Survives node kept ∧
              diff.TopmostGone kept node top ∧
              (diff.before.isStatement top = true → top ∈ stmts) := by
  obtain ⟨outcome, mined, analyzed, found⟩ := mine_accepted accepted storage diff state
  refine ⟨outcome, mined, analyzed, ?_⟩
  intro set there
  obtain ⟨edits, _, finds, _⟩ := found set there
  have member {stmt : Nat} :
      stmt ∈ Detection.deleted (.make diff edits) ↔ diff.Deletes stmt := Detection.mem_deleted
  refine ⟨Detection.deleted (.make diff edits), finds.get?_eq listed,
    Detection.deleted_increasing _, fun stmt => member, ?_, ?_, ?_⟩
  · intro outer outerGone inner innerGone inside
    exact (member.mp outerGone).nested (member.mp innerGone) inside
  · intro block partly
    exact member.mpr partly.deletes
  · rintro node gone ⟨other, proper, left⟩
    obtain ⟨kept, nearest⟩ := Arena.exists_nearest ⟨other, proper.1, left⟩
    obtain ⟨top, topmost⟩ := Diff.exists_topmostGone gone nearest
    refine ⟨kept, top, nearest, topmost, ?_⟩
    intro statement
    exact member.mpr (topmost.deletes nearest statement)

end Miner

/-- A guarded block with two statements. The block and the second statement are deleted. -/
def Diff.unbraced : Diff where
  id := ⟨"r", "f", "a.c"⟩
  before := .ofTree (.node ⟨.translationUnit, none, none, none⟩
    [.node ⟨.ifElse, none, none, none⟩
      [.node ⟨.identity, some "x", some .condition, none⟩ [],
        .node ⟨.block, none, some .thenBranch, none⟩
          [.node ⟨.exprStatement, none, none, none⟩ [],
            .node ⟨.empty, none, none, none⟩ []]]])
  after := .ofTree (.node ⟨.translationUnit, none, none, none⟩
    [.node ⟨.ifElse, none, none, none⟩
      [.node ⟨.identity, some "x", some .condition, none⟩ [],
        .node ⟨.exprStatement, none, some .thenBranch, none⟩ []]])
  correspondence := ⟨[(0, 0), (1, 1), (2, 2), (4, 3)], by decide, by decide⟩
  edits := some [.delete 5, .move 4 3, .delete 3]
  fixFiles := ["a.c"]
  in_trees := by decide

theorem Diff.partlySurvives_unbraced : Diff.unbraced.PartlySurvives 3 where
  kind := by decide
  gone := mt mapsBefore_iff.mpr (by decide)
  around := ⟨1, by decide, 1, by decide⟩
  within := ⟨4, by decide, 3, by decide⟩

namespace Miner

theorem mine_deletions_unbraced :
    ∃ (registry : Registry) (outcome : MiningOutcome) (set : ActionSet) (stmts : List Nat),
      Registry.ofKinds [.deleteStatement] = .ok registry ∧
      ((Miner.mk registry none).mine Disk.storage .unbraced).run .empty =
        (.ok outcome, .empty) ∧
      outcome.actions? = some set ∧
      set.get? .deleteStatement = some (stmts.map .deleteStatement) ∧
      Diff.unbraced.PartlySurvives 3 ∧ 3 ∈ stmts ∧ 5 ∈ stmts := by
  have accepted : Registry.ofKinds [.deleteStatement] = .ok (.builtin [.deleteStatement]) :=
    Registry.ofKinds_ok_iff.mpr ⟨by decide, by unfold Pipeline.Closed; decide, rfl⟩
  obtain ⟨outcome, mined, analyzed, found⟩ :=
    mine_deletions accepted (by decide) Disk.storage .unbraced .empty
  cases outcome with
  | notAnalyzable reason => cases analyzed
  | analyzed set stats =>
    obtain ⟨stmts, there, _, member, _, blocks, _⟩ := found set rfl
    have partly := Diff.partlySurvives_unbraced
    refine ⟨_, _, set, stmts, accepted, mined, rfl, there, partly, blocks 3 partly, ?_⟩
    exact (member 5).mpr ⟨by decide, mt Diff.mapsBefore_iff.mpr (by decide), 3, by decide,
      .inr partly⟩

end Miner

end RepairMining
