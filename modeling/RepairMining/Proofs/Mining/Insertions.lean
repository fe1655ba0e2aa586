import RepairMining.Proofs.Detection.Distinct
import RepairMining.Proofs.Diff.Correspondence
import RepairMining.Proofs.Mining.Cached
import RepairMining.Proofs.Syntax.Ancestors

namespace RepairMining

namespace Diff

/-- A statement that is new, in a place that is not. -/
structure Inserts (diff : Diff) (stmt : Nat) : Prop where
  statement : diff.after.isStatement stmt = true
  fresh : ¬ diff.Inherited stmt
  attached : ∃ parent, diff.after.parent? stmt = some parent ∧ diff.Inherited parent

variable {diff : Diff} {stmt kept top : Nat}

/-- Between two nested inserted statements lies a node that is not new, namely the parent of the
inner one. -/
theorem Inserts.nested {outer inner : Nat} (outerNew : diff.Inserts outer)
    (innerNew : diff.Inserts inner) (inside : diff.after.ProperAncestor outer inner) :
    ∃ kept, diff.Inherited kept ∧ diff.after.ProperAncestor outer kept ∧
      diff.after.ProperAncestor kept inner := by
  obtain ⟨parent, known, old⟩ := innerNew.attached
  obtain ⟨_, alsoKnown, above⟩ := Arena.properAncestor_iff.mp inside
  obtain rfl := Option.some.inj (known.symm.trans alsoKnown)
  have apart : outer ≠ parent := by
    rintro rfl
    exact outerNew.fresh old
  have lower := Arena.mem_chain_self (Arena.contains_parent known)
  exact ⟨parent, old, ⟨above, apart⟩, Arena.properAncestor_iff.mpr ⟨parent, known, lower⟩⟩

/-- The topmost node of those that are new below a given one. -/
def TopmostNew (diff : Diff) (kept stmt top : Nat) : Prop :=
  diff.after.Furthest (fun node => ¬ diff.Inherited node ∧ diff.after.ProperAncestor kept node)
    stmt top

theorem TopmostNew.not_inserts {other : Nat} (topmost : diff.TopmostNew kept stmt top)
    (nearest : diff.after.Nearest diff.Inherited stmt kept)
    (below : diff.after.ProperAncestor top other) (onWay : other ∈ diff.after.chain stmt) :
    ¬ diff.Inserts other := by
  intro inserts
  obtain ⟨parent, known, old⟩ := inserts.attached
  obtain ⟨_, alsoKnown, above⟩ := Arena.properAncestor_iff.mp below
  obtain rfl := Option.some.inj (known.symm.trans alsoKnown)
  have higher := nearest.deepest parent (Arena.mem_chain_trans (Arena.parent_mem_chain known) onWay)
    old
  have proper := topmost.holds.2
  exact proper.2 (Arena.eq_of_mem_chain proper.1 (Arena.mem_chain_trans above higher))

end Diff

namespace Detection

variable {diff : Diff} {edits : List EditOp} {set : ActionSet} {stmt : Nat}

theorem mem_inserted_iff {parent : Nat} :
    (stmt, parent) ∈ inserted (.make diff edits) ↔
      diff.Inserts stmt ∧ diff.after.parent? stmt = some parent := by
  have old {node : Nat} :
      (Context.make diff edits).mapsAfter node = true ↔ diff.Inherited node := Diff.mapsAfter_iff
  rw [inserted, List.mem_filterMap]
  constructor
  · rintro ⟨node, listed, shape⟩
    split at shape
    · cases shape
    · rename_i fresh
      split at shape
      · cases shape
      · rename_i parent known
        split at shape
        · rename_i kept
          obtain ⟨rfl, rfl⟩ := Prod.mk.inj (Option.some.inj shape)
          exact ⟨⟨Arena.mem_statements.mp listed, mt old.mpr fresh, _, known, old.mp kept⟩, known⟩
        · cases shape
  · rintro ⟨inserts, known⟩
    obtain ⟨other, alsoKnown, kept⟩ := inserts.attached
    obtain rfl := Option.some.inj (known.symm.trans alsoKnown)
    refine ⟨stmt, Arena.mem_statements.mpr inserts.statement, ?_⟩
    rw [if_neg (mt old.mp inserts.fresh)]
    dsimp only [Context.make, Context.after]
    rw [known]
    exact if_pos (old.mpr kept)

theorem get?_inserted {entries : List (Nat × Nat)}
    (found : set.get? .insertStatement = some (insertStatement.finds (.make diff edits) set))
    (same : inserted (.make diff edits) = entries) :
    set.get? .insertStatement =
      some (entries.map fun entry => .insertStatement entry.1 entry.2) := by
  rw [found, ← same]
  rfl

theorem insertedStatements_eq
    (found : set.get? .insertStatement = some (insertStatement.finds (.make diff edits) set)) :
    set.insertedStatements = (inserted (.make diff edits)).map Prod.fst := by
  rw [ActionSet.insertedStatements, ActionSet.actions, found, Option.getD_some, insertStatement,
    List.filterMap_map]
  exact congrFun List.filterMap_eq_map _

theorem mem_insertedStatements
    (found : set.get? .insertStatement = some (insertStatement.finds (.make diff edits) set)) :
    stmt ∈ set.insertedStatements ↔ diff.Inserts stmt := by
  rw [insertedStatements_eq found, List.mem_map]
  constructor
  · rintro ⟨⟨_, parent⟩, member, rfl⟩
    exact (mem_inserted_iff.mp member).1
  · intro inserts
    obtain ⟨parent, known, _⟩ := inserts.attached
    exact ⟨(stmt, parent), mem_inserted_iff.mpr ⟨inserts, known⟩, rfl⟩

end Detection

namespace Miner

variable {σ : Type} {kinds : List ActionKind}

/-- The insertion law. Reported are the statements that are new and whose parent is not, each once,
with that parent and in the order of the tree. So between two nested ones lies something that is not
new. And of the new nodes above any of them, up to the nearest one that is not new, the topmost is
reported if it is a statement, and none below it is. -/
theorem mine_insertions {registry : Registry} (accepted : Registry.ofKinds kinds = .ok registry)
    (listed : .insertStatement ∈ kinds) (storage : Storage (StateM σ)) (diff : Diff) (state : σ) :
    ∃ outcome, ((Miner.mk registry none).mine storage diff).run state = (.ok outcome, state) ∧
      outcome.isAnalyzed = diff.edits.isSome ∧
      ∀ set, outcome.actions? = some set →
        ∃ placed : List (Nat × Nat),
          set.get? .insertStatement =
            some (placed.map fun entry => .insertStatement entry.1 entry.2) ∧
          (placed.Pairwise fun one other => one.1 < other.1) ∧
          (∀ stmt parent, (stmt, parent) ∈ placed ↔
            diff.Inserts stmt ∧ diff.after.parent? stmt = some parent) ∧
          (∀ outer ∈ placed, ∀ inner ∈ placed, diff.after.ProperAncestor outer.1 inner.1 →
            ∃ kept, diff.Inherited kept ∧ diff.after.ProperAncestor outer.1 kept ∧
              diff.after.ProperAncestor kept inner.1) ∧
          ∀ node, ¬ diff.Inherited node →
            (∃ other, diff.after.ProperAncestor other node ∧ diff.Inherited other) →
            ∃ kept top, diff.after.Nearest diff.Inherited node kept ∧
              diff.TopmostNew kept node top ∧
              (diff.after.isStatement top = true → (top, kept) ∈ placed) ∧
              ∀ other ∈ diff.after.chain node, diff.after.ProperAncestor top other →
                ∀ parent, (other, parent) ∉ placed := by
  obtain ⟨outcome, mined, analyzed, found⟩ := mine_accepted accepted storage diff state
  refine ⟨outcome, mined, analyzed, ?_⟩
  intro set there
  obtain ⟨edits, _, finds, _⟩ := found set there
  have member {stmt parent : Nat} : (stmt, parent) ∈ Detection.inserted (.make diff edits) ↔
      diff.Inserts stmt ∧ diff.after.parent? stmt = some parent :=
    Detection.mem_inserted_iff
  refine ⟨Detection.inserted (.make diff edits), finds.get?_eq listed,
    Detection.inserted_increasing _, fun stmt parent => member, ?_, ?_⟩
  · intro outer outerNew inner innerNew inside
    exact (member.mp outerNew).1.nested (member.mp innerNew).1 inside
  · rintro node fresh ⟨other, proper, old⟩
    obtain ⟨kept, nearest⟩ := Arena.exists_nearest ⟨other, proper.1, old⟩
    obtain ⟨top, topmost⟩ := Arena.exists_furthest_below fresh nearest
    have known := topmost.parent? nearest
    refine ⟨kept, top, nearest, topmost, ?_, ?_⟩
    · intro statement
      exact member.mpr ⟨⟨statement, topmost.holds.1, kept, known, nearest.holds⟩, known⟩
    · intro below onWay lower parent reported
      exact Diff.TopmostNew.not_inserts topmost nearest lower onWay (member.mp reported).1

end Miner

/-- A loop comes under a new guard, and so does the statement in its body. -/
def Diff.guarded : Diff where
  id := ⟨"r", "f", "a.c"⟩
  before := .ofTree (.node ⟨.translationUnit, none, none, none⟩
    [.node ⟨.whileLoop, none, none, none⟩
      [.node ⟨.identity, some "n", some .condition, none⟩ [],
        .node ⟨.block, none, some .body, none⟩ [.node ⟨.exprStatement, none, none, none⟩ []]]])
  after := .ofTree (.node ⟨.translationUnit, none, none, none⟩
    [.node ⟨.ifElse, none, none, none⟩
      [.node ⟨.identity, some "p", some .condition, none⟩ [],
        .node ⟨.whileLoop, none, some .thenBranch, none⟩
          [.node ⟨.identity, some "n", some .condition, none⟩ [],
            .node ⟨.block, none, some .body, none⟩
              [.node ⟨.ifElse, none, none, none⟩
                [.node ⟨.identity, some "q", some .condition, none⟩ [],
                  .node ⟨.exprStatement, none, some .thenBranch, none⟩ []]]]]])
  correspondence := ⟨[(0, 0), (1, 3), (2, 4), (3, 5), (4, 8)], by decide, by decide⟩
  edits := some [.insert 1, .insert 2, .move 1 3, .insert 6, .insert 7, .move 4 8]
  fixFiles := ["a.c"]
  in_trees := by decide

namespace Miner

/-- Both guards are reported, as the loop lies between them. -/
theorem mine_insertions_guarded :
    ∃ (registry : Registry) (outcome : MiningOutcome) (set : ActionSet)
      (placed : List (Nat × Nat)),
      Registry.ofKinds [.insertStatement] = .ok registry ∧
      ((Miner.mk registry none).mine Disk.storage .guarded).run .empty = (.ok outcome, .empty) ∧
      outcome.actions? = some set ∧
      set.get? .insertStatement =
        some (placed.map fun entry => .insertStatement entry.1 entry.2) ∧
      (1, 0) ∈ placed ∧ (6, 5) ∈ placed ∧
      ∃ kept, Diff.guarded.Inherited kept ∧ Diff.guarded.after.ProperAncestor 1 kept ∧
        Diff.guarded.after.ProperAncestor kept 6 := by
  have accepted : Registry.ofKinds [.insertStatement] = .ok (.builtin [.insertStatement]) :=
    Registry.ofKinds_ok_iff.mpr ⟨by decide, by unfold Pipeline.Closed; decide, rfl⟩
  obtain ⟨outcome, mined, analyzed, found⟩ :=
    mine_insertions accepted (by decide) Disk.storage .guarded .empty
  cases outcome with
  | notAnalyzable reason => cases analyzed
  | analyzed set stats =>
    obtain ⟨placed, there, _, member, nested, _⟩ := found set rfl
    have outer : (1, 0) ∈ placed := (member 1 0).mpr
      ⟨⟨by decide, mt Diff.mapsAfter_iff.mpr (by decide), 0, by decide, 0, by decide⟩, by decide⟩
    have inner : (6, 5) ∈ placed := (member 6 5).mpr
      ⟨⟨by decide, mt Diff.mapsAfter_iff.mpr (by decide), 5, by decide, 3, by decide⟩, by decide⟩
    exact ⟨_, _, set, placed, accepted, mined, rfl, there, outer, inner,
      nested _ outer _ inner ⟨by decide, by decide⟩⟩

end Miner

end RepairMining
