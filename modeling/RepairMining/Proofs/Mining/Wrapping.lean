import RepairMining.Proofs.Mining.Attribution
import RepairMining.Proofs.Mining.ElseGuards
import RepairMining.Proofs.Mining.Growth
import RepairMining.Proofs.Syntax.Wrapping

namespace RepairMining

namespace Diff

variable {diff : Diff} {script : List EditOp} {source target : Nat}

/-- The script inserts what is new and moves one node. -/
def InsertsAndMoves (diff : Diff) (script : List EditOp) (source target : Nat) : Prop :=
  ∀ op, op ∈ script ↔ op = .move source target ∨
    ∃ node, diff.after.contains node = true ∧ ¬ diff.Inherited node ∧ op = .insert node

theorem InsertsAndMoves.not_modifies (moves : diff.InsertsAndMoves script source target)
    (pair : (source, target) ∈ diff.correspondence.pairs)
    (around : ∀ node, ¬ diff.Inherited node → target ∉ diff.after.chain node) (before : Nat) :
    ¬ diff.Modifies script before target := by
  rintro ⟨counterpart, op, edited, touches⟩
  have counterparts := diff.correspondence.oneToOne_pairs _ pair
  obtain rfl := (counterparts _ counterpart).mpr rfl
  rcases (moves op).mp edited with rfl | ⟨node, _, fresh, rfl⟩
  · cases touches with
    | leave nearest => exact nearest.holds.1.2 rfl
    | reach nearest listed =>
      obtain rfl := (counterparts _ listed).mp rfl
      exact nearest.holds.1.2 rfl
  · cases touches with
    | insert nearest listed =>
      obtain rfl := (counterparts _ listed).mp rfl
      exact around node fresh nearest.above

end Diff

namespace Detection

variable {diff : Diff} {edits : List EditOp} {set : ActionSet} {stmt wrapper guard branch inner : Nat}

theorem wrapStatement_eq (inserted : set.insertedStatements = [wrapper])
    (bare : bareIf? diff.after wrapper = some (guard, branch))
    (content : diff.after.unwrapBlock branch = inner)
    (pair : (stmt, inner) ∈ diff.correspondence.pairs)
    (statement : diff.after.isStatement inner = true)
    (still : ∀ before, (before, inner) ∉ set.modifiedStatements) :
    wrapStatement.finds (.make diff edits) set = [.wrapStatement stmt wrapper guard] := by
  have untouched : inner ∉ set.modifiedStatements.map (·.2) := by
    intro listed
    obtain ⟨⟨before, _⟩, member, rfl⟩ := List.mem_map.mp listed
    exact still before member
  have counterpart : (Context.make diff edits).beforeOf inner = some stmt :=
    Correspondence.before?_eq_some_iff.mpr pair
  have there : bareIf? (Context.make diff edits).after wrapper = some (guard, branch) := bare
  have alone : (Context.make diff edits).after.unwrapBlock branch = inner := content
  have kept : (Context.make diff edits).after.isStatement inner = true := statement
  simp only [wrapStatement, inserted, List.filterMap_cons, List.filterMap_nil, there, alone,
    counterpart, kept, untouched, not_false_eq_true, decide_true, Bool.and_self, if_true]

theorem unwrapStatement_eq (deleted : set.deletedStatements = [wrapper])
    (bare : bareIf? diff.before wrapper = some (guard, branch))
    (content : diff.before.unwrapBlock branch = inner)
    (pair : (inner, stmt) ∈ diff.correspondence.pairs) :
    unwrapStatement.finds (.make diff edits) set = [.unwrapStatement wrapper stmt] := by
  obtain ⟨isIf, without, _, found⟩ := bareIf?_eq_some_iff.mp bare
  have counterpart : (Context.make diff edits).afterOf inner = some stmt :=
    Correspondence.after?_eq_some_iff.mpr pair
  have kind : (Context.make diff edits).before.hasKind wrapper .ifElse = true := isIf
  have noElse : (Context.make diff edits).before.elseBranch? wrapper = none := without
  have there : (Context.make diff edits).before.thenBranch? wrapper = some branch := found
  have alone : (Context.make diff edits).before.unwrapBlock branch = inner := content
  simp only [unwrapStatement, deleted, List.filterMap_cons, List.filterMap_nil, kind, noElse,
    there, alone, counterpart, Option.isNone_none, Bool.and_self, if_true, Option.map_some]

theorem wrapStatement_of_nothing (context : Context) (nothing : set.insertedStatements = []) :
    wrapStatement.finds context set = [] := by
  simp only [wrapStatement, nothing, List.filterMap_nil]

theorem unwrapStatement_of_nothing (context : Context) (nothing : set.deletedStatements = []) :
    unwrapStatement.finds context set = [] := by
  simp only [unwrapStatement, nothing, List.filterMap_nil]

end Detection

namespace Wrapping

variable {diff : Diff} {edits : List EditOp} (wrapping : Wrapping)

theorem bareIf?_place : Detection.bareIf? (Arena.ofTree wrapping.wrapped) wrapping.place =
    some (wrapping.guardPlace, wrapping.branchPlace) := by
  rw [Detection.bareIf?_eq_some_iff]
  refine ⟨?_, wrapping.part?_place _, wrapping.part?_place _, wrapping.part?_place _⟩
  rw [Arena.hasKind_iff, wrapping.holds_wrapper.kind?, ← wrapping.isIf]
  rfl

theorem inserted_eq (extended : diff.Extends wrapping.tree wrapping.wrapped wrapping.image) :
    Detection.inserted (.make diff edits) = [(wrapping.place, wrapping.parent)] := by
  have piece := wrapping.piece_wrapped
  simp only [← extended.inherited_iff, ← extended.after] at piece
  have statement := wrapping.isStatement_place
  rw [← extended.after] at statement
  rw [Detection.inserted_of_piece piece, if_pos statement]

theorem deleted_eq (reverted : diff.Reverts wrapping.tree wrapping.wrapped wrapping.image) :
    Detection.deleted (.make diff edits) = [wrapping.place] := by
  have piece := wrapping.piece_wrapped
  simp only [← reverted.survives_iff, ← reverted.before] at piece
  have statement := wrapping.isStatement_place
  have bare := wrapping.bareIf?_place
  rw [← reverted.before] at statement bare
  have whole : ¬ diff.PartlySurvives wrapping.place := by
    intro partly
    have isIf := Arena.hasKind_iff.mp (Detection.bareIf?_eq_some_iff.mp bare).1
    cases isIf.symm.trans (Arena.hasKind_iff.mp partly.kind)
  rw [Detection.deleted_of_piece piece whole, if_pos statement]

theorem not_modifies (extended : diff.Extends wrapping.tree wrapping.wrapped wrapping.image)
    (moves : diff.InsertsAndMoves edits wrapping.place (wrapping.image wrapping.place))
    (before : Nat) : ¬ diff.Modifies edits before (wrapping.image wrapping.place) := by
  apply moves.not_modifies ((extended.pairs _ _).mpr ⟨wrapping.place_lt, rfl⟩)
  intro node fresh above
  have inside := Arena.contains_of_mem_chain above
  rw [extended.inherited_iff] at fresh
  rw [extended.after] at inside above
  rw [wrapping.exists_image_iff inside, ← wrapping.image_place] at fresh
  exact fresh fun _ => above

end Wrapping

namespace Miner

variable {σ : Type} {kinds : List ActionKind} {diff : Diff} {edits : List EditOp} {set : ActionSet}

theorem Finds.wraps (finds : Finds diff edits kinds set) (wraps : .wrapStatement ∈ kinds)
    (unwraps : .unwrapStatement ∈ kinds) (wrapping : Wrapping)
    (extended : diff.Extends wrapping.tree wrapping.wrapped wrapping.image)
    (moves : diff.InsertsAndMoves edits wrapping.place (wrapping.image wrapping.place)) :
    set.get? .insertStatement = some [.insertStatement wrapping.place wrapping.parent] ∧
      set.get? .deleteStatement = some [] ∧
      set.get? .wrapStatement =
        some [.wrapStatement wrapping.place wrapping.place wrapping.guardPlace] ∧
      set.get? .unwrapStatement = some [] := by
  have deleted := finds.get?_needed unwraps (show .deleteStatement ∈ _ by decide)
  have inserted := finds.get?_needed wraps (show .insertStatement ∈ _ by decide)
  have modified := finds.get?_needed wraps (show .modifyStatement ∈ _ by decide)
  have gone : Detection.deleted (.make diff edits) = [] := Detection.deleted_of_extends extended
  have fresh : Detection.inserted (.make diff edits) = [(wrapping.place, wrapping.parent)] :=
    wrapping.inserted_eq extended
  have pair := (extended.pairs _ _).mpr ⟨wrapping.place_lt, rfl⟩
  have still (before : Nat) : (before, wrapping.image wrapping.place) ∉ set.modifiedStatements :=
    mt (Detection.mem_modifiedStatements modified).mp
      (wrapping.not_modifies extended moves before)
  have bare := wrapping.bareIf?_place
  have content := wrapping.unwrapBlock_branchPlace
  have stays := wrapping.isStatement_image
  rw [← extended.after] at bare content stays
  rw [← wrapping.image_place] at content
  have wrapper : set.insertedStatements = [wrapping.place] := by
    rw [Detection.insertedStatements_eq inserted, fresh]
    rfl
  have nothing : set.deletedStatements = [] := by
    rw [Detection.deletedStatements_eq deleted, gone]
  refine ⟨Detection.get?_inserted inserted fresh, Detection.get?_deleted deleted gone, ?_, ?_⟩
  · rw [finds.get?_eq wraps]
    exact congrArg some (Detection.wrapStatement_eq wrapper bare content pair stays still)
  · rw [finds.get?_eq unwraps]
    exact congrArg some (Detection.unwrapStatement_of_nothing _ nothing)

theorem Finds.unwraps (finds : Finds diff edits kinds set) (wraps : .wrapStatement ∈ kinds)
    (unwraps : .unwrapStatement ∈ kinds) (wrapping : Wrapping)
    (reverted : diff.Reverts wrapping.tree wrapping.wrapped wrapping.image) :
    set.get? .deleteStatement = some [.deleteStatement wrapping.place] ∧
      set.get? .insertStatement = some [] ∧
      set.get? .unwrapStatement = some [.unwrapStatement wrapping.place wrapping.place] ∧
      set.get? .wrapStatement = some [] := by
  have deleted := finds.get?_needed unwraps (show .deleteStatement ∈ _ by decide)
  have inserted := finds.get?_needed wraps (show .insertStatement ∈ _ by decide)
  have gone : Detection.deleted (.make diff edits) = [wrapping.place] :=
    wrapping.deleted_eq reverted
  have fresh : Detection.inserted (.make diff edits) = [] := Detection.inserted_of_reverts reverted
  have pair := (reverted.pairs _ _).mpr ⟨wrapping.place_lt, rfl⟩
  have bare := wrapping.bareIf?_place
  have content := wrapping.unwrapBlock_branchPlace
  rw [← reverted.before] at bare content
  rw [← wrapping.image_place] at content
  have wrapper : set.deletedStatements = [wrapping.place] := by
    rw [Detection.deletedStatements_eq deleted, gone]
  have nothing : set.insertedStatements = [] := by
    rw [Detection.insertedStatements_eq inserted, fresh]
    rfl
  refine ⟨Detection.get?_deleted deleted gone, Detection.get?_inserted inserted fresh, ?_, ?_⟩
  · rw [finds.get?_eq unwraps]
    exact congrArg some (Detection.unwrapStatement_eq wrapper bare content pair)
  · rw [finds.get?_eq wraps]
    exact congrArg some (Detection.wrapStatement_of_nothing _ nothing)

/-- Guards are recognised in every place. If a statement comes under a guard and the script inserts
what is new and moves the statement, then the if-statement is all that is inserted, nothing is
deleted, and the statement is wrapped and nothing else. If the guard is taken away again, then the
if-statement is all that is deleted, nothing is inserted, and the statement is unwrapped and nothing
else, whatever the script says. -/
theorem mine_wrappings {registry : Registry} (accepted : Registry.ofKinds kinds = .ok registry)
    (wraps : .wrapStatement ∈ kinds) (unwraps : .unwrapStatement ∈ kinds)
    (storage : Storage (StateM σ)) (wrapping : Wrapping) (diff : Diff) (state : σ) :
    (Arena.ofTree wrapping.wrapped).condition? wrapping.place = some wrapping.guardPlace ∧
      (∀ node, node ≠ wrapping.place →
        (Arena.ofTree wrapping.wrapped).attributes? (wrapping.image node) =
          (Arena.ofTree wrapping.tree).attributes? node) ∧
      ∃ outcome, ((Miner.mk registry none).mine storage diff).run state = (.ok outcome, state) ∧
        outcome.isAnalyzed = diff.edits.isSome ∧
        ∀ set, outcome.actions? = some set →
          (∀ script, diff.edits = some script →
            diff.Extends wrapping.tree wrapping.wrapped wrapping.image →
            diff.InsertsAndMoves script wrapping.place (wrapping.image wrapping.place) →
            set.get? .insertStatement = some [.insertStatement wrapping.place wrapping.parent] ∧
            set.get? .deleteStatement = some [] ∧
            set.get? .wrapStatement =
              some [.wrapStatement wrapping.place wrapping.place wrapping.guardPlace] ∧
            set.get? .unwrapStatement = some []) ∧
          (diff.Reverts wrapping.tree wrapping.wrapped wrapping.image →
            set.get? .deleteStatement = some [.deleteStatement wrapping.place] ∧
            set.get? .insertStatement = some [] ∧
            set.get? .unwrapStatement = some [.unwrapStatement wrapping.place wrapping.place] ∧
            set.get? .wrapStatement = some []) := by
  refine ⟨wrapping.part?_place _, fun node => wrapping.attributes?_image, ?_⟩
  obtain ⟨outcome, mined, analyzed, found⟩ := mine_accepted accepted storage diff state
  refine ⟨outcome, mined, analyzed, ?_⟩
  intro set there
  obtain ⟨edits, scripted, finds, _⟩ := found set there
  constructor
  · intro script same extended moves
    obtain rfl := Option.some.inj (scripted.symm.trans same)
    exact finds.wraps wraps unwraps wrapping extended moves
  · intro reverted
    exact finds.unwraps wraps unwraps wrapping reverted

end Miner

/-- A loop between two statements, and a guard with a block in its place. -/
def Wrapping.middle : Wrapping where
  tree := .node ⟨.translationUnit, none, none, none⟩
    [.node ⟨.block, none, none, none⟩
      [.node ⟨.exprStatement, none, none, none⟩ [],
        .node ⟨.whileLoop, none, none, none⟩
          [.node ⟨.identity, some "n", some .condition, none⟩ [],
            .node ⟨.exprStatement, none, some .body, none⟩ []],
        .node ⟨.returnStatement, none, none, none⟩ []]]
  parent := 1
  around := .node ⟨.block, none, none, none⟩
    [.node ⟨.exprStatement, none, none, none⟩ [],
      .node ⟨.whileLoop, none, none, none⟩
        [.node ⟨.identity, some "n", some .condition, none⟩ [],
          .node ⟨.exprStatement, none, some .body, none⟩ []],
      .node ⟨.returnStatement, none, none, none⟩ []]
  position := 1
  found := rfl
  fits := by decide
  stmt := .node ⟨.whileLoop, none, none, none⟩
    [.node ⟨.identity, some "n", some .condition, none⟩ [],
      .node ⟨.exprStatement, none, some .body, none⟩ []]
  child := rfl
  statement := by decide
  plain := by decide
  outer := ⟨.ifElse, none, none, none⟩
  isIf := by decide
  guard := .node ⟨.identity, some "p", some .condition, none⟩ []
  condition := by decide
  inner := ⟨.whileLoop, none, none, none⟩
  sameKind := by decide
  block := some ⟨.block, none, some .thenBranch, none⟩
  isBlock := by decide
  branches := by decide
  guardFirst := true

def Diff.wrapped : Diff where
  id := ⟨"r", "f", "a.c"⟩
  before := .ofTree Wrapping.middle.tree
  after := .ofTree Wrapping.middle.wrapped
  correspondence := ⟨[(0, 0), (1, 1), (2, 2), (3, 6), (4, 7), (5, 8), (6, 9)], by decide, by decide⟩
  edits := some [.insert 3, .insert 4, .insert 5, .move 3 6]
  fixFiles := ["a.c"]
  in_trees := by decide

/-- The loop comes out of its guard and block, by a script that does not mention the block. -/
def Diff.unwrapped : Diff where
  id := ⟨"r", "f", "a.c"⟩
  before := .ofTree Wrapping.middle.wrapped
  after := .ofTree Wrapping.middle.tree
  correspondence := ⟨[(0, 0), (1, 1), (2, 2), (6, 3), (7, 4), (8, 5), (9, 6)], by decide, by decide⟩
  edits := some [.move 6 3, .delete 3]
  fixFiles := ["a.c"]
  in_trees := by decide

theorem Diff.insertsAndMoves_wrapped :
    Diff.wrapped.InsertsAndMoves [.insert 3, .insert 4, .insert 5, .move 3 6] 3 6 := by
  intro op
  simp only [List.mem_cons, List.not_mem_nil, or_false, ← mapsAfter_iff, Arena.contains_iff]
  constructor
  · rintro (rfl | rfl | rfl | rfl)
    · exact .inr ⟨3, by decide, by decide, rfl⟩
    · exact .inr ⟨4, by decide, by decide, rfl⟩
    · exact .inr ⟨5, by decide, by decide, rfl⟩
    · exact .inl rfl
  · rintro (rfl | ⟨node, inside, fresh, rfl⟩)
    · decide
    · have new : ∀ node < Diff.wrapped.after.size,
          ¬ Diff.wrapped.correspondence.mapsAfter node = true → node = 3 ∨ node = 4 ∨ node = 5 := by
        decide
      rcases new node inside fresh with rfl | rfl | rfl <;> decide

namespace Miner

theorem mine_wrappings_middle :
    ∃ (registry : Registry) (outcome back : MiningOutcome) (set undone : ActionSet),
      Registry.ofKinds
        [.deleteStatement, .insertStatement, .modifyStatement, .wrapStatement, .unwrapStatement] =
          .ok registry ∧
      ((Miner.mk registry none).mine Disk.storage .wrapped).run .empty = (.ok outcome, .empty) ∧
      outcome.actions? = some set ∧
      set.get? .wrapStatement = some [.wrapStatement 3 3 4] ∧
      set.get? .unwrapStatement = some [] ∧
      ((Miner.mk registry none).mine Disk.storage .unwrapped).run .empty = (.ok back, .empty) ∧
      back.actions? = some undone ∧
      undone.get? .unwrapStatement = some [.unwrapStatement 3 3] ∧
      undone.get? .wrapStatement = some [] := by
  have accepted : Registry.ofKinds
      [.deleteStatement, .insertStatement, .modifyStatement, .wrapStatement, .unwrapStatement] =
      .ok (.builtin
        [.deleteStatement, .insertStatement, .modifyStatement, .wrapStatement,
          .unwrapStatement]) :=
    Registry.ofKinds_ok_iff.mpr ⟨by decide, by unfold Pipeline.Closed; decide, rfl⟩
  obtain ⟨_, _, outcome, mined, analyzed, found⟩ := mine_wrappings accepted (by decide) (by decide)
    Disk.storage .middle .wrapped .empty
  obtain ⟨_, _, back, alsoMined, alsoAnalyzed, alsoFound⟩ := mine_wrappings accepted (by decide)
    (by decide) Disk.storage .middle .unwrapped .empty
  cases outcome with
  | notAnalyzable reason => cases analyzed
  | analyzed set stats =>
    cases back with
    | notAnalyzable reason => cases alsoAnalyzed
    | analyzed undone alsoStats =>
      obtain ⟨_, _, wrapped, kept⟩ := (found set rfl).1 _ rfl (.of_pairs rfl rfl (by decide))
        Diff.insertsAndMoves_wrapped
      obtain ⟨_, _, unwrapped, alsoKept⟩ := (alsoFound undone rfl).2
        (.of_pairs rfl rfl (by decide))
      exact ⟨_, _, _, set, undone, accepted, mined, rfl, wrapped, kept, alsoMined, rfl, unwrapped,
        alsoKept⟩

end Miner

end RepairMining
