import RepairMining.Proofs.Mining.Attribution

namespace RepairMining

namespace Arena

variable {arena : Arena} {stmt loop : Nat}

def GuardsLoop (arena : Arena) (stmt : Nat) : Prop :=
  arena.role? stmt = some .condition ∧
    ∃ parent, arena.parent? stmt = some parent ∧ arena.hasKind parent .forLoop = true

/-- The guard of a for-loop belongs to the loop, any other statement to itself. -/
inductive Owns (arena : Arena) (loop : Nat) : Nat → Prop
  | guard {stmt : Nat} (role : arena.role? stmt = some .condition)
      (parent : arena.parent? stmt = some loop) (kind : arena.hasKind loop .forLoop = true) :
      Owns arena loop stmt
  | itself (free : ¬ arena.GuardsLoop loop) : Owns arena loop loop

theorem guardOwner_of_guard (role : arena.role? stmt = some .condition)
    (parent : arena.parent? stmt = some loop) (kind : arena.hasKind loop .forLoop = true) :
    Detection.guardOwner arena stmt = loop := by
  simp only [Detection.guardOwner, role, parent, kind, beq_self_eq_true, if_true]

theorem guardOwner_eq_self (free : ¬ arena.GuardsLoop stmt) :
    Detection.guardOwner arena stmt = stmt := by
  rw [Detection.guardOwner]
  split
  · rename_i guards
    cases known : arena.parent? stmt with
    | none => rfl
    | some parent =>
      apply if_neg
      intro loop
      exact free ⟨beq_iff_eq.mp guards, parent, known, loop⟩
  · rfl

theorem owns_iff : arena.Owns loop stmt ↔ Detection.guardOwner arena stmt = loop := by
  constructor
  · intro owns
    cases owns with
    | guard role parent kind => exact guardOwner_of_guard role parent kind
    | itself free => exact guardOwner_eq_self free
  · rintro rfl
    by_cases guards : arena.GuardsLoop stmt
    · obtain ⟨role, parent, known, kind⟩ := guards
      rw [guardOwner_of_guard role known kind]
      exact .guard role known kind
    · rw [guardOwner_eq_self guards]
      exact .itself guards

end Arena

namespace Diff

/-- A pair of loops with different guards, if a modified statement is the loop or its guard. -/
structure Reguards (diff : Diff) (script : List EditOp) (pair : Nat × Nat) : Prop where
  wasLoop : diff.before.isLoop pair.1 = true
  isLoop : diff.after.isLoop pair.2 = true
  owned : ∃ before after, diff.Modifies script before after ∧
    diff.before.Owns pair.1 before ∧ diff.after.Owns pair.2 after
  differs : (Context.make diff script).equivalent (diff.before.condition? pair.1)
    (diff.after.condition? pair.2) = false

/-- No modified guard has come from one loop to another. -/
def GuardsStay (diff : Diff) (script : List EditOp) : Prop :=
  ∀ before after, diff.Modifies script before after →
    ∀ loop other, diff.before.Owns loop before → diff.after.Owns other after →
      diff.before.isLoop loop = true → diff.after.isLoop other = true →
        (loop, other) ∈ diff.correspondence.pairs

def guardAction (diff : Diff) (pair : Nat × Nat) : RepairAction :=
  .replaceLoopGuard pair.1 pair.2 (diff.before.condition? pair.1) (diff.after.condition? pair.2)

theorem Reguards.counterparts {diff : Diff} {script : List EditOp} {pair : Nat × Nat}
    (reguards : diff.Reguards script pair) (stay : diff.GuardsStay script) :
    pair ∈ diff.correspondence.pairs := by
  obtain ⟨before, after, modifies, owns, alsoOwns⟩ := reguards.owned
  exact stay before after modifies pair.1 pair.2 owns alsoOwns reguards.wasLoop reguards.isLoop

end Diff

namespace Detection

variable {diff : Diff} {script : List EditOp} {set : ActionSet} {pair : Nat × Nat}

def reguardedLoops (context : Context) (set : ActionSet) : List (Nat × Nat) :=
  (modifiedLoops context set).filter fun pair =>
    !context.equivalent (context.before.condition? pair.1) (context.after.condition? pair.2)

theorem replaceLoopGuard_finds (diff : Diff) (script : List EditOp) (set : ActionSet) :
    replaceLoopGuard.finds (.make diff script) set =
      (reguardedLoops (.make diff script) set).map diff.guardAction := by
  rw [← List.filterMap_eq_map, reguardedLoops, List.filterMap_filter]
  simp only [replaceLoopGuard]
  congr 1
  funext pair
  cases (Context.make diff script).equivalent
    ((Context.make diff script).before.condition? pair.1)
    ((Context.make diff script).after.condition? pair.2) <;> rfl

theorem nodup_reguardedLoops (context : Context) (set : ActionSet) :
    (reguardedLoops context set).Nodup :=
  (nodup_eraseDups _).filter _

theorem mem_reguardedLoops
    (found : set.get? .modifyStatement = some (modifyStatement.finds (.make diff script) set)) :
    pair ∈ reguardedLoops (.make diff script) set ↔ diff.Reguards script pair := by
  rw [reguardedLoops, List.mem_filter, modifiedLoops, List.mem_eraseDups, List.mem_filter,
    List.mem_map, Bool.not_eq_true', Bool.and_eq_true]
  constructor
  · rintro ⟨⟨⟨⟨before, after⟩, member, rfl⟩, wasLoop, isLoop⟩, differs⟩
    exact ⟨wasLoop, isLoop, ⟨before, after, (mem_modifiedStatements found).mp member,
      Arena.owns_iff.mpr rfl, Arena.owns_iff.mpr rfl⟩, differs⟩
  · rintro ⟨wasLoop, isLoop, ⟨before, after, modifies, owns, alsoOwns⟩, differs⟩
    exact ⟨⟨⟨(before, after), (mem_modifiedStatements found).mpr modifies,
      Prod.ext (Arena.owns_iff.mp owns) (Arena.owns_iff.mp alsoOwns)⟩, wasLoop, isLoop⟩, differs⟩

end Detection

namespace Miner

variable {σ : Type} {kinds : List ActionKind}

theorem Finds.reguardedLoops {diff : Diff} {script : List EditOp} {set : ActionSet}
    (finds : Finds diff script kinds set) (listed : .replaceLoopGuard ∈ kinds) :
    ∃ loops : List (Nat × Nat), set.get? .replaceLoopGuard = some (loops.map diff.guardAction) ∧
      loops.Nodup ∧ ∀ pair, pair ∈ loops ↔ diff.Reguards script pair := by
  have modified := finds.get?_needed listed
    (show .modifyStatement ∈ (Detection.rule .replaceLoopGuard).needs by decide)
  refine ⟨Detection.reguardedLoops (.make diff script) set, ?_,
    Detection.nodup_reguardedLoops _ _, fun pair => Detection.mem_reguardedLoops modified⟩
  rw [finds.get?_eq listed]
  exact congrArg some (Detection.replaceLoopGuard_finds diff script set)

/-- Reported are the pairs of loops with different guards in which a modified statement is the loop
before or its guard and the counterpart of the statement is the loop after or its guard, each pair
once. So if no modified guard has come to a loop other than the counterpart of the one that it was
in, every report is about a loop and its counterpart, and no loop is in two of them. -/
theorem mine_loopGuards {registry : Registry} (accepted : Registry.ofKinds kinds = .ok registry)
    (listed : .replaceLoopGuard ∈ kinds) (storage : Storage (StateM σ)) (diff : Diff) (state : σ) :
    ∃ outcome, ((Miner.mk registry none).mine storage diff).run state = (.ok outcome, state) ∧
      outcome.isAnalyzed = diff.edits.isSome ∧
      ∀ set, outcome.actions? = some set →
        ∃ (script : List EditOp) (loops : List (Nat × Nat)), diff.edits = some script ∧
          set.get? .replaceLoopGuard = some (loops.map diff.guardAction) ∧
          loops.Nodup ∧ (∀ pair, pair ∈ loops ↔ diff.Reguards script pair) ∧
          (diff.GuardsStay script →
            (∀ pair ∈ loops, pair ∈ diff.correspondence.pairs) ∧
            (loops.map Prod.fst).Nodup ∧ (loops.map Prod.snd).Nodup) := by
  obtain ⟨outcome, mined, analyzed, found⟩ := mine_accepted accepted storage diff state
  refine ⟨outcome, mined, analyzed, ?_⟩
  intro set there
  obtain ⟨script, scripted, finds, _⟩ := found set there
  obtain ⟨loops, present, once, member⟩ := finds.reguardedLoops listed
  refine ⟨script, loops, scripted, present, once, member, ?_⟩
  intro stay
  have counterparts : ∀ pair ∈ loops, pair ∈ diff.correspondence.pairs := by
    intro pair reported
    exact ((member pair).mp reported).counterparts stay
  refine ⟨counterparts, once.map_on ?_, once.map_on ?_⟩
  · intro one reported other alsoReported same
    exact Prod.ext same ((diff.correspondence.oneToOne_pairs _ (counterparts one reported) _
      (counterparts other alsoReported)).mp same)
  · intro one reported other alsoReported same
    exact Prod.ext ((diff.correspondence.oneToOne_pairs _ (counterparts one reported) _
      (counterparts other alsoReported)).mpr same) same

end Miner

/-- A loop that loses its guard. -/
def Diff.unguarded : Diff where
  id := ⟨"r", "f", "a.c"⟩
  before := .ofTree (.node ⟨.translationUnit, none, none, none⟩
    [.node ⟨.forLoop, none, none, none⟩
      [.node ⟨.exprStatement, none, some .condition, none⟩
          [.node ⟨.identity, some "n", none, none⟩ []],
        .node ⟨.block, none, some .body, none⟩ []]])
  after := .ofTree (.node ⟨.translationUnit, none, none, none⟩
    [.node ⟨.forLoop, none, none, none⟩ [.node ⟨.block, none, some .body, none⟩ []]])
  correspondence := ⟨[(0, 0), (1, 1), (4, 2)], by decide, by decide⟩
  edits := some [.delete 3, .delete 2]
  fixFiles := ["a.c"]
  in_trees := by decide

namespace Miner

theorem accepted_replaceLoopGuard :
    Registry.ofKinds [.modifyStatement, .replaceLoopGuard] =
      .ok (.builtin [.modifyStatement, .replaceLoopGuard]) :=
  Registry.ofKinds_ok_iff.mpr ⟨by decide, by unfold Pipeline.Closed; decide, rfl⟩

end Miner

theorem Diff.guardsStay_unguarded : Diff.unguarded.GuardsStay [.delete 3, .delete 2] := by
  have stays : ∀ pair ∈ Diff.unguarded.correspondence.pairs,
      (Detection.guardOwner Diff.unguarded.before pair.1,
        Detection.guardOwner Diff.unguarded.after pair.2) ∈
          Diff.unguarded.correspondence.pairs := by decide
  intro before after modifies loop other owns alsoOwns _ _
  rw [← Arena.owns_iff.mp owns, ← Arena.owns_iff.mp alsoOwns]
  exact stays (before, after) modifies.1

theorem Diff.reguards_unguarded : Diff.unguarded.Reguards [.delete 3, .delete 2] (1, 1) where
  wasLoop := by decide
  isLoop := by decide
  owned := ⟨1, 1, ⟨by decide, .delete 2, by decide,
    Detection.touches_of_subjects (by decide) (by decide)⟩,
    Arena.owns_iff.mpr (by decide), Arena.owns_iff.mpr (by decide)⟩
  differs := rfl

namespace Miner

theorem mine_loopGuards_unguarded :
    ∃ (registry : Registry) (outcome : MiningOutcome) (set : ActionSet)
      (loops : List (Nat × Nat)),
      Registry.ofKinds [.modifyStatement, .replaceLoopGuard] = .ok registry ∧
      ((Miner.mk registry none).mine Disk.storage .unguarded).run .empty =
        (.ok outcome, .empty) ∧
      outcome.actions? = some set ∧
      set.get? .replaceLoopGuard = some (loops.map Diff.unguarded.guardAction) ∧
      (1, 1) ∈ loops ∧ (loops.map Prod.fst).Nodup ∧ (loops.map Prod.snd).Nodup := by
  obtain ⟨outcome, mined, analyzed, found⟩ :=
    mine_loopGuards accepted_replaceLoopGuard (by decide) Disk.storage .unguarded .empty
  cases outcome with
  | notAnalyzable reason => cases analyzed
  | analyzed set stats =>
    obtain ⟨script, loops, scripted, there, _, member, law⟩ := found set rfl
    obtain rfl := Option.some.inj scripted
    obtain ⟨_, first, second⟩ := law Diff.guardsStay_unguarded
    exact ⟨_, _, set, loops, accepted_replaceLoopGuard, mined, rfl, there,
      (member _).mpr Diff.reguards_unguarded, first, second⟩

end Miner

/-- The guard moves on, changed, to a new loop in the body of its loop. -/
def Diff.renested : Diff where
  id := ⟨"r", "f", "a.c"⟩
  before := Diff.unguarded.before
  after := .ofTree (.node ⟨.translationUnit, none, none, none⟩
    [.node ⟨.forLoop, none, none, none⟩
      [.node ⟨.block, none, some .body, none⟩
        [.node ⟨.forLoop, none, none, none⟩
          [.node ⟨.exprStatement, none, some .condition, none⟩
              [.node ⟨.identity, some "m", none, none⟩ []],
            .node ⟨.block, none, some .body, none⟩ []]]]])
  correspondence := ⟨[(0, 0), (1, 1), (2, 4), (3, 5), (4, 2)], by decide, by decide⟩
  edits := some [.insert 3, .insert 6, .move 2 4, .update 3 5]
  fixFiles := ["a.c"]
  in_trees := by decide

theorem Diff.reguards_renested :
    Diff.renested.Reguards [.insert 3, .insert 6, .move 2 4, .update 3 5] (1, 1) where
  wasLoop := by decide
  isLoop := by decide
  owned := ⟨1, 1, ⟨by decide, .move 2 4, by decide,
    Detection.touches_of_subjects (by decide) (by decide)⟩,
    Arena.owns_iff.mpr (by decide), Arena.owns_iff.mpr (by decide)⟩
  differs := rfl

theorem Diff.reguards_renested_inner :
    Diff.renested.Reguards [.insert 3, .insert 6, .move 2 4, .update 3 5] (1, 3) where
  wasLoop := by decide
  isLoop := by decide
  owned := ⟨2, 4, ⟨by decide, .update 3 5, by decide,
    Detection.touches_of_subjects (by decide) (by decide)⟩,
    Arena.owns_iff.mpr (by decide), Arena.owns_iff.mpr (by decide)⟩
  differs := by decide +kernel

namespace Miner

/-- If a guard has moved to another loop, its old loop is reported with that one, though they are no
counterparts, and with its counterpart. -/
theorem mine_loopGuards_renested :
    ∃ (registry : Registry) (outcome : MiningOutcome) (set : ActionSet)
      (found : List RepairAction),
      Registry.ofKinds [.modifyStatement, .replaceLoopGuard] = .ok registry ∧
      ((Miner.mk registry none).mine Disk.storage .renested).run .empty =
        (.ok outcome, .empty) ∧
      outcome.actions? = some set ∧ set.get? .replaceLoopGuard = some found ∧
      .replaceLoopGuard 1 1 (some 2) none ∈ found ∧
      .replaceLoopGuard 1 3 (some 2) (some 4) ∈ found ∧
      (1, 3) ∉ Diff.renested.correspondence.pairs := by
  obtain ⟨outcome, mined, analyzed, found⟩ :=
    mine_accepted accepted_replaceLoopGuard Disk.storage .renested .empty
  cases outcome with
  | notAnalyzable reason => cases analyzed
  | analyzed set stats =>
    obtain ⟨script, scripted, finds, _⟩ := found set rfl
    obtain rfl := Option.some.inj scripted
    obtain ⟨loops, there, _, member⟩ := finds.reguardedLoops (by decide)
    refine ⟨_, _, set, _, accepted_replaceLoopGuard, mined, rfl, there, ?_, ?_, by decide⟩
    · exact List.mem_map.mpr ⟨(1, 1), (member _).mpr Diff.reguards_renested, by decide⟩
    · exact List.mem_map.mpr ⟨(1, 3), (member _).mpr Diff.reguards_renested_inner, by decide⟩

end Miner

end RepairMining
