import RepairMining.Proofs.Mining.Insertions

namespace RepairMining

/-- The node is the else-branch, or stands directly in a block that is the else-branch. -/
inductive Arena.ElseHolds (arena : Arena) (outer node : Nat) : Prop
  | branch (found : arena.elseBranch? outer = some node)
  | block {block : Nat} (found : arena.elseBranch? outer = some block)
      (kind : arena.hasKind block .block = true) (known : arena.parent? node = some block)

namespace Diff

/-- A branch comes from an old one, each with or without its block. -/
def TakesOver (diff : Diff) (old branch : Nat) : Prop :=
  ∃ pair ∈ diff.correspondence.pairs,
    (pair.1 = old ∨ pair.1 = diff.before.unwrapBlock old) ∧
      (pair.2 = branch ∨ pair.2 = diff.after.unwrapBlock branch)

/-- The else-branch of an if-statement stands under a new guard in the else-branch of its
counterpart. -/
structure GuardsElse (diff : Diff) (outer counterpart stmt guard : Nat) : Prop where
  pair : (outer, counterpart) ∈ diff.correspondence.pairs
  wasIf : diff.before.hasKind outer .ifElse = true
  isIf : diff.after.hasKind counterpart .ifElse = true
  held : diff.after.ElseHolds counterpart stmt
  kind : diff.after.hasKind stmt .ifElse = true
  fresh : ¬ diff.Inherited stmt
  bare : diff.after.elseBranch? stmt = none
  condition : diff.after.condition? stmt = some guard
  content : ∃ old branch, diff.before.elseBranch? outer = some old ∧
    diff.after.thenBranch? stmt = some branch ∧ diff.TakesOver old branch

end Diff

namespace Detection

variable {diff : Diff} {edits : List EditOp} {set : ActionSet} {stmt outer guard branch : Nat}

theorem bareIf?_eq_some_iff {arena : Arena} :
    bareIf? arena stmt = some (guard, branch) ↔ arena.hasKind stmt .ifElse = true ∧
      arena.elseBranch? stmt = none ∧ arena.condition? stmt = some guard ∧
      arena.thenBranch? stmt = some branch := by
  rw [bareIf?, ← and_assoc, ← Option.isNone_iff_eq_none, ← Bool.and_eq_true]
  split
  · rename_i bare
    cases arena.condition? stmt <;> cases arena.thenBranch? stmt <;> simp [bare]
  · rename_i other
    exact iff_of_false (by simp) fun bare => other bare.1

/-- The statement around an else-branch or around a block that is one. -/
def aroundElse? (arena : Arena) (parent : Nat) : Option Nat :=
  if arena.hasKind parent .block && arena.role? parent == some .elseBranch then
    arena.parent? parent
  else some parent

theorem role?_of_part? {arena : Arena} {node child : Nat} {role : Role}
    (found : arena.part? node role = some child) : arena.role? child = some role := by
  have passed := List.find?_some found
  exact beq_iff_eq.mp passed

theorem ifAroundElse?_eq (context : Context) (node : Nat) :
    ifAroundElse? context node =
      (context.after.parent? node).bind fun parent =>
        (aroundElse? context.after parent).bind fun outer =>
          (context.after.elseBranch? outer).bind fun branch =>
            if context.after.hasKind outer .ifElse &&
                context.after.isAncestorOrSelf branch node then some outer
            else none := by
  rw [ifAroundElse?]
  cases context.after.parent? node with
  | none => rfl
  | some parent =>
    rw [Option.bind_some, aroundElse?]
    dsimp only
    cases (if context.after.hasKind parent .block &&
      context.after.role? parent == some .elseBranch then context.after.parent? parent
      else some parent) with
    | none => rfl
    | some outer =>
      rw [Option.bind_some]
      dsimp only
      cases context.after.elseBranch? outer <;> rfl

theorem ifAroundElse?_steps {node : Nat} :
    ifAroundElse? (.make diff edits) node = some outer ↔
      ∃ parent, diff.after.parent? node = some parent ∧
        aroundElse? diff.after parent = some outer ∧
        ∃ branch, diff.after.elseBranch? outer = some branch ∧
          diff.after.hasKind outer .ifElse = true ∧ branch ∈ diff.after.chain node := by
  simp only [ifAroundElse?_eq, Option.bind_eq_some_iff, Option.ite_none_right_eq_some,
    Bool.and_eq_true, Arena.isAncestorOrSelf_iff, Option.some.injEq]
  constructor
  · rintro ⟨parent, known, _, around, branch, found, ⟨isIf, above⟩, rfl⟩
    exact ⟨parent, known, around, branch, found, isIf, above⟩
  · rintro ⟨parent, known, around, branch, found, isIf, above⟩
    exact ⟨parent, known, outer, around, branch, found, ⟨isIf, above⟩, rfl⟩

theorem ifAroundElse?_eq_some_iff {node : Nat} :
    ifAroundElse? (.make diff edits) node = some outer ↔
      diff.after.hasKind outer .ifElse = true ∧ diff.after.ElseHolds outer node := by
  rw [ifAroundElse?_steps]
  constructor
  · rintro ⟨parent, known, around, branch, found, isIf, above⟩
    refine ⟨isIf, ?_⟩
    -- The branch and what the search came from are children of one node and lie above another.
    have child := Arena.parent?_part found
    rw [aroundElse?] at around
    split at around
    · rename_i block
      obtain rfl := Arena.eq_of_siblings child around above (Arena.parent_mem_chain known)
      exact .block found (Bool.and_eq_true_iff.mp block).1 known
    · obtain rfl := Option.some.inj around
      obtain rfl := Arena.eq_of_siblings child known above
        (Arena.mem_chain_self (Arena.contains_of_parent? known))
      exact .branch found
  · rintro ⟨isIf, found | ⟨found, kind, known⟩⟩
    · have known := Arena.parent?_part found
      refine ⟨outer, known, ?_, node, found, isIf, ?_⟩
      · have noBlock := hasKind_unique isIf (show NodeKind.ifElse ≠ .block by decide)
        rw [aroundElse?, noBlock]
        rfl
      · exact Arena.mem_chain_self (Arena.contains_of_parent? known)
    · have upward := Arena.parent?_part found
      refine ⟨_, known, ?_, _, found, isIf, Arena.parent_mem_chain known⟩
      rw [aroundElse?, kind, role?_of_part? found]
      exact upward

theorem takesOver_iff {old : Nat} :
    takesOver (.make diff edits) branch old = true ↔ diff.TakesOver old branch := by
  simp only [takesOver, List.any_eq_true, List.mem_filterMap, decide_eq_true_eq, List.mem_cons,
    List.not_mem_nil, or_false, Context.beforeOf, Correspondence.before?_eq_some_iff]
  constructor
  · rintro ⟨source, ⟨target, new, listed⟩, old⟩
    exact ⟨(source, target), listed, old, new⟩
  · rintro ⟨⟨source, target⟩, listed, old, new⟩
    exact ⟨source, ⟨target, new, listed⟩, old⟩

theorem guardedElse?_eq (context : Context) (stmt : Nat) :
    guardedElse? context stmt =
      (bareIf? context.after stmt).bind fun parts =>
        ((ifAroundElse? context stmt).bind context.beforeOf).map
          fun counterpart => (counterpart, parts.1, parts.2) := by
  rw [guardedElse?]
  cases bareIf? context.after stmt with
  | none => rfl
  | some parts =>
    rw [Option.bind_some]
    dsimp only
    cases (ifAroundElse? context stmt).bind context.beforeOf <;> rfl

theorem guardedElse?_eq_some_iff :
    guardedElse? (.make diff edits) stmt = some (outer, guard, branch) ↔
      bareIf? diff.after stmt = some (guard, branch) ∧
        ∃ counterpart, ifAroundElse? (.make diff edits) stmt = some counterpart ∧
          (outer, counterpart) ∈ diff.correspondence.pairs := by
  simp only [guardedElse?_eq, Option.bind_eq_some_iff, Option.map_eq_some_iff, Context.beforeOf,
    Correspondence.before?_eq_some_iff]
  constructor
  · rintro ⟨parts, bare, _, ⟨counterpart, around, listed⟩, shape⟩
    cases shape
    exact ⟨bare, counterpart, around, listed⟩
  · rintro ⟨bare, counterpart, around, listed⟩
    exact ⟨_, bare, outer, ⟨counterpart, around, listed⟩, rfl⟩

theorem exists_guardsElse_iff (fresh : ¬ diff.Inherited stmt) :
    (∃ counterpart, diff.GuardsElse outer counterpart stmt guard) ↔
      ∃ branch old, guardedElse? (.make diff edits) stmt = some (outer, guard, branch) ∧
        diff.before.hasKind outer .ifElse = true ∧ diff.before.elseBranch? outer = some old ∧
        takesOver (.make diff edits) branch old = true := by
  simp only [guardedElse?_eq_some_iff, bareIf?_eq_some_iff, ifAroundElse?_eq_some_iff,
    takesOver_iff]
  constructor
  · rintro ⟨counterpart, guards⟩
    obtain ⟨old, branch, elseBranch, thenBranch, takes⟩ := guards.content
    exact ⟨branch, old, ⟨⟨guards.kind, guards.bare, guards.condition, thenBranch⟩,
      counterpart, ⟨guards.isIf, guards.held⟩, guards.pair⟩, guards.wasIf, elseBranch, takes⟩
  · rintro ⟨branch, old, ⟨⟨kind, bare, condition, thenBranch⟩, counterpart, ⟨isIf, held⟩, pair⟩,
      wasIf, elseBranch, takes⟩
    exact ⟨counterpart, pair, wasIf, isIf, held, kind, fresh, bare, condition,
      old, branch, elseBranch, thenBranch, takes⟩

theorem mem_guardElseBranch {action : RepairAction}
    (found : set.get? .insertStatement = some (insertStatement.finds (.make diff edits) set)) :
    action ∈ guardElseBranch.finds (.make diff edits) set ↔
      ∃ outer counterpart stmt guard, action = .guardElseBranch outer stmt guard ∧
        diff.GuardsElse outer counterpart stmt guard ∧
        ∃ parent, diff.after.parent? stmt = some parent ∧ diff.Inherited parent := by
  simp only [guardElseBranch, List.mem_filterMap]
  constructor
  · rintro ⟨stmt, listed, shape⟩
    have inserts := (mem_insertedStatements found).mp listed
    split at shape
    · cases shape
    · rename_i outer guard branch guarded
      split at shape
      · rename_i wasIf
        split at shape
        · cases shape
        · rename_i old elseBranch
          split at shape
          · rename_i takes
            obtain rfl := Option.some.inj shape
            obtain ⟨counterpart, guards⟩ := (exists_guardsElse_iff inserts.fresh).mpr
              ⟨branch, old, guarded, wasIf, elseBranch, takes⟩
            exact ⟨outer, counterpart, stmt, guard, rfl, guards, inserts.attached⟩
          · cases shape
      · cases shape
  · rintro ⟨outer, counterpart, stmt, guard, rfl, guards, attached⟩
    have statement := Arena.isStatement_iff.mpr ⟨_, Arena.hasKind_iff.mp guards.kind, rfl⟩
    have inserts : diff.Inserts stmt := ⟨statement, guards.fresh, attached⟩
    obtain ⟨branch, old, guarded, wasIf, elseBranch, takes⟩ :=
      (exists_guardsElse_iff guards.fresh).mp ⟨counterpart, guards⟩
    refine ⟨stmt, (mem_insertedStatements found).mpr inserts, ?_⟩
    have isIf : (Context.make diff edits).before.hasKind outer .ifElse = true := wasIf
    have alsoElse : (Context.make diff edits).before.elseBranch? outer = some old := elseBranch
    rw [guarded]
    dsimp only
    rw [if_pos isIf, alsoElse]
    exact if_pos takes

end Detection

namespace Miner

variable {σ : Type} {kinds : List ActionKind}

theorem Finds.mem_guardElseBranch {diff : Diff} {edits : List EditOp} {set : ActionSet}
    (finds : Finds diff edits kinds set) (listed : .guardElseBranch ∈ kinds) :
    ∃ found, set.get? .guardElseBranch = some found ∧
      ∀ action, action ∈ found ↔
        ∃ outer counterpart stmt guard, action = .guardElseBranch outer stmt guard ∧
          diff.GuardsElse outer counterpart stmt guard ∧
          ∃ parent, diff.after.parent? stmt = some parent ∧ diff.Inherited parent := by
  have inserted := finds.get?_needed listed
    (show .insertStatement ∈ (Detection.rule .guardElseBranch).needs by decide)
  exact ⟨_, finds.get?_eq listed, fun _ => Detection.mem_guardElseBranch inserted⟩

/-- A guarded else-branch is reported, once, exactly if the node in which its new guard stands is
not new. So it is never missed where the guard stands in the else-branch without a block of its own,
or in a block that has a counterpart. -/
theorem mine_guardedElses {registry : Registry} (accepted : Registry.ofKinds kinds = .ok registry)
    (listed : .guardElseBranch ∈ kinds) (storage : Storage (StateM σ)) (diff : Diff) (state : σ) :
    ∃ outcome, ((Miner.mk registry none).mine storage diff).run state = (.ok outcome, state) ∧
      outcome.isAnalyzed = diff.edits.isSome ∧
      ∀ set, outcome.actions? = some set →
        ∃ found, set.get? .guardElseBranch = some found ∧ found.Nodup ∧
          (∀ action, action ∈ found ↔
            ∃ outer counterpart stmt guard, action = .guardElseBranch outer stmt guard ∧
              diff.GuardsElse outer counterpart stmt guard ∧
              ∃ parent, diff.after.parent? stmt = some parent ∧ diff.Inherited parent) ∧
          ∀ outer counterpart stmt guard, diff.GuardsElse outer counterpart stmt guard →
            (diff.after.elseBranch? counterpart = some stmt ∨
              ∃ block, diff.after.elseBranch? counterpart = some block ∧ diff.Inherited block ∧
                diff.after.parent? stmt = some block) →
            .guardElseBranch outer stmt guard ∈ found := by
  obtain ⟨outcome, mined, analyzed, found⟩ := mine_accepted accepted storage diff state
  refine ⟨outcome, mined, analyzed, ?_⟩
  intro set there
  obtain ⟨edits, _, finds, _⟩ := found set there
  obtain ⟨actions, present, exact⟩ := finds.mem_guardElseBranch listed
  have once : actions.Nodup := by
    have distinct := finds.1.nodup .guardElseBranch
    rwa [ActionSet.actions, present] at distinct
  refine ⟨actions, present, once, exact, ?_⟩
  intro outer counterpart stmt guard guards place
  refine (exact _).mpr ⟨outer, counterpart, stmt, guard, rfl, guards, ?_⟩
  rcases place with branch | ⟨block, _, kept, known⟩
  · exact ⟨counterpart, Arena.parent?_part branch, outer, guards.pair⟩
  · exact ⟨block, known, kept⟩

end Miner

def Diff.chained : Diff where
  id := ⟨"r", "f", "a.c"⟩
  before := .ofTree (.node ⟨.translationUnit, none, none, none⟩
    [.node ⟨.ifElse, none, none, none⟩
      [.node ⟨.identity, some "a", some .condition, none⟩ [],
        .node ⟨.exprStatement, none, some .thenBranch, none⟩ [],
        .node ⟨.exprStatement, none, some .elseBranch, none⟩ []]])
  after := .ofTree (.node ⟨.translationUnit, none, none, none⟩
    [.node ⟨.ifElse, none, none, none⟩
      [.node ⟨.identity, some "a", some .condition, none⟩ [],
        .node ⟨.exprStatement, none, some .thenBranch, none⟩ [],
        .node ⟨.ifElse, none, some .elseBranch, none⟩
          [.node ⟨.identity, some "b", some .condition, none⟩ [],
            .node ⟨.exprStatement, none, some .thenBranch, none⟩ []]]])
  correspondence := ⟨[(0, 0), (1, 1), (2, 2), (3, 3), (4, 6)], by decide, by decide⟩
  edits := some [.insert 4, .insert 5, .move 4 6]
  fixFiles := ["a.c"]
  in_trees := by decide

/-- The same with a new block around the new guard. -/
def Diff.braced : Diff where
  id := ⟨"r", "f", "a.c"⟩
  before := Diff.chained.before
  after := .ofTree (.node ⟨.translationUnit, none, none, none⟩
    [.node ⟨.ifElse, none, none, none⟩
      [.node ⟨.identity, some "a", some .condition, none⟩ [],
        .node ⟨.exprStatement, none, some .thenBranch, none⟩ [],
        .node ⟨.block, none, some .elseBranch, none⟩
          [.node ⟨.ifElse, none, none, none⟩
            [.node ⟨.identity, some "b", some .condition, none⟩ [],
              .node ⟨.exprStatement, none, some .thenBranch, none⟩ []]]]])
  correspondence := ⟨[(0, 0), (1, 1), (2, 2), (3, 3), (4, 7)], by decide, by decide⟩
  edits := some [.insert 4, .insert 5, .insert 6, .move 4 7]
  fixFiles := ["a.c"]
  in_trees := by decide

theorem Diff.guardsElse_chained : Diff.chained.GuardsElse 1 1 4 5 where
  pair := by decide
  wasIf := by decide
  isIf := by decide
  held := .branch (by decide)
  kind := by decide
  fresh := mt mapsAfter_iff.mpr (by decide)
  bare := by decide
  condition := by decide
  content := ⟨4, 6, by decide, by decide, (4, 6), by decide, .inl rfl, .inl rfl⟩

theorem Diff.guardsElse_braced : Diff.braced.GuardsElse 1 1 5 6 where
  pair := by decide
  wasIf := by decide
  isIf := by decide
  held := .block (show _ = some 4 by decide) (by decide) (by decide)
  kind := by decide
  fresh := mt mapsAfter_iff.mpr (by decide)
  bare := by decide
  condition := by decide
  content := ⟨4, 7, by decide, by decide, (4, 7), by decide, .inl rfl, .inl rfl⟩

namespace Miner

theorem accepted_guardElseBranch :
    Registry.ofKinds [.guardElseBranch, .insertStatement] =
      .ok (.builtin [.guardElseBranch, .insertStatement]) :=
  Registry.ofKinds_ok_iff.mpr ⟨by decide, by unfold Pipeline.Closed; decide, rfl⟩

theorem mine_guardedElses_chained :
    ∃ (registry : Registry) (outcome : MiningOutcome) (set : ActionSet)
      (found : List RepairAction),
      Registry.ofKinds [.guardElseBranch, .insertStatement] = .ok registry ∧
      ((Miner.mk registry none).mine Disk.storage .chained).run .empty = (.ok outcome, .empty) ∧
      outcome.actions? = some set ∧ set.get? .guardElseBranch = some found ∧
      Diff.chained.GuardsElse 1 1 4 5 ∧ .guardElseBranch 1 4 5 ∈ found := by
  obtain ⟨outcome, mined, analyzed, found⟩ :=
    mine_guardedElses accepted_guardElseBranch (by decide) Disk.storage .chained .empty
  cases outcome with
  | notAnalyzable reason => cases analyzed
  | analyzed set stats =>
    obtain ⟨actions, there, _, _, complete⟩ := found set rfl
    have guards := Diff.guardsElse_chained
    exact ⟨_, _, set, actions, accepted_guardElseBranch, mined, rfl, there, guards,
      complete 1 1 4 5 guards (.inl (by decide))⟩

/-- If the block around it is new, a guarded else-branch is missed. -/
theorem mine_guardedElses_braced :
    Diff.braced.GuardsElse 1 1 5 6 ∧
      ∃ (registry : Registry) (outcome : MiningOutcome) (set : ActionSet)
        (found : List RepairAction),
        Registry.ofKinds [.guardElseBranch, .insertStatement] = .ok registry ∧
        ((Miner.mk registry none).mine Disk.storage .braced).run .empty = (.ok outcome, .empty) ∧
        outcome.actions? = some set ∧ set.get? .guardElseBranch = some found ∧
        .guardElseBranch 1 5 6 ∉ found := by
  refine ⟨Diff.guardsElse_braced, ?_⟩
  obtain ⟨outcome, mined, analyzed, found⟩ :=
    mine_accepted accepted_guardElseBranch Disk.storage .braced .empty
  cases outcome with
  | notAnalyzable reason => cases analyzed
  | analyzed set stats =>
    obtain ⟨edits, _, finds, _⟩ := found set rfl
    obtain ⟨actions, there, exact⟩ := finds.mem_guardElseBranch (by decide)
    refine ⟨_, _, set, actions, accepted_guardElseBranch, mined, rfl, there, ?_⟩
    intro member
    obtain ⟨_, _, _, _, same, _, parent, known, kept⟩ := (exact _).mp member
    cases same
    have block : Diff.braced.after.parent? 5 = some 4 := by decide
    obtain rfl := Option.some.inj (block.symm.trans known)
    exact absurd (Diff.mapsAfter_iff.mpr kept) (by decide)

end Miner

end RepairMining
