import RepairMining.Proofs.Detection.Safety
import RepairMining.Proofs.Syntax.Alike
import RepairMining.Proofs.Syntax.Lookup

namespace RepairMining

open Traversal

namespace Context

variable {context : Context} {side : Side} {node : Nat}

theorem read_ok {α : Type} {what : Arena → Except Nat α} {value : α}
    (agree : what (context.diff.tree side) = .ok value) : context.read side what = .ok value := by
  rw [read, agree]
  rfl

theorem readDigest_before (grounded : context.Grounded)
    (inside : context.diff.Inside .before node) :
    ∃ digest, context.beforeHashes.get? node = some digest ∧
      context.readDigest .before node = .ok digest := by
  obtain ⟨digest, hashed⟩ := Arena.exists_digest inside .concrete
  have there : context.beforeHashes.get? node = some digest := grounded.beforeHashes ▸ hashed
  refine ⟨digest, there, ?_⟩
  simp [readDigest, NodeHashes.read, there, Except.mapError]

theorem readDigest_after (grounded : context.Grounded) (inside : context.diff.Inside .after node) :
    ∃ digest, context.afterHashes.get? node = some digest ∧
      context.readDigest .after node = .ok digest := by
  obtain ⟨digest, hashed⟩ := Arena.exists_digest inside .concrete
  have there : context.afterHashes.get? node = some digest := grounded.afterHashes ▸ hashed
  refine ⟨digest, there, ?_⟩
  simp [readDigest, NodeHashes.read, there, Except.mapError]

theorem readEquivalent_ok (grounded : context.Grounded) {before after : Option Nat}
    (inside : ∀ node, before = some node → context.diff.Inside .before node)
    (alsoInside : ∀ node, after = some node → context.diff.Inside .after node) :
    context.readEquivalent before after = .ok (context.equivalent before after) := by
  cases before with
  | none => cases after <;> rfl
  | some before =>
    cases after with
    | none => rfl
    | some after =>
      obtain ⟨first, one, readOne⟩ := readDigest_before grounded (inside before rfl)
      obtain ⟨second, other, readOther⟩ := readDigest_after grounded (alsoInside after rfl)
      simp [readEquivalent, equivalent, readOne, readOther, one, other]

theorem readEquivalent_pair (grounded : context.Grounded) {pair : Nat × Nat}
    (inside : context.diff.PairInside pair) :
    context.readEquivalent (some pair.1) (some pair.2) =
      .ok (context.equivalent (some pair.1) (some pair.2)) :=
  readEquivalent_ok grounded (fun _ same => Option.some.inj same ▸ inside.1)
    (fun _ same => Option.some.inj same ▸ inside.2)

theorem equivalentLists_eq (befores afters : List Nat) :
    context.equivalentLists befores afters =
      (befores.length == afters.length &&
        (befores.zip afters).all fun pair => context.equivalent (some pair.1) (some pair.2)) := by
  induction befores generalizing afters with
  | nil => cases afters <;> rfl
  | cons before befores ih =>
    cases afters with
    | nil => rfl
    | cons after afters =>
      have lengths : ((before :: befores).length == (after :: afters).length) =
          (befores.length == afters.length) := by simp
      rw [equivalentLists, ih, lengths, List.zip_cons_cons, List.all_cons, Bool.and_left_comm]

theorem readEquivalentLists_ok (grounded : context.Grounded) {befores afters : List Nat}
    (inside : ∀ pair ∈ befores.zip afters, context.diff.PairInside pair) :
    context.readEquivalentLists befores afters = .ok (context.equivalentLists befores afters) := by
  rw [readEquivalentLists, equivalentLists_eq]
  by_cases same : befores.length = afters.length
  · rw [if_pos same, allM_ok fun pair member => readEquivalent_pair grounded (inside pair member)]
    simp [same]
  · rw [if_neg same]
    simp [same]

theorem readPart_before (inside : context.diff.Inside .before node) (role : Role) :
    context.read .before (·.readPart node role) = .ok (context.before.part? node role) :=
  read_ok (Arena.readPart_ok inside role)

theorem readPart_after (inside : context.diff.Inside .after node) (role : Role) :
    context.read .after (·.readPart node role) = .ok (context.after.part? node role) :=
  read_ok (Arena.readPart_ok inside role)

theorem readArguments_before (inside : context.diff.Inside .before node) :
    context.read .before (·.readArguments node) = .ok (context.before.callArguments node) :=
  read_ok (Arena.readArguments_ok inside)

theorem readArguments_after (inside : context.diff.Inside .after node) :
    context.read .after (·.readArguments node) = .ok (context.after.callArguments node) :=
  read_ok (Arena.readArguments_ok inside)

theorem readEquivalent_parts (grounded : context.Grounded) (pair : Nat × Nat) (role : Role) :
    context.readEquivalent (context.before.part? pair.1 role) (context.after.part? pair.2 role) =
      .ok (context.equivalent (context.before.part? pair.1 role)
        (context.after.part? pair.2 role)) :=
  readEquivalent_ok grounded (fun _ found => Arena.contains_part found)
    fun _ found => Arena.contains_part found

end Context

namespace Detection

variable {context : Context} {set : ActionSet}

/-- The search succeeds, with what the rule finds. -/
def Searches (rule : Rule) (context : Context) (set : ActionSet) : Prop :=
  rule.search context set = .ok (rule.finds context set)

section Statements

variable {node : Nat}

theorem readSurvivesInPart_ok (inside : context.diff.Inside .before node) :
    readSurvivesInPart context node = .ok (survivesInPart context node) := by
  have kind : context.read .before (·.readHasKind node .block) =
      .ok (context.before.hasKind node .block) := Context.read_ok (Arena.readHasKind_ok inside _)
  have parent : context.read .before (·.readParent node) = .ok (context.before.parent? node) :=
    Context.read_ok (Arena.readParent_ok inside)
  have children : context.read .before (·.readChildren node) =
      .ok (context.before.children node) := Context.read_ok (Arena.readChildren_ok inside)
  rw [readSurvivesInPart, survivesInPart, kind, ok_bind, parent, ok_bind, children, ok_bind]
  cases context.before.hasKind node .block && !context.mapsBefore node <;>
    cases (context.before.parent? node).any context.mapsBefore <;> rfl

theorem readAnchor_ok (inside : context.diff.Inside .before node) :
    readAnchor context node = .ok (anchor? context node) := by
  have parent : context.read .before (·.readParent node) = .ok (context.before.parent? node) :=
    Context.read_ok (Arena.readParent_ok inside)
  rw [readAnchor, anchor?, parent, ok_bind]
  cases known : context.before.parent? node with
  | none => rfl
  | some parent =>
    have parentInside : context.diff.Inside .before parent := Arena.contains_parent known
    have grandparent : context.read .before (·.readParent parent) =
        .ok (context.before.parent? parent) := Context.read_ok (Arena.readParent_ok parentInside)
    simp only [readSurvivesInPart_ok parentInside, ok_bind, grandparent]
    split <;> rfl

theorem deleteStatement_searches : Searches deleteStatement context set := by
  have stmts : context.read .before (·.readStatements) = .ok context.before.statements :=
    Context.read_ok (Arena.readStatements_ok _)
  have gone : ∀ stmt ∈ context.before.statements,
      (if context.mapsBefore stmt then return false
        else return (← readAnchor context stmt).any context.mapsBefore) =
      (.ok (!context.mapsBefore stmt && (anchor? context stmt).any context.mapsBefore) :
        Except MiningError Bool) := by
    intro stmt member
    rw [readAnchor_ok (Arena.contains_of_mem_statements member)]
    cases context.mapsBefore stmt <;> rfl
  simp only [Searches, deleteStatement, stmts, ok_bind, filterM_ok gone]
  rfl

theorem insertStatement_searches : Searches insertStatement context set := by
  have stmts : context.read .after (·.readStatements) = .ok context.after.statements :=
    Context.read_ok (Arena.readStatements_ok _)
  simp only [Searches, insertStatement, stmts, ok_bind, inserted, List.map_filterMap]
  apply filterMapM_ok
  intro stmt member
  have parent : context.read .after (·.readParent stmt) = .ok (context.after.parent? stmt) :=
    Context.read_ok (Arena.readParent_ok (Arena.contains_of_mem_statements member))
  rw [parent, ok_bind]
  cases context.mapsAfter stmt with
  | true => rfl
  | false =>
    cases context.after.parent? stmt with
    | none => rfl
    | some above =>
      dsimp only
      cases context.mapsAfter above <;> rfl

theorem readSurvivorBefore_ok (inside : context.diff.Inside .before node) :
    readSurvivorBefore context node = .ok (survivorAroundBefore context node) :=
  Context.read_ok (Arena.readEnclosingStatementWhere_ok inside _)

theorem readSurvivorAfter_ok (inside : context.diff.Inside .after node) :
    readSurvivorAfter context node = .ok (survivorAroundAfter context node) := by
  have around : context.read .after (·.readEnclosingStatementWhere node context.mapsAfter) =
      .ok (context.after.enclosingStatementWhere? node context.mapsAfter) :=
    Context.read_ok (Arena.readEnclosingStatementWhere_ok inside _)
  rw [readSurvivorAfter, around]
  rfl

theorem readSurvivorAround_before (inside : context.diff.Inside .before node) :
    readSurvivorAround context .before node =
      .ok ((context.before.parent? node).bind (survivorAroundBefore context)) := by
  have parent : context.read .before (·.readParent node) = .ok (context.before.parent? node) :=
    Context.read_ok (Arena.readParent_ok inside)
  rw [readSurvivorAround, parent, ok_bind]
  cases known : context.before.parent? node with
  | none => rfl
  | some parent => exact readSurvivorBefore_ok (Arena.contains_parent known)

theorem readSurvivorAround_after (inside : context.diff.Inside .after node) :
    readSurvivorAround context .after node =
      .ok ((context.after.parent? node).bind (survivorAroundAfter context)) := by
  have parent : context.read .after (·.readParent node) = .ok (context.after.parent? node) :=
    Context.read_ok (Arena.readParent_ok inside)
  rw [readSurvivorAround, parent, ok_bind]
  cases known : context.after.parent? node with
  | none => rfl
  | some parent => exact readSurvivorAfter_ok (Arena.contains_parent known)

theorem readSubjects_ok {op : EditOp}
    (inside : ∀ mention ∈ op.mentions, context.diff.Inside mention.1 mention.2) :
    readSubjects context op = .ok (subjects context op) := by
  cases op with
  | insert node =>
    have there : context.diff.Inside .after node := inside (.after, node) List.mem_cons_self
    rw [readSubjects, readSurvivorAfter_ok there]
    rfl
  | delete node =>
    have there : context.diff.Inside .before node := inside (.before, node) List.mem_cons_self
    rw [readSubjects, readSurvivorBefore_ok there]
    rfl
  | update node other =>
    have there : context.diff.Inside .before node := inside (.before, node) List.mem_cons_self
    have around : context.read .before (·.readEnclosingStatement node) =
        .ok (context.before.enclosingStatement? node) :=
      Context.read_ok (Arena.readEnclosingStatement_ok there)
    rw [readSubjects, around]
    rfl
  | move source target =>
    have left : context.diff.Inside .before source := inside (.before, source) List.mem_cons_self
    have reached : context.diff.Inside .after target :=
      inside (.after, target) (List.mem_cons_of_mem _ List.mem_cons_self)
    rw [readSubjects, readSurvivorAround_before left, ok_bind, readSurvivorAround_after reached]
    rfl

theorem modifyStatement_searches (grounded : context.Grounded) :
    Searches modifyStatement context set := by
  have attributed : context.edits.mapM (fun op => do return (op, ← readSubjects context op)) =
      (.ok (attribution context) : Except MiningError _) := by
    apply mapM_ok
    intro op member
    rw [readSubjects_ok (grounded.scripted op member)]
    rfl
  simp only [Searches, modifyStatement, attributed, ok_bind]
  rfl

end Statements

section Branches

variable {pair : Nat × Nat} {node : Nat}

theorem readBothHaveKind_ok (inside : context.diff.PairInside pair) (kind : NodeKind) :
    readBothHaveKind context kind pair = .ok (bothHaveKind context kind pair) := by
  have old : context.read .before (·.readHasKind pair.1 kind) =
      .ok (context.before.hasKind pair.1 kind) :=
    Context.read_ok (Arena.readHasKind_ok inside.1 kind)
  have new : context.read .after (·.readHasKind pair.2 kind) =
      .ok (context.after.hasKind pair.2 kind) :=
    Context.read_ok (Arena.readHasKind_ok inside.2 kind)
  rw [readBothHaveKind, bothHaveKind, old, ok_bind, new]
  cases context.before.hasKind pair.1 kind <;> rfl

theorem readModifiedOfKind_ok (sound : set.Sound context.diff) (kind : NodeKind) :
    readModifiedOfKind context set kind = .ok (modifiedOfKind context set kind) :=
  filterM_ok fun _ member => readBothHaveKind_ok (sound.modifiedStatements member) kind

theorem readChangedPart_ok (grounded : context.Grounded) (inside : context.diff.PairInside pair)
    (role : Role) : readChangedPart context role pair = .ok (changedPart? context role pair) := by
  rw [readChangedPart, changedPart?, Context.readPart_before inside.1, ok_bind,
    Context.readPart_after inside.2]
  cases beforePart : context.before.part? pair.1 role with
  | none => rfl
  | some before =>
    cases afterPart : context.after.part? pair.2 role with
    | none => rfl
    | some after =>
      have partsInside : context.diff.PairInside (before, after) :=
        ⟨Arena.contains_part beforePart, Arena.contains_part afterPart⟩
      have same := Context.readEquivalent_pair grounded partsInside
      dsimp only [ok_bind] at same ⊢
      rw [same, ok_bind]
      split <;> rfl

theorem readChangedParts_ok (grounded : context.Grounded) {pairs : List (Nat × Nat)}
    (inside : ∀ pair ∈ pairs, context.diff.PairInside pair) (role : Role)
    (report : Nat → Nat → Nat → Nat → RepairAction) :
    readChangedParts context role report pairs = .ok (pairs.filterMap fun pair =>
      (changedPart? context role pair).map fun (before, after) =>
        report pair.1 pair.2 before after) := by
  apply filterMapM_ok
  intro pair member
  rw [readChangedPart_ok grounded (inside pair member)]
  rfl

theorem readIsBareIf_ok {arena : Arena} (inside : arena.contains node = true) :
    readIsBareIf arena node =
      .ok (arena.hasKind node .ifElse && (arena.elseBranch? node).isNone) := by
  rw [readIsBareIf, Arena.readHasKind_ok inside, ok_bind, Arena.readPart_ok inside]
  cases arena.hasKind node .ifElse <;> rfl

theorem readBareIf_ok {arena : Arena} (inside : arena.contains node = true) :
    readBareIf arena node = .ok (bareIf? arena node) := by
  rw [readBareIf, readIsBareIf_ok inside, ok_bind, bareIf?, Arena.readPart_ok inside,
    Arena.readPart_ok inside]
  split
  · rw [ok_bind, ok_bind, Arena.condition?, Arena.thenBranch?]
    cases arena.part? node .condition <;> cases arena.part? node .thenBranch <;> rfl
  · rfl

theorem wrapStatement_searches (sound : set.Sound context.diff) :
    Searches wrapStatement context set := by
  apply filterMapM_ok
  intro wrapper member
  have bare : context.read .after (readBareIf · wrapper) = .ok (bareIf? context.after wrapper) :=
    Context.read_ok (readBareIf_ok (sound.insertedStatements member))
  rw [bare, ok_bind]
  cases found : bareIf? context.after wrapper with
  | none => rfl
  | some parts =>
    obtain ⟨guard, branch⟩ := parts
    have branchInside : context.after.contains branch = true := (bareIf_inside found).2
    have unwrapped : context.read .after (·.readUnwrapped branch) =
        .ok (context.after.unwrapBlock branch) :=
      Context.read_ok (Arena.readUnwrapped_ok branchInside)
    have isStatement : context.read .after (·.readIsStatement (context.after.unwrapBlock branch)) =
        .ok (context.after.isStatement (context.after.unwrapBlock branch)) :=
      Context.read_ok (Arena.readIsStatement_ok (Arena.contains_unwrapBlock branchInside))
    dsimp only
    rw [unwrapped, ok_bind]
    cases context.beforeOf (context.after.unwrapBlock branch) with
    | none => rfl
    | some stmt =>
      dsimp only
      rw [isStatement, ok_bind]
      split <;> rfl

theorem unwrapStatement_searches (sound : set.Sound context.diff) :
    Searches unwrapStatement context set := by
  apply filterMapM_ok
  intro stmt member
  have inside : context.before.contains stmt = true := sound.deletedStatements member
  have bare : context.read .before (readIsBareIf · stmt) =
      .ok (context.before.hasKind stmt .ifElse && (context.before.elseBranch? stmt).isNone) :=
    Context.read_ok (readIsBareIf_ok inside)
  rw [bare, ok_bind, Context.readPart_before inside, ok_bind, Arena.thenBranch?]
  split
  · cases found : context.before.part? stmt .thenBranch with
    | none => rfl
    | some branch =>
      have unwrapped : context.read .before (·.readUnwrapped branch) =
          .ok (context.before.unwrapBlock branch) :=
        Context.read_ok (Arena.readUnwrapped_ok (Arena.contains_part found))
      dsimp only
      rw [unwrapped]
      rfl
  · rfl

theorem replaceIfCondition_searches (grounded : context.Grounded)
    (sound : set.Sound context.diff) : Searches replaceIfCondition context set := by
  simp only [Searches, replaceIfCondition, readModifiedOfKind_ok sound, ok_bind]
  exact readChangedParts_ok grounded (modifiedOfKind_inside sound) _ _

theorem readSurvivors_ok {fits : Arena → Nat → Except Nat Bool} {plain : Arena → Nat → Bool}
    (agree : ∀ arena node, arena.contains node = true → fits arena node = .ok (plain arena node)) :
    readSurvivors context fits = .ok
      (((context.after.statements.filter (plain context.after)).filterMap fun after =>
        (context.beforeOf after).map fun before => (before, after)).filter fun pair =>
          plain context.before pair.1) := by
  have stmts : context.read .after (·.readStatements) = .ok context.after.statements :=
    Context.read_ok (Arena.readStatements_ok _)
  have fitting : ∀ stmt ∈ context.after.statements,
      context.read .after (fits · stmt) = .ok (plain context.after stmt) := fun stmt member =>
    Context.read_ok (agree _ _ (Arena.contains_of_mem_statements member))
  rw [readSurvivors, stmts, ok_bind, filterM_ok fitting, ok_bind]
  apply filterM_ok
  intro pair member
  obtain ⟨after, _, shape⟩ := List.mem_filterMap.mp member
  obtain ⟨before, counterpart, rfl⟩ := Option.map_eq_some_iff.mp shape
  exact Context.read_ok (agree _ _ (Context.pair_of_beforeOf counterpart).1)

theorem readSurvivingIfs_ok : readSurvivingIfs context = .ok (survivingIfs context) :=
  readSurvivors_ok fun _ _ inside => Arena.readHasKind_ok inside _

theorem replaceThenBranch_searches (grounded : context.Grounded) :
    Searches replaceThenBranch context set := by
  simp only [Searches, replaceThenBranch, readSurvivingIfs_ok, ok_bind]
  exact readChangedParts_ok grounded survivingIfs_inside _ _

theorem replaceElseBranch_searches (grounded : context.Grounded) :
    Searches replaceElseBranch context set := by
  simp only [Searches, replaceElseBranch, readSurvivingIfs_ok, ok_bind]
  exact readChangedParts_ok grounded survivingIfs_inside _ _

theorem removeElseBranch_searches : Searches removeElseBranch context set := by
  simp only [Searches, removeElseBranch, readSurvivingIfs_ok, ok_bind]
  apply filterMapM_ok
  intro pair member
  obtain ⟨beforeInside, afterInside⟩ := survivingIfs_inside pair member
  rw [Context.readPart_after afterInside, ok_bind, Context.readPart_before beforeInside, ok_bind,
    Arena.elseBranch?, Arena.elseBranch?]
  split <;> rfl

theorem readGainedElse_ok (sound : set.Sound context.diff) :
    readGainedElse context set = .ok (gainedElse context set) := by
  rw [readGainedElse, readModifiedOfKind_ok sound, ok_bind]
  apply filterMapM_ok
  intro pair member
  obtain ⟨beforeInside, afterInside⟩ := modifiedOfKind_inside sound pair member
  rw [Context.readPart_before beforeInside, ok_bind, Context.readPart_after afterInside, ok_bind,
    Arena.elseBranch?, Arena.elseBranch?]
  split <;> rfl

theorem readGain_ok (sound : set.Sound context.diff) {gain : Nat × Nat × Nat}
    (member : gain ∈ gainedElse context set) :
    context.read .after (·.readHasKind gain.2.2 .ifElse) =
      .ok (context.after.hasKind gain.2.2 .ifElse) :=
  Context.read_ok (Arena.readHasKind_ok (gainedElse_inside sound member).2 _)

theorem insertElseBranch_searches (sound : set.Sound context.diff) :
    Searches insertElseBranch context set := by
  have plain : ∀ gain ∈ gainedElse context set,
      (do return !(← context.read .after (·.readHasKind gain.2.2 .ifElse)) :
        Except MiningError Bool) = .ok (!context.after.hasKind gain.2.2 .ifElse) := by
    intro gain member
    rw [readGain_ok sound member]
    rfl
  simp only [Searches, insertElseBranch, readGainedElse_ok sound, ok_bind, filterM_ok plain]
  rfl

theorem insertElseIfBranch_searches (sound : set.Sound context.diff) :
    Searches insertElseIfBranch context set := by
  simp only [Searches, insertElseIfBranch, readGainedElse_ok sound, ok_bind,
    filterM_ok fun gain member => readGain_ok sound member]
  rfl

theorem readOutOfElse_ok {arena : Arena} (inside : arena.contains node = true) :
    readOutOfElse arena node = .ok
      (if arena.hasKind node .block && arena.role? node == some .elseBranch then arena.parent? node
        else some node) := by
  rw [readOutOfElse, Arena.readHasKind_ok inside, ok_bind, Arena.readRole_ok inside, ok_bind,
    Arena.readParent_ok inside]
  split <;> rfl

theorem readIfAroundElse_ok (inside : context.after.contains node = true) :
    readIfAroundElse context.after node = .ok (ifAroundElse? context node) := by
  rw [readIfAroundElse, Arena.readParent_ok inside, ok_bind, ifAroundElse?]
  cases known : context.after.parent? node with
  | none => rfl
  | some parent =>
    have parentInside := Arena.contains_parent known
    dsimp only
    rw [readOutOfElse_ok parentInside, ok_bind]
    cases out : (if context.after.hasKind parent .block &&
        context.after.role? parent == some .elseBranch then context.after.parent? parent
      else some parent) with
    | none => rfl
    | some outer =>
      have outerInside : context.after.contains outer = true := by
        split at out
        · exact Arena.contains_parent out
        · exact Option.some.inj out ▸ parentInside
      dsimp only
      rw [Arena.readPart_ok outerInside, ok_bind, Arena.elseBranch?]
      cases part : context.after.part? outer .elseBranch with
      | none => rfl
      | some branch =>
        have branchInside := Arena.contains_part part
        dsimp only
        rw [Arena.readHasKind_ok outerInside, ok_bind,
          Arena.readIsAncestorOrSelf_ok branchInside, ok_bind]
        cases context.after.hasKind outer .ifElse <;>
          cases context.after.isAncestorOrSelf branch node <;> rfl

theorem readTakesOver_ok {branch oldBranch : Nat} (inside : context.diff.Inside .after branch)
    (alsoInside : context.diff.Inside .before oldBranch) :
    readTakesOver context branch oldBranch = .ok (takesOver context branch oldBranch) := by
  have old : context.read .before (·.readUnwrapped oldBranch) =
      .ok (context.before.unwrapBlock oldBranch) :=
    Context.read_ok (Arena.readUnwrapped_ok alsoInside)
  have new : context.read .after (·.readUnwrapped branch) =
      .ok (context.after.unwrapBlock branch) := Context.read_ok (Arena.readUnwrapped_ok inside)
  rw [readTakesOver, old, ok_bind, new]
  rfl

theorem readGuardedElse_ok (inside : context.diff.Inside .after node) :
    readGuardedElse context node = .ok (guardedElse? context node) := by
  have bare : context.read .after (readBareIf · node) = .ok (bareIf? context.after node) :=
    Context.read_ok (readBareIf_ok inside)
  have around : context.read .after (readIfAroundElse · node) = .ok (ifAroundElse? context node) :=
    Context.read_ok (readIfAroundElse_ok inside)
  rw [readGuardedElse, bare, ok_bind, guardedElse?]
  cases bareIf? context.after node with
  | none => rfl
  | some parts =>
    dsimp only
    rw [around, ok_bind]
    cases (ifAroundElse? context node).bind context.beforeOf <;> rfl

theorem guardElseBranch_searches (sound : set.Sound context.diff) :
    Searches guardElseBranch context set := by
  apply filterMapM_ok
  intro stmt member
  rw [readGuardedElse_ok (sound.insertedStatements member), ok_bind]
  cases found : guardedElse? context stmt with
  | none => rfl
  | some parts =>
    obtain ⟨outer, guard, branch⟩ := parts
    obtain ⟨outerInside, _, branchInside⟩ := guardedElse_inside found
    dsimp only at outerInside branchInside
    have kind : context.read .before (·.readHasKind outer .ifElse) =
        .ok (context.before.hasKind outer .ifElse) :=
      Context.read_ok (Arena.readHasKind_ok outerInside _)
    dsimp only
    rw [kind, ok_bind, Context.readPart_before outerInside, ok_bind, Arena.elseBranch?]
    split
    · cases old : context.before.part? outer .elseBranch with
      | none => rfl
      | some oldBranch =>
        dsimp only
        rw [readTakesOver_ok branchInside (Arena.contains_part old), ok_bind]
        split <;> rfl
    · rfl

end Branches

section Loops

variable {pair : Nat × Nat} {node : Nat}

theorem replaceSwitchExpression_searches (grounded : context.Grounded)
    (sound : set.Sound context.diff) : Searches replaceSwitchExpression context set := by
  simp only [Searches, replaceSwitchExpression, readModifiedOfKind_ok sound, ok_bind]
  exact readChangedParts_ok grounded (modifiedOfKind_inside sound) _ _

theorem readGuardOwner_ok {arena : Arena} (inside : arena.contains node = true) :
    readGuardOwner arena node = .ok (guardOwner arena node) := by
  rw [readGuardOwner, Arena.readRole_ok inside, ok_bind, Arena.readParent_ok inside, ok_bind,
    guardOwner]
  split
  · cases known : arena.parent? node with
    | none => rfl
    | some parent =>
      dsimp only
      rw [Arena.readHasKind_ok (Arena.contains_parent known), ok_bind]
      split <;> rfl
  · rfl

theorem readGuardOwners_ok (inside : context.diff.PairInside pair) :
    (do
      let before ← context.read .before (readGuardOwner · pair.1)
      let after ← context.read .after (readGuardOwner · pair.2)
      return (before, after) : Except MiningError (Nat × Nat)) =
      .ok (guardOwner context.before pair.1, guardOwner context.after pair.2) := by
  have old : context.read .before (readGuardOwner · pair.1) =
      .ok (guardOwner context.before pair.1) := Context.read_ok (readGuardOwner_ok inside.1)
  have new : context.read .after (readGuardOwner · pair.2) =
      .ok (guardOwner context.after pair.2) := Context.read_ok (readGuardOwner_ok inside.2)
  rw [old, ok_bind, new]
  rfl

theorem readAreLoops_ok (inside : context.diff.PairInside pair) :
    (do
      if ← context.read .before (·.readIsLoop pair.1) then
        context.read .after (·.readIsLoop pair.2)
      else return false : Except MiningError Bool) =
      .ok (context.before.isLoop pair.1 && context.after.isLoop pair.2) := by
  have old : context.read .before (·.readIsLoop pair.1) =
      .ok (context.before.isLoop pair.1) := Context.read_ok (Arena.readIsLoop_ok inside.1)
  have new : context.read .after (·.readIsLoop pair.2) =
      .ok (context.after.isLoop pair.2) := Context.read_ok (Arena.readIsLoop_ok inside.2)
  rw [old, ok_bind, new]
  cases context.before.isLoop pair.1 <;> rfl

theorem readModifiedLoops_ok (sound : set.Sound context.diff) :
    readModifiedLoops context set = .ok (modifiedLoops context set) := by
  rw [readModifiedLoops,
    mapM_ok fun pair member => readGuardOwners_ok (sound.modifiedStatements member), ok_bind,
    filterM_ok fun pair member => readAreLoops_ok (guardOwners_inside sound pair member)]
  rfl

theorem replaceLoopGuard_searches (grounded : context.Grounded) (sound : set.Sound context.diff) :
    Searches replaceLoopGuard context set := by
  simp only [Searches, replaceLoopGuard, readModifiedLoops_ok sound, ok_bind]
  apply filterMapM_ok
  intro pair member
  obtain ⟨beforeInside, afterInside⟩ := modifiedLoops_inside sound pair member
  rw [Context.readPart_before beforeInside, ok_bind, Context.readPart_after afterInside, ok_bind,
    Context.readEquivalent_parts grounded, ok_bind]
  split
  · rename_i same
    simp [Arena.condition?, same]
  · rename_i differ
    simp [Arena.condition?, differ]

theorem replaceLoopBody_searches (grounded : context.Grounded) :
    Searches replaceLoopBody context set := by
  have loops : readSurvivors context (·.readIsLoop ·) = .ok ((loopCounterparts context).filter
      fun pair => context.before.isLoop pair.1) :=
    readSurvivors_ok fun _ _ inside => Arena.readIsLoop_ok inside
  simp only [Searches, replaceLoopBody, loops, ok_bind]
  exact readChangedParts_ok grounded
    (fun pair member => loopCounterparts_inside pair (List.mem_filter.mp member).1) _ _

end Loops

end Detection

end RepairMining
