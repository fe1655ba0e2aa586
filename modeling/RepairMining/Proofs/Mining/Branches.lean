import RepairMining.Proofs.Digest.Structural
import RepairMining.Proofs.Mining.Attribution
import RepairMining.Proofs.Mining.ElseGuards

/-!
How modified if-statements are reported. What becomes of the else-branch is reported by exactly one
of four categories, unless nothing does; a guard or a then-branch is reported if it differs. So no
modified if-statement whose parts tell it apart goes unreported.
-/

namespace RepairMining

def ActionKind.elseParts : List ActionKind :=
  [.replaceElseBranch, .removeElseBranch, .insertElseBranch, .insertElseIfBranch]

def ActionKind.ifParts : List ActionKind := .replaceIfCondition :: .replaceThenBranch :: elseParts

def RepairAction.ifPair? : RepairAction → Option (Nat × Nat)
  | .replaceIfCondition before after _ _ | .replaceThenBranch before after _ _
  | .replaceElseBranch before after _ _ | .removeElseBranch before after _
  | .insertElseBranch before after _ | .insertElseIfBranch before after _ => some (before, after)
  | _ => none

def ActionSet.reports (set : ActionSet) (kinds : List ActionKind) (pair : Nat × Nat) :
    List RepairAction :=
  (kinds.flatMap set.actions).filter fun action => action.ifPair? = some pair

theorem ActionSet.reports_cons (set : ActionSet) (kind : ActionKind) (kinds : List ActionKind)
    (pair : Nat × Nat) :
    set.reports (kind :: kinds) pair = set.reports [kind] pair ++ set.reports kinds pair := by
  rw [reports, reports, reports, List.flatMap_cons, List.filter_append, List.flatMap_singleton]

namespace Diff

/-- A part is there on both sides and not the same. -/
def PartDiffers (diff : Diff) (script : List EditOp) (role : Role) (pair : Nat × Nat) : Prop :=
  ∃ before after, diff.before.part? pair.1 role = some before ∧
    diff.after.part? pair.2 role = some after ∧
    (Context.make diff script).equivalent (some before) (some after) = false

end Diff

/-- An if-statement with a guard, a then-branch and perhaps an else-branch, in this order, and
nothing else. -/
def Arena.Regular (arena : Arena) (stmt : Nat) : Prop :=
  (arena.children stmt).map arena.role? = [some .condition, some .thenBranch] ∨
    (arena.children stmt).map arena.role? =
      [some .condition, some .thenBranch, some .elseBranch]

theorem Arena.Regular.children {arena : Arena} {stmt : Nat} (regular : arena.Regular stmt) :
    ∃ guard branch, arena.condition? stmt = some guard ∧ arena.thenBranch? stmt = some branch ∧
      arena.children stmt = guard :: branch :: (arena.elseBranch? stmt).toList := by
  rw [condition?, thenBranch?, elseBranch?, part?, part?, part?]
  rcases regular with roles | roles
  · obtain ⟨guard, rest, listed, guarded, roles⟩ := List.map_eq_cons_iff.mp roles
    obtain ⟨branch, rest, rfl, branched, roles⟩ := List.map_eq_cons_iff.mp roles
    obtain rfl := List.map_eq_nil_iff.mp roles
    refine ⟨guard, branch, ?_, ?_, ?_⟩ <;> rw [listed] <;> simp [guarded, branched]
  · obtain ⟨guard, rest, listed, guarded, roles⟩ := List.map_eq_cons_iff.mp roles
    obtain ⟨branch, rest, rfl, branched, roles⟩ := List.map_eq_cons_iff.mp roles
    obtain ⟨other, rest, rfl, last, roles⟩ := List.map_eq_cons_iff.mp roles
    obtain rfl := List.map_eq_nil_iff.mp roles
    refine ⟨guard, branch, ?_, ?_, ?_⟩ <;> rw [listed] <;> simp [guarded, branched, last]

namespace Detection

variable {diff : Diff} {script : List EditOp} {set : ActionSet} {pair : Nat × Nat}

theorem changedPart?_eq (context : Context) (role : Role) (pair : Nat × Nat) :
    changedPart? context role pair =
      (context.before.part? pair.1 role).bind fun before =>
        (context.after.part? pair.2 role).bind fun after =>
          if context.equivalent (some before) (some after) then none else some (before, after) := by
  rw [changedPart?]
  cases context.before.part? pair.1 role with
  | none => rfl
  | some before => cases context.after.part? pair.2 role <;> rfl

theorem changedPart?_isSome_iff {role : Role} :
    (changedPart? (.make diff script) role pair).isSome = true ↔
      diff.PartDiffers script role pair := by
  simp only [changedPart?_eq, Option.isSome_iff_exists, Option.bind_eq_some_iff,
    Option.ite_none_left_eq_some, Bool.not_eq_true]
  constructor
  · rintro ⟨_, before, old, after, new, differ, _⟩
    exact ⟨before, after, old, new, differ⟩
  · rintro ⟨before, after, old, new, differ⟩
    exact ⟨_, before, old, after, new, differ, rfl⟩

theorem mem_survivingIfs : pair ∈ survivingIfs (.make diff script) ↔
    pair ∈ diff.correspondence.pairs ∧ diff.before.hasKind pair.1 .ifElse = true ∧
      diff.after.hasKind pair.2 .ifElse = true := by
  rw [survivingIfs, ifCounterparts, List.mem_filter, List.mem_filterMap]
  constructor
  · rintro ⟨⟨after, listed, shape⟩, isIf⟩
    obtain ⟨before, counterpart, rfl⟩ := Option.map_eq_some_iff.mp shape
    exact ⟨Correspondence.before?_eq_some_iff.mp counterpart, isIf, (List.mem_filter.mp listed).2⟩
  · rintro ⟨counterpart, wasIf, isIf⟩
    refine ⟨⟨pair.2, ?_, ?_⟩, wasIf⟩
    · have statement := Arena.isStatement_iff.mpr ⟨_, Arena.hasKind_iff.mp isIf, rfl⟩
      exact List.mem_filter.mpr ⟨Arena.mem_statements.mpr statement, isIf⟩
    · exact Option.map_eq_some_iff.mpr
        ⟨pair.1, Correspondence.before?_eq_some_iff.mpr counterpart, rfl⟩

theorem nodup_survivingIfs (context : Context) : (survivingIfs context).Nodup :=
  ((ifCounterparts_increasing context).filter _).nodup

theorem nodup_modifiedOfKind (context : Context) (ordered : set.Ordered) (kind : NodeKind) :
    (modifiedOfKind context set kind).Nodup :=
  (modifiedOfKind_increasing ordered kind).nodup

theorem gainedElse_scan (context : Context) (set : ActionSet) (fits : Nat → Bool)
    (make : Nat → Nat → Nat → RepairAction) :
    ((gainedElse context set).filter fun gain => fits gain.2.2).map
        (fun (before, after, branch) => make before after branch) =
      (modifiedOfKind context set .ifElse).filterMap fun pair =>
        if (context.before.elseBranch? pair.1).isSome then none
        else ((context.after.elseBranch? pair.2).filter fits).map (make pair.1 pair.2) := by
  rw [gainedElse, List.filter_filterMap, List.map_filterMap]
  congr 1
  funext pair
  cases context.before.elseBranch? pair.1 with
  | some old => rfl
  | none =>
    cases context.after.elseBranch? pair.2 with
    | none => rfl
    | some branch =>
      simp only [Option.isSome_none, Bool.false_eq_true, if_false, Option.map_some,
        Option.filter_some]
      cases fits branch <;> rfl

theorem length_elseCases (context : Context) (old new : Option Nat) (chains : Nat → Bool)
    (replace : Nat → Nat → RepairAction) (remove insert insertIf : Nat → RepairAction) :
    (((old.bind fun before => new.bind fun after =>
          if context.equivalent (some before) (some after) then none
          else some (before, after)).map fun (before, after) => replace before after).toList ++
      ((if new.isSome then none else old.map remove).toList ++
        ((if old.isSome then none else (new.filter fun branch => !chains branch).map insert).toList ++
          (if old.isSome then none else (new.filter chains).map insertIf).toList))).length =
      if context.equivalent old new = true then 0 else 1 := by
  cases old with
  | none =>
    cases new with
    | none => rfl
    | some branch =>
      rw [Option.filter_some, Option.filter_some]
      cases chains branch <;> rfl
  | some before =>
    cases new with
    | none => rfl
    | some after =>
      cases same : context.equivalent (some before) (some after) <;> simp [same]

theorem seen_of_equivalent {role : Role} {node place before after : Nat}
    (old : diff.before.part? node role = some before)
    (new : diff.after.part? place role = some after)
    (same : (Context.make diff script).equivalent (some before) (some after) = true) :
    (diff.before.role? before, (NodeHashes.compute .concrete diff.before).get? before) =
      (diff.after.role? after, (NodeHashes.compute .concrete diff.after).get? after) := by
  rw [role?_of_part? old, role?_of_part? new,
    (Context.equivalent_iff (Arena.contains_part old) (Arena.contains_part new)).mp same]

theorem equivalent_of_below {before after : Nat} (inside : diff.before.contains before = true)
    (alsoInside : diff.after.contains after = true)
    (kinds : diff.before.kind? before = diff.after.kind? after)
    (labels : diff.before.label? before = diff.after.label? after)
    (below : NodeHashes.below .concrete diff.before before =
      NodeHashes.below .concrete diff.after after) :
    (Context.make diff script).equivalent (some before) (some after) = true :=
  (Context.equivalent_iff inside alsoInside).mpr
    (NodeHashes.get?_congr inside alsoInside kinds labels below)

theorem equivalent_of_parts (wasIf : diff.before.hasKind pair.1 .ifElse = true)
    (isIf : diff.after.hasKind pair.2 .ifElse = true)
    (labels : diff.before.label? pair.1 = diff.after.label? pair.2)
    (regular : diff.before.Regular pair.1) (alsoRegular : diff.after.Regular pair.2)
    (guards : ¬ diff.PartDiffers script .condition pair)
    (branches : ¬ diff.PartDiffers script .thenBranch pair)
    (elses : (Context.make diff script).equivalent (diff.before.elseBranch? pair.1)
      (diff.after.elseBranch? pair.2) = true) :
    (Context.make diff script).equivalent (some pair.1) (some pair.2) = true := by
  have kind := Arena.hasKind_iff.mp wasIf
  have alsoKind := Arena.hasKind_iff.mp isIf
  have agree {role : Role} {before after : Nat} (stays : ¬ diff.PartDiffers script role pair)
      (old : diff.before.part? pair.1 role = some before)
      (new : diff.after.part? pair.2 role = some after) :
      (Context.make diff script).equivalent (some before) (some after) = true := by
    by_contra differ
    exact stays ⟨before, after, old, new, Bool.eq_false_iff.mpr differ⟩
  obtain ⟨guard, branch, guarded, branched, listed⟩ := regular.children
  obtain ⟨newGuard, newBranch, alsoGuarded, alsoBranched, alsoListed⟩ := alsoRegular.children
  apply equivalent_of_below (Arena.contains_of_kind? kind) (Arena.contains_of_kind? alsoKind)
    (kind.trans alsoKind.symm) labels
  rw [NodeHashes.below, NodeHashes.below, listed, alsoListed, List.map_cons, List.map_cons,
    List.map_cons, List.map_cons,
    seen_of_equivalent guarded alsoGuarded (agree guards guarded alsoGuarded),
    seen_of_equivalent branched alsoBranched (agree branches branched alsoBranched)]
  congr 2
  -- The third part is there on both sides or on neither.
  cases old : diff.before.elseBranch? pair.1 with
  | none =>
    cases new : diff.after.elseBranch? pair.2 with
    | none => rfl
    | some after =>
      rw [old, new] at elses
      cases elses
  | some before =>
    cases new : diff.after.elseBranch? pair.2 with
    | none =>
      rw [old, new] at elses
      cases elses
    | some after =>
      rw [old, new] at elses
      rw [Option.toList_some, Option.toList_some, List.map_singleton, List.map_singleton,
        seen_of_equivalent old new elses]

end Detection

namespace Miner

variable {σ : Type} {kinds : List ActionKind} {diff : Diff} {script : List EditOp}
  {set : ActionSet} {pair : Nat × Nat}

theorem Finds.reports_eq (finds : Finds diff script kinds set) {kind : ActionKind}
    (listed : kind ∈ kinds) {pairs : List (Nat × Nat)} {report : Nat × Nat → Option RepairAction}
    (scan : (Detection.rule kind).finds (.make diff script) set = pairs.filterMap report)
    (once : pairs.Nodup) (member : pair ∈ pairs)
    (about : ∀ other action, report other = some action → action.ifPair? = some other) :
    set.reports [kind] pair = (report pair).toList := by
  rw [ActionSet.reports, List.flatMap_singleton, ActionSet.actions, finds.get?_eq listed,
    Option.getD_some, scan]
  exact Detection.filter_scan once member about

theorem Finds.reports_part (finds : Finds diff script kinds set) {kind : ActionKind}
    (listed : kind ∈ kinds) {pairs : List (Nat × Nat)} {role : Role}
    {make : Nat → Nat → Nat → Nat → RepairAction}
    (scan : (Detection.rule kind).finds (.make diff script) set =
      pairs.filterMap fun pair => (Detection.changedPart? (.make diff script) role pair).map
        fun (before, after) => make pair.1 pair.2 before after)
    (about : ∀ before after part counterpart,
      (make before after part counterpart).ifPair? = some (before, after))
    (once : pairs.Nodup) (member : pair ∈ pairs) :
    (diff.PartDiffers script role pair → (set.reports [kind] pair).length = 1) ∧
      (¬ diff.PartDiffers script role pair → (set.reports [kind] pair).length = 0) := by
  have reported := finds.reports_eq listed scan once member (by
    intro other action shape
    obtain ⟨parts, _, rfl⟩ := Option.map_eq_some_iff.mp shape
    exact about _ _ _ _)
  rw [reported, ← Detection.changedPart?_isSome_iff]
  cases Detection.changedPart? (.make diff script) role pair with
  | none => exact ⟨fun there => (nomatch there), fun _ => rfl⟩
  | some parts => exact ⟨fun _ => rfl, fun missing => absurd rfl missing⟩

/-- A modified statement that was an if-statement and still is one, among all that a miner of these
categories finds. -/
structure FindsIf (diff : Diff) (script : List EditOp) (kinds : List ActionKind) (set : ActionSet)
    (pair : Nat × Nat) : Prop where
  finds : Finds diff script kinds set
  listed : ∀ kind ∈ ActionKind.ifParts, kind ∈ kinds
  member : pair ∈ set.modifiedStatements
  wasIf : diff.before.hasKind pair.1 .ifElse = true
  isIf : diff.after.hasKind pair.2 .ifElse = true

namespace FindsIf

theorem mem_modifiedIfs (found : FindsIf diff script kinds set pair) :
    pair ∈ Detection.modifiedOfKind (.make diff script) set .ifElse :=
  List.mem_filter.mpr ⟨found.member, Bool.and_eq_true_iff.mpr ⟨found.wasIf, found.isIf⟩⟩

theorem mem_survivingIfs (found : FindsIf diff script kinds set pair) :
    pair ∈ Detection.survivingIfs (.make diff script) := by
  have modified := found.finds.get?_needed (found.listed .replaceIfCondition (by decide))
    (show .modifyStatement ∈ _ by decide)
  have counterpart := ((Detection.mem_modifiedStatements modified).mp found.member).1
  exact Detection.mem_survivingIfs.mpr ⟨counterpart, found.wasIf, found.isIf⟩

theorem nodup_modifiedIfs (found : FindsIf diff script kinds set pair) :
    (Detection.modifiedOfKind (.make diff script) set .ifElse).Nodup :=
  Detection.nodup_modifiedOfKind _ found.finds.1.ordered .ifElse

theorem guards (found : FindsIf diff script kinds set pair) :
    (diff.PartDiffers script .condition pair →
        (set.reports [.replaceIfCondition] pair).length = 1) ∧
      (¬ diff.PartDiffers script .condition pair →
        (set.reports [.replaceIfCondition] pair).length = 0) :=
  found.finds.reports_part (found.listed .replaceIfCondition (by decide)) rfl (fun _ _ _ _ => rfl)
    found.nodup_modifiedIfs found.mem_modifiedIfs

theorem thens (found : FindsIf diff script kinds set pair) :
    (diff.PartDiffers script .thenBranch pair →
        (set.reports [.replaceThenBranch] pair).length = 1) ∧
      (¬ diff.PartDiffers script .thenBranch pair →
        (set.reports [.replaceThenBranch] pair).length = 0) :=
  found.finds.reports_part (found.listed .replaceThenBranch (by decide)) rfl (fun _ _ _ _ => rfl)
    (Detection.nodup_survivingIfs _) found.mem_survivingIfs

theorem replacedElse (found : FindsIf diff script kinds set pair) :
    set.reports [.replaceElseBranch] pair =
      ((Detection.changedPart? (.make diff script) .elseBranch pair).map
        fun (before, after) => .replaceElseBranch pair.1 pair.2 before after).toList := by
  apply found.finds.reports_eq (found.listed .replaceElseBranch (by decide)) rfl
    (Detection.nodup_survivingIfs _) found.mem_survivingIfs
  intro other action shape
  obtain ⟨parts, _, rfl⟩ := Option.map_eq_some_iff.mp shape
  rfl

theorem removedElse (found : FindsIf diff script kinds set pair) :
    set.reports [.removeElseBranch] pair =
      (if (diff.after.elseBranch? pair.2).isSome then none
        else (diff.before.elseBranch? pair.1).map (.removeElseBranch pair.1 pair.2)).toList := by
  apply found.finds.reports_eq (found.listed .removeElseBranch (by decide)) rfl
    (Detection.nodup_survivingIfs _) found.mem_survivingIfs
  intro other action shape
  split at shape
  · cases shape
  · obtain ⟨branch, _, rfl⟩ := Option.map_eq_some_iff.mp shape
    rfl

theorem gainedElse (found : FindsIf diff script kinds set pair) {kind : ActionKind}
    (listed : kind ∈ kinds) (fits : Nat → Bool) (make : Nat → Nat → Nat → RepairAction)
    (scan : (Detection.rule kind).finds (.make diff script) set =
      ((Detection.gainedElse (.make diff script) set).filter fun gain => fits gain.2.2).map
        fun (before, after, branch) => make before after branch)
    (about : ∀ before after branch, (make before after branch).ifPair? = some (before, after)) :
    set.reports [kind] pair =
      (if (diff.before.elseBranch? pair.1).isSome then none
        else ((diff.after.elseBranch? pair.2).filter fits).map (make pair.1 pair.2)).toList := by
  apply found.finds.reports_eq listed (scan.trans (Detection.gainedElse_scan _ set fits make))
    found.nodup_modifiedIfs found.mem_modifiedIfs
  intro other action shape
  split at shape
  · cases shape
  · obtain ⟨branch, _, rfl⟩ := Option.map_eq_some_iff.mp shape
    exact about _ _ _

theorem elses (found : FindsIf diff script kinds set pair) :
    (set.reports ActionKind.elseParts pair).length =
      if (Context.make diff script).equivalent (diff.before.elseBranch? pair.1)
        (diff.after.elseBranch? pair.2) = true then 0 else 1 := by
  have inserted := found.gainedElse (found.listed .insertElseBranch (by decide))
    (fun branch => !diff.after.hasKind branch .ifElse) .insertElseBranch rfl fun _ _ _ => rfl
  have chained := found.gainedElse (found.listed .insertElseIfBranch (by decide))
    (fun branch => diff.after.hasKind branch .ifElse) .insertElseIfBranch rfl fun _ _ _ => rfl
  rw [ActionKind.elseParts, ActionSet.reports_cons, ActionSet.reports_cons set .removeElseBranch,
    ActionSet.reports_cons set .insertElseBranch, found.replacedElse, found.removedElse, inserted,
    chained, Detection.changedPart?_eq]
  exact Detection.length_elseCases (.make diff script) (diff.before.elseBranch? pair.1)
    (diff.after.elseBranch? pair.2) _ _ _ _ _

theorem reports_ne_nil (found : FindsIf diff script kinds set pair)
    (labels : diff.before.label? pair.1 = diff.after.label? pair.2)
    (regular : diff.before.Regular pair.1) (alsoRegular : diff.after.Regular pair.2)
    (differs : (Context.make diff script).equivalent (some pair.1) (some pair.2) = false) :
    set.reports ActionKind.ifParts pair ≠ [] := by
  intro nothing
  rw [ActionKind.ifParts, ActionSet.reports_cons, ActionSet.reports_cons set .replaceThenBranch,
    List.append_eq_nil_iff, List.append_eq_nil_iff] at nothing
  obtain ⟨noGuard, noBranch, noElse⟩ := nothing
  have guards : ¬ diff.PartDiffers script .condition pair := by
    intro apart
    have once := found.guards.1 apart
    rw [noGuard] at once
    cases once
  have branches : ¬ diff.PartDiffers script .thenBranch pair := by
    intro apart
    have once := found.thens.1 apart
    rw [noBranch] at once
    cases once
  have elses : (Context.make diff script).equivalent (diff.before.elseBranch? pair.1)
      (diff.after.elseBranch? pair.2) = true := by
    by_contra apart
    have once := found.elses
    rw [noElse, if_neg apart] at once
    cases once
  rw [Detection.equivalent_of_parts found.wasIf found.isIf labels regular alsoRegular guards
    branches elses] at differs
  cases differs

end FindsIf

/-- If-statements are classified completely and without overlap. Let an if-statement be modified and
still be one. Of the four categories for else-branches one reports it, once, unless the two
else-branches, which may be missing, are equivalent. Guards are reported once if both are there and
differ, and so are then-branches. So if it keeps its label and consists of these parts only, it is
reported unless it is equivalent to what it has become. -/
theorem mine_ifParts {registry : Registry} (accepted : Registry.ofKinds kinds = .ok registry)
    (listed : ∀ kind ∈ ActionKind.ifParts, kind ∈ kinds) (storage : Storage (StateM σ))
    (diff : Diff) (state : σ) :
    ∃ outcome, ((Miner.mk registry none).mine storage diff).run state = (.ok outcome, state) ∧
      outcome.isAnalyzed = diff.edits.isSome ∧
      ∀ set, outcome.actions? = some set →
        ∃ script, diff.edits = some script ∧
          ∀ before after edits, .modifyStatement before after edits ∈ set.actions .modifyStatement →
            diff.before.hasKind before .ifElse = true → diff.after.hasKind after .ifElse = true →
            ((set.reports ActionKind.elseParts (before, after)).length =
              if (Context.make diff script).equivalent (diff.before.elseBranch? before)
                (diff.after.elseBranch? after) = true then 0 else 1) ∧
            ((diff.PartDiffers script .thenBranch (before, after) →
                (set.reports [.replaceThenBranch] (before, after)).length = 1) ∧
              (¬ diff.PartDiffers script .thenBranch (before, after) →
                (set.reports [.replaceThenBranch] (before, after)).length = 0)) ∧
            ((diff.PartDiffers script .condition (before, after) →
                (set.reports [.replaceIfCondition] (before, after)).length = 1) ∧
              (¬ diff.PartDiffers script .condition (before, after) →
                (set.reports [.replaceIfCondition] (before, after)).length = 0)) ∧
            (diff.before.label? before = diff.after.label? after →
              diff.before.Regular before → diff.after.Regular after →
              (Context.make diff script).equivalent (some before) (some after) = false →
              set.reports ActionKind.ifParts (before, after) ≠ []) := by
  obtain ⟨outcome, mined, analyzed, found⟩ := mine_accepted accepted storage diff state
  refine ⟨outcome, mined, analyzed, ?_⟩
  intro set there
  obtain ⟨script, scripted, finds, _⟩ := found set there
  refine ⟨script, scripted, ?_⟩
  intro before after edits reported wasIf isIf
  have ifs : FindsIf diff script kinds set (before, after) :=
    ⟨finds, listed, List.mem_filterMap.mpr ⟨_, reported, rfl⟩, wasIf, isIf⟩
  exact ⟨ifs.elses, ifs.thens, ifs.guards, ifs.reports_ne_nil⟩

end Miner

/-- An if-statement gets another guard and an else-branch with a further if-statement. -/
def Diff.extended : Diff where
  id := ⟨"r", "f", "a.c"⟩
  before := .ofTree (.node ⟨.translationUnit, none, none, none⟩
    [.node ⟨.empty, none, none, none⟩ [],
      .node ⟨.ifElse, none, none, none⟩
        [.node ⟨.identity, some "a", some .condition, none⟩ [],
          .node ⟨.exprStatement, none, some .thenBranch, none⟩ []]])
  after := .ofTree (.node ⟨.translationUnit, none, none, none⟩
    [.node ⟨.empty, none, none, none⟩ [],
      .node ⟨.ifElse, none, none, none⟩
        [.node ⟨.identity, some "b", some .condition, none⟩ [],
          .node ⟨.exprStatement, none, some .thenBranch, none⟩ [],
          .node ⟨.ifElse, none, some .elseBranch, none⟩
            [.node ⟨.identity, some "c", some .condition, none⟩ [],
              .node ⟨.exprStatement, none, some .thenBranch, none⟩ []]]])
  correspondence := ⟨[(0, 0), (1, 1), (2, 2), (3, 3), (4, 4)], by decide, by decide⟩
  edits := some [.update 3 3, .insert 5, .insert 6, .insert 7]
  fixFiles := ["a.c"]
  in_trees := by decide

namespace Miner

theorem mine_ifParts_extended :
    ∃ (registry : Registry) (outcome : MiningOutcome) (set : ActionSet),
      Registry.ofKinds (.modifyStatement :: ActionKind.ifParts) = .ok registry ∧
      ((Miner.mk registry none).mine Disk.storage .extended).run .empty =
        (.ok outcome, .empty) ∧
      outcome.actions? = some set ∧ (2, 2) ∈ set.modifiedStatements ∧
      (set.reports ActionKind.elseParts (2, 2)).length = 1 ∧
      (set.reports [.replaceIfCondition] (2, 2)).length = 1 ∧
      set.reports ActionKind.ifParts (2, 2) ≠ [] := by
  have accepted : Registry.ofKinds (.modifyStatement :: ActionKind.ifParts) =
      .ok (.builtin (.modifyStatement :: ActionKind.ifParts)) :=
    Registry.ofKinds_ok_iff.mpr ⟨by decide, by unfold Pipeline.Closed; decide, rfl⟩
  obtain ⟨outcome, mined, analyzed, found⟩ :=
    mine_ifParts accepted (by decide) Disk.storage .extended .empty
  obtain ⟨_, again, _, alsoFound⟩ := mine_accepted accepted Disk.storage .extended .empty
  obtain rfl := Except.ok.inj (Prod.mk.inj (mined.symm.trans again)).1
  cases outcome with
  | notAnalyzable reason => cases analyzed
  | analyzed set stats =>
    obtain ⟨script, scripted, law⟩ := found set rfl
    obtain rfl := Option.some.inj scripted
    obtain ⟨_, same, finds, _⟩ := alsoFound set rfl
    obtain rfl := Option.some.inj same
    have modified : (2, 2) ∈ set.modifiedStatements :=
      (Detection.mem_modifiedStatements (finds.get?_eq (by decide))).mpr
        ⟨by decide, .insert 5, by decide,
          Detection.touches_of_subjects (by decide) (by decide)⟩
    have reported : ∃ edits, .modifyStatement 2 2 edits ∈ set.actions .modifyStatement := by
      obtain ⟨action, listed, shape⟩ := List.mem_filterMap.mp modified
      cases action <;> cases shape
      exact ⟨_, listed⟩
    obtain ⟨edits, reported⟩ := reported
    obtain ⟨elses, _, guards, complete⟩ := law 2 2 edits reported (by decide) (by decide)
    refine ⟨_, _, set, accepted, mined, rfl, modified, elses,
      guards.1 ⟨3, 3, by decide, by decide, by decide +kernel⟩, ?_⟩
    exact complete (by decide) (.inl (by decide)) (.inr (by decide)) (by decide +kernel)

end Miner

end RepairMining
