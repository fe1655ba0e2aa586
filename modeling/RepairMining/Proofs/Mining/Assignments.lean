import RepairMining.Proofs.Mining.Branches
import RepairMining.Proofs.Mining.Expressions

namespace RepairMining

/-- The parts of an assignment whose changes are told apart. -/
inductive AssignmentPart where
  | lhs
  | op
  | rhs
  deriving DecidableEq, Repr

namespace AssignmentPart

def role : AssignmentPart → Role
  | lhs => .lhs
  | op => .op
  | rhs => .rhs

def category : AssignmentPart → ActionKind
  | lhs => .replaceAssignmentLhs
  | op => .replaceAssignmentOp
  | rhs => .replaceAssignmentRhs

def report : AssignmentPart → Nat → Nat → RepairAction
  | lhs => .replaceAssignmentLhs
  | op => .replaceAssignmentOp
  | rhs => .replaceAssignmentRhs

def all : List AssignmentPart := [lhs, op, rhs]

theorem rule_category (part : AssignmentPart) :
    Detection.rule part.category = Detection.partRule part.role part.report := by
  cases part <;> rfl

theorem role_inj {one other : AssignmentPart} : one.role = other.role ↔ one = other := by
  cases one <;> cases other <;> decide

theorem mem_assignmentParts {role : Role} :
    role ∈ Detection.assignmentParts ↔ ∃ part : AssignmentPart, part.role = role := by
  constructor
  · intro listed
    simp only [Detection.assignmentParts, List.mem_cons, List.not_mem_nil, or_false] at listed
    obtain rfl | rfl | rfl := listed
    · exact ⟨lhs, rfl⟩
    · exact ⟨op, rfl⟩
    · exact ⟨rhs, rfl⟩
  · rintro ⟨part, rfl⟩
    cases part <;> decide

theorem filter_eq_singleton_iff {keep : Role → Bool} (part : AssignmentPart) :
    Detection.assignmentParts.filter keep = [part.role] ↔
      ∀ other : AssignmentPart, keep other.role = true ↔ other = part := by
  constructor
  · intro kept other
    have there := mem_assignmentParts.mpr ⟨other, rfl⟩
    calc keep other.role = true
      _ ↔ other.role ∈ Detection.assignmentParts.filter keep := by
        rw [List.mem_filter, and_iff_right there]
      _ ↔ other = part := by rw [kept, List.mem_singleton, role_inj]
  · intro only
    have same : ∀ role ∈ Detection.assignmentParts, keep role = (role == part.role) := by
      intro role listed
      obtain ⟨other, rfl⟩ := mem_assignmentParts.mp listed
      rw [Bool.eq_iff_iff, only other, beq_iff_eq, role_inj]
    rw [List.filter_congr same]
    cases part <;> decide

theorem flatMap_all {α : Type} {scan : AssignmentPart → List α} (part : AssignmentPart)
    (others : ∀ other, other ≠ part → scan other = []) : all.flatMap scan = scan part := by
  cases part <;> simp [all, others]

end AssignmentPart

namespace Diff

/-- A part is not the same before and after the fix. One that is missing is the same as one that is
missing, too. -/
def PartChanged (diff : Diff) (script : List EditOp) (pair : Nat × Nat) (part : AssignmentPart) :
    Prop :=
  (Context.make diff script).equivalent (diff.before.part? pair.1 part.role)
    (diff.after.part? pair.2 part.role) = false

/-- One part of an assignment changed and no other one, and it is there before and after the fix. -/
structure Replaces (diff : Diff) (script : List EditOp) (pair : Nat × Nat) (part : AssignmentPart)
    (old new : Nat) : Prop where
  was : diff.before.part? pair.1 part.role = some old
  is : diff.after.part? pair.2 part.role = some new
  only : ∀ other, diff.PartChanged script pair other ↔ other = part

def assignment? (diff : Diff) : RepairAction → Option (Nat × Nat)
  | .replaceAssignmentLhs old new | .replaceAssignmentOp old new
  | .replaceAssignmentRhs old new =>
    (diff.before.parent? old).bind fun before =>
      (diff.after.parent? new).map fun after => (before, after)
  | _ => none

variable {diff : Diff} {script : List EditOp} {pair : Nat × Nat} {part other : AssignmentPart}
  {old new : Nat}

theorem Replaces.assignment?_report (replaces : diff.Replaces script pair part old new) :
    diff.assignment? (part.report old new) = some pair := by
  have before := Arena.parent?_part replaces.was
  have after := Arena.parent?_part replaces.is
  cases part <;> simp [Diff.assignment?, AssignmentPart.report, before, after]

theorem Replaces.part_eq (replaces : diff.Replaces script pair part old new) {was is : Nat}
    (also : diff.Replaces script pair other was is) : part = other :=
  (also.only part).mp ((replaces.only part).mpr rfl)

end Diff

/-- An assignment with its three parts in their order and nothing else. -/
def Arena.Threefold (arena : Arena) (node : Nat) : Prop :=
  (arena.children node).map arena.role? = AssignmentPart.all.map fun part => some part.role

theorem Arena.Threefold.children {arena : Arena} {node : Nat} (threefold : arena.Threefold node) :
    ∃ child : AssignmentPart → Nat,
      (∀ part, arena.part? node part.role = some (child part)) ∧
        arena.children node = AssignmentPart.all.map child := by
  obtain ⟨lhs, rest, listed, left, roles⟩ := List.map_eq_cons_iff.mp threefold
  obtain ⟨op, rest, rfl, middle, roles⟩ := List.map_eq_cons_iff.mp roles
  obtain ⟨rhs, rest, rfl, right, roles⟩ := List.map_eq_cons_iff.mp roles
  obtain rfl := List.map_eq_nil_iff.mp roles
  refine ⟨fun | .lhs => lhs | .op => op | .rhs => rhs, ?_, listed⟩
  intro part
  rw [Arena.part?, listed]
  cases part <;> simp [AssignmentPart.role, left, middle, right]

namespace Detection

variable {diff : Diff} {script : List EditOp} {set : ActionSet} {pair : Nat × Nat}
  {part : AssignmentPart} {action : RepairAction} {old new : Nat}

theorem onlyChange?_eq_some_iff :
    onlyChange? (.make diff script) part.role pair = some (old, new) ↔
      diff.Replaces script pair part old new := by
  have single : changedParts (.make diff script) pair = [part.role] ↔
      ∀ other, diff.PartChanged script pair other ↔ other = part := by
    rw [changedParts, AssignmentPart.filter_eq_singleton_iff]
    simp only [Bool.not_eq_true']
    rfl
  constructor
  · intro found
    obtain ⟨was, is⟩ := onlyChange_parts found
    refine ⟨was, is, single.mp ?_⟩
    by_contra several
    rw [onlyChange?, if_neg several] at found
    cases found
  · intro replaces
    have was : (Context.make diff script).before.part? pair.1 part.role = some old := replaces.was
    have is : (Context.make diff script).after.part? pair.2 part.role = some new := replaces.is
    rw [onlyChange?, if_pos (single.mpr replaces.only), was, is]

theorem finds_part (diff : Diff) (script : List EditOp) (set : ActionSet) (part : AssignmentPart) :
    (rule part.category).finds (.make diff script) set =
      set.modifiedAssignments.filterMap fun pair =>
        (onlyChange? (.make diff script) part.role pair).map fun (before, after) =>
          part.report before after := by
  rw [AssignmentPart.rule_category]
  exact List.map_filterMap

theorem mem_finds_part : action ∈ (rule part.category).finds (.make diff script) set ↔
    ∃ pair ∈ set.modifiedAssignments, ∃ old new, diff.Replaces script pair part old new ∧
      action = part.report old new := by
  simp only [finds_part, List.mem_filterMap, Option.map_eq_some_iff, Prod.exists,
    onlyChange?_eq_some_iff, eq_comm (a := action)]

theorem exists_partChanged (alters : diff.Alters script .assignment pair)
    (labels : diff.before.label? pair.1 = diff.after.label? pair.2)
    (threefold : diff.before.Threefold pair.1) (alsoThreefold : diff.after.Threefold pair.2) :
    ∃ part, diff.PartChanged script pair part := by
  by_contra unchanged
  have kind := Arena.hasKind_iff.mp alters.old
  have alsoKind := Arena.hasKind_iff.mp alters.new
  obtain ⟨child, parts, listed⟩ := threefold.children
  obtain ⟨other, alsoParts, alsoListed⟩ := alsoThreefold.children
  have same (part : AssignmentPart) :
      (Context.make diff script).equivalent (some (child part)) (some (other part)) = true := by
    rw [← parts part, ← alsoParts part]
    by_contra changed
    exact unchanged ⟨part, Bool.eq_false_iff.mpr changed⟩
  have below : NodeHashes.below .concrete diff.before pair.1 =
      NodeHashes.below .concrete diff.after pair.2 := by
    rw [NodeHashes.below, NodeHashes.below, listed, alsoListed, List.map_map, List.map_map]
    exact List.map_congr_left fun part _ =>
      seen_of_equivalent (parts part) (alsoParts part) (same part)
  have equivalent := alters.differs
  rw [equivalent_of_below (Arena.contains_of_kind? kind) (Arena.contains_of_kind? alsoKind)
    (kind.trans alsoKind.symm) labels below] at equivalent
  cases equivalent

theorem replaces_of_rest (alters : diff.Alters script .assignment pair)
    (labels : diff.before.label? pair.1 = diff.after.label? pair.2)
    (threefold : diff.before.Threefold pair.1) (alsoThreefold : diff.after.Threefold pair.2)
    (was : diff.before.part? pair.1 part.role = some old)
    (is : diff.after.part? pair.2 part.role = some new)
    (rest : ∀ other, other ≠ part → ¬ diff.PartChanged script pair other) :
    diff.Replaces script pair part old new := by
  have single {other : AssignmentPart} (changed : diff.PartChanged script pair other) :
      other = part := by
    by_contra apart
    exact rest other apart changed
  refine ⟨was, is, fun other => ⟨single, ?_⟩⟩
  rintro rfl
  obtain ⟨found, changed⟩ := exists_partChanged alters labels threefold alsoThreefold
  exact single changed ▸ changed

theorem not_partChanged_of_leaf {part : AssignmentPart} (old new : Nat)
    (was : diff.before.part? pair.1 part.role = some old ∧ diff.before.children old = [])
    (is : diff.after.part? pair.2 part.role = some new ∧ diff.after.children new = [])
    (same : diff.before.kind? old = diff.after.kind? new ∧
      diff.before.label? old = diff.after.label? new) : ¬ diff.PartChanged script pair part := by
  obtain ⟨was, leaf⟩ := was
  obtain ⟨is, alsoLeaf⟩ := is
  have below : NodeHashes.below .concrete diff.before old =
      NodeHashes.below .concrete diff.after new := by
    rw [NodeHashes.below, NodeHashes.below, leaf, alsoLeaf, List.map_nil, List.map_nil]
  rw [Diff.PartChanged, was, is, equivalent_of_below (Arena.contains_part was)
    (Arena.contains_part is) same.1 same.2 below]
  exact Bool.noConfusion

end Detection

namespace ActionSet

variable {diff : Diff} {script : List EditOp} {set : ActionSet} {pair : Nat × Nat}
  {part : AssignmentPart} {action : RepairAction} {old new : Nat}

/-- What is reported of one part of an assignment. -/
def told (set : ActionSet) (diff : Diff) (pair : Nat × Nat) (part : AssignmentPart) :
    List RepairAction :=
  (set.actions part.category).filter fun action => diff.assignment? action = some pair

/-- What is reported of an assignment under the three categories. -/
def contributions (set : ActionSet) (diff : Diff) (pair : Nat × Nat) : List RepairAction :=
  AssignmentPart.all.flatMap (set.told diff pair)

theorem Genuine.replaces_of_mem (genuine : set.Genuine (.make diff script))
    (listed : action ∈ set.actions part.category) :
    ∃ pair ∈ set.modifiedAssignments, ∃ old new, diff.Replaces script pair part old new ∧
      action = part.report old new :=
  Detection.mem_finds_part.mp (genuine.mem_finds listed)

theorem Genuine.told_eq_nil (genuine : set.Genuine (.make diff script))
    (apart : ∀ old new, ¬ diff.Replaces script pair part old new) :
    set.told diff pair part = [] := by
  apply List.filter_eq_nil_iff.mpr
  intro action listed about
  obtain ⟨other, _, old, new, replaces, rfl⟩ := genuine.replaces_of_mem listed
  rw [replaces.assignment?_report, decide_eq_true_eq, Option.some_inj] at about
  exact apart old new (about ▸ replaces)

theorem Genuine.contributions_eq_nil (genuine : set.Genuine (.make diff script))
    (apart : ∀ part old new, ¬ diff.Replaces script pair part old new) :
    set.contributions diff pair = [] := by
  rw [contributions, List.flatMap_eq_nil_iff]
  exact fun part _ => genuine.told_eq_nil (apart part)

theorem Genuine.assignment_unique (genuine : set.Genuine (.make diff script)) {other : Nat × Nat}
    (replaces : diff.Replaces script pair part old new) (listed : pair ∈ set.modifiedAssignments)
    (also : other ∈ set.modifiedAssignments)
    (shares : diff.before.part? other.1 part.role = some old ∨
      diff.after.part? other.2 part.role = some new) : other = pair := by
  apply genuine.altered_unique .assignment listed also
  rcases shares with was | is
  · have parents := (Arena.parent?_part was).symm.trans (Arena.parent?_part replaces.was)
    exact .inl (Option.some.inj parents)
  · have parents := (Arena.parent?_part is).symm.trans (Arena.parent?_part replaces.is)
    exact .inr (Option.some.inj parents)

end ActionSet

namespace Miner

variable {σ : Type} {kinds : List ActionKind} {diff : Diff} {script : List EditOp}
  {set : ActionSet} {pair : Nat × Nat} {part : AssignmentPart} {old new : Nat}

theorem Finds.told_eq (finds : Finds diff script kinds set) (listed : part.category ∈ kinds)
    (member : pair ∈ set.modifiedAssignments)
    (replaces : diff.Replaces script pair part old new) :
    set.told diff pair part = [part.report old new] := by
  have once : set.modifiedAssignments.Nodup := finds.1.ordered.assignments.nodup
  rw [ActionSet.told, ActionSet.actions, finds.get?_eq listed, Option.getD_some,
    Detection.finds_part, Detection.filter_scan once member,
    Detection.onlyChange?_eq_some_iff.mpr replaces]
  · rfl
  · intro other action shape
    obtain ⟨⟨was, is⟩, change, rfl⟩ := Option.map_eq_some_iff.mp shape
    exact (Detection.onlyChange?_eq_some_iff.mp change).assignment?_report

theorem Finds.contributions_eq (finds : Finds diff script kinds set)
    (listed : part.category ∈ kinds) (member : pair ∈ set.modifiedAssignments)
    (replaces : diff.Replaces script pair part old new) :
    set.contributions diff pair = [part.report old new] := by
  rw [ActionSet.contributions, AssignmentPart.flatMap_all part,
    finds.told_eq listed member replaces]
  intro other apart
  apply finds.1.told_eq_nil
  intro was is also
  exact apart (also.part_eq replaces)

/-- Assignments are refined exclusively. If one of the three parts of a changed assignment changed
and the others did not, and it is there before and after the fix, the three categories report of
this assignment exactly the replacement of the part, and otherwise nothing. Whatever they report
comes from exactly one changed assignment, which lies in a modified statement. If an assignment
keeps its label and consists of its three parts on both sides, one of them changed. -/
theorem mine_assignments {registry : Registry} (accepted : Registry.ofKinds kinds = .ok registry)
    (storage : Storage (StateM σ)) (diff : Diff) (state : σ) :
    ∃ outcome, ((Miner.mk registry none).mine storage diff).run state = (.ok outcome, state) ∧
      outcome.isAnalyzed = diff.edits.isSome ∧
      ∀ set, outcome.actions? = some set →
        ∃ script, diff.edits = some script ∧
          (∀ pair ∈ set.modifiedAssignments,
            (∀ part old new, diff.Replaces script pair part old new → part.category ∈ kinds →
              set.contributions diff pair = [part.report old new]) ∧
            ((∀ part old new, ¬ diff.Replaces script pair part old new) →
              set.contributions diff pair = []) ∧
            (diff.before.label? pair.1 = diff.after.label? pair.2 →
              diff.before.Threefold pair.1 → diff.after.Threefold pair.2 →
              ∃ part, diff.PartChanged script pair part)) ∧
          ∀ part : AssignmentPart, ∀ action ∈ set.actions part.category,
            ∃ pair ∈ set.modifiedAssignments, ∃ old new,
              diff.Replaces script pair part old new ∧ action = part.report old new ∧
              set.WithinModified diff pair.1 ∧
              ∀ other ∈ set.modifiedAssignments,
                diff.before.part? other.1 part.role = some old ∨
                  diff.after.part? other.2 part.role = some new → other = pair := by
  obtain ⟨outcome, mined, analyzed, found⟩ := mine_accepted accepted storage diff state
  refine ⟨outcome, mined, analyzed, ?_⟩
  intro set there
  obtain ⟨script, scripted, finds, _⟩ := found set there
  refine ⟨script, scripted, ?_, ?_⟩
  · intro pair member
    have alters := (finds.1.alters_of_altered .assignment member).1
    exact ⟨fun part old new replaces listed => finds.contributions_eq listed member replaces,
      finds.1.contributions_eq_nil, Detection.exists_partChanged alters⟩
  · intro part action listed
    obtain ⟨pair, member, old, new, replaces, made⟩ := finds.1.replaces_of_mem listed
    have within := (finds.1.alters_of_altered .assignment member).2
    exact ⟨pair, member, old, new, replaces, made, within,
      fun other also shares => finds.1.assignment_unique replaces member also shares⟩

end Miner

/-- The operator of an assignment changes that is itself assigned. -/
def Diff.accumulated : Diff where
  id := ⟨"r", "f", "a.c"⟩
  before := .ofTree (.node ⟨.translationUnit, none, none, none⟩
    [.node ⟨.exprStatement, none, none, none⟩
      [.node ⟨.assignment, none, none, none⟩
        [.node ⟨.identity, some "x", some .lhs, none⟩ [],
          .node ⟨.operator, some "=", some .op, none⟩ [],
          .node ⟨.assignment, none, some .rhs, none⟩
            [.node ⟨.identity, some "y", some .lhs, none⟩ [],
              .node ⟨.operator, some "=", some .op, none⟩ [],
              .node ⟨.constant, some "1", some .rhs, none⟩ []]]]])
  after := .ofTree (.node ⟨.translationUnit, none, none, none⟩
    [.node ⟨.exprStatement, none, none, none⟩
      [.node ⟨.assignment, none, none, none⟩
        [.node ⟨.identity, some "x", some .lhs, none⟩ [],
          .node ⟨.operator, some "=", some .op, none⟩ [],
          .node ⟨.assignment, none, some .rhs, none⟩
            [.node ⟨.identity, some "y", some .lhs, none⟩ [],
              .node ⟨.operator, some "+=", some .op, none⟩ [],
              .node ⟨.constant, some "1", some .rhs, none⟩ []]]]])
  correspondence := ⟨[(0, 0), (1, 1), (2, 2), (3, 3), (4, 4), (5, 5), (6, 6), (7, 7), (8, 8)],
    by decide, by decide⟩
  edits := some [.update 7 7]
  fixFiles := ["a.c"]
  in_trees := by decide

theorem Diff.alters_accumulated :
    Diff.accumulated.Alters [.update 7 7] .assignment (2, 2) ∧
      Diff.accumulated.Alters [.update 7 7] .assignment (5, 5) := by
  constructor
  · exact ⟨by decide, by decide, by decide, by decide +kernel⟩
  · exact ⟨by decide, by decide, by decide, by decide +kernel⟩

theorem Diff.threefold_accumulated :
    (Diff.accumulated.before.Threefold 2 ∧ Diff.accumulated.after.Threefold 2) ∧
      Diff.accumulated.before.Threefold 5 ∧ Diff.accumulated.after.Threefold 5 := by
  unfold Arena.Threefold
  decide

theorem Diff.replaces_accumulated :
    Diff.accumulated.Replaces [.update 7 7] (2, 2) .rhs 5 5 ∧
      Diff.accumulated.Replaces [.update 7 7] (5, 5) .op 7 7 := by
  obtain ⟨⟨was, is⟩, inner, alsoInner⟩ := threefold_accumulated
  constructor
  · apply Detection.replaces_of_rest alters_accumulated.1 (by decide) was is (by decide) (by decide)
    intro other apart
    cases other with
    | rhs => exact absurd rfl apart
    | lhs => exact Detection.not_partChanged_of_leaf 3 3 (by decide) (by decide) (by decide)
    | op => exact Detection.not_partChanged_of_leaf 4 4 (by decide) (by decide) (by decide)
  · apply Detection.replaces_of_rest alters_accumulated.2 (by decide) inner alsoInner (by decide)
      (by decide)
    intro other apart
    cases other with
    | op => exact absurd rfl apart
    | lhs => exact Detection.not_partChanged_of_leaf 6 6 (by decide) (by decide) (by decide)
    | rhs => exact Detection.not_partChanged_of_leaf 8 8 (by decide) (by decide) (by decide)

namespace Miner

theorem mine_assignments_accumulated :
    ∃ (registry : Registry) (outcome : MiningOutcome) (set : ActionSet),
      Registry.ofKinds [.modifyStatement, .modifyAssignment, .replaceAssignmentLhs,
        .replaceAssignmentOp, .replaceAssignmentRhs] = .ok registry ∧
      ((Miner.mk registry none).mine Disk.storage .accumulated).run .empty =
        (.ok outcome, .empty) ∧
      outcome.actions? = some set ∧
      (2, 2) ∈ set.modifiedAssignments ∧ (5, 5) ∈ set.modifiedAssignments ∧
      set.contributions .accumulated (2, 2) = [.replaceAssignmentRhs 5 5] ∧
      set.contributions .accumulated (5, 5) = [.replaceAssignmentOp 7 7] ∧
      ∃ part, Diff.accumulated.PartChanged [.update 7 7] (5, 5) part := by
  have accepted : Registry.ofKinds [.modifyStatement, .modifyAssignment, .replaceAssignmentLhs,
      .replaceAssignmentOp, .replaceAssignmentRhs] =
        .ok (.builtin [.modifyStatement, .modifyAssignment, .replaceAssignmentLhs,
          .replaceAssignmentOp, .replaceAssignmentRhs]) :=
    Registry.ofKinds_ok_iff.mpr ⟨by decide, by unfold Pipeline.Closed; decide, rfl⟩
  obtain ⟨outcome, mined, analyzed, found⟩ :=
    mine_assignments accepted Disk.storage .accumulated .empty
  cases outcome with
  | notAnalyzable reason => cases analyzed
  | analyzed set stats =>
    obtain ⟨script, scripted, split, _⟩ := found set rfl
    obtain rfl := Option.some.inj scripted
    have finds := finds_of_mined accepted mined rfl rfl
    have modifies : Diff.accumulated.Modifies [.update 7 7] 1 1 :=
      ⟨by decide, .update 7 7, by decide, Detection.touches_of_subjects (by decide) (by decide)⟩
    have assignment {pair : Nat × Nat} (above : 1 ∈ Diff.accumulated.before.chain pair.1)
        (alters : Diff.accumulated.Alters [.update 7 7] .assignment pair) :
        pair ∈ set.modifiedAssignments :=
      finds.mem_altered .assignment (by decide) (by decide) modifies above alters
    have outer := assignment (by decide) Diff.alters_accumulated.1
    have inner := assignment (by decide) Diff.alters_accumulated.2
    obtain ⟨outerTold, _, _⟩ := split (2, 2) outer
    obtain ⟨innerTold, _, complete⟩ := split (5, 5) inner
    have replaced := outerTold .rhs 5 5 Diff.replaces_accumulated.1 (by decide)
    have changed := innerTold .op 7 7 Diff.replaces_accumulated.2 (by decide)
    exact ⟨_, _, set, accepted, mined, rfl, outer, inner, replaced, changed,
      complete (by decide) Diff.threefold_accumulated.2.1 Diff.threefold_accumulated.2.2⟩

end Miner

end RepairMining
