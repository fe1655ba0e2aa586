import RepairMining.Proofs.Mining.Deletions

namespace RepairMining

namespace Diff

def KeptBefore (diff : Diff) (node : Nat) : Prop :=
  diff.before.isStatement node = true ∧ diff.Survives node

def KeptAfter (diff : Diff) (node : Nat) : Prop :=
  diff.after.isStatement node = true ∧ diff.Inherited node

/-- The statements before the fix that an edit counts for. A node that is inserted or deleted counts
for the nearest statement that is kept, a node that is updated for its nearest statement, if that is
kept. A move counts for what is kept around the place that is left and around the place that is
reached, not for the node that is moved. -/
inductive Touches (diff : Diff) : EditOp → Nat → Prop
  | insert {node survivor stmt : Nat} (nearest : diff.after.Nearest diff.KeptAfter node survivor)
      (counterpart : (stmt, survivor) ∈ diff.correspondence.pairs) :
      Touches diff (.insert node) stmt
  | delete {node stmt : Nat} (nearest : diff.before.Nearest diff.KeptBefore node stmt) :
      Touches diff (.delete node) stmt
  | update {node after stmt : Nat}
      (nearest : diff.before.Nearest (fun other => diff.before.isStatement other = true) node stmt)
      (kept : diff.Survives stmt) : Touches diff (.update node after) stmt
  | leave {source target stmt : Nat}
      (nearest : diff.before.Nearest
        (fun other => diff.before.ProperAncestor other source ∧ diff.KeptBefore other)
        source stmt) :
      Touches diff (.move source target) stmt
  | reach {source target survivor stmt : Nat}
      (nearest : diff.after.Nearest
        (fun other => diff.after.ProperAncestor other target ∧ diff.KeptAfter other)
        target survivor)
      (counterpart : (stmt, survivor) ∈ diff.correspondence.pairs) :
      Touches diff (.move source target) stmt

theorem Touches.survives {diff : Diff} {op : EditOp} {stmt : Nat} (touches : diff.Touches op stmt) :
    diff.Survives stmt := by
  cases touches with
  | insert nearest counterpart => exact ⟨_, counterpart⟩
  | delete nearest => exact nearest.holds.2
  | update nearest kept => exact kept
  | leave nearest => exact nearest.holds.2.2
  | reach nearest counterpart => exact ⟨_, counterpart⟩

/-- A statement and its counterpart, if some edit counts for it. -/
def Modifies (diff : Diff) (script : List EditOp) (before after : Nat) : Prop :=
  (before, after) ∈ diff.correspondence.pairs ∧ ∃ op ∈ script, diff.Touches op before

theorem Touches.unique {diff : Diff} {op : EditOp} {first second : Nat}
    (stays : ∀ source target, op ≠ .move source target) (one : diff.Touches op first)
    (other : diff.Touches op second) : first = second := by
  cases one with
  | insert nearest counterpart =>
    cases other with
    | insert alsoNearest alsoCounterpart =>
      obtain rfl := nearest.unique alsoNearest
      exact (diff.correspondence.oneToOne_pairs _ counterpart _ alsoCounterpart).mpr rfl
  | delete nearest =>
    cases other with
    | delete alsoNearest => exact nearest.unique alsoNearest
  | update nearest =>
    cases other with
    | update alsoNearest => exact nearest.unique alsoNearest
  | leave => exact absurd rfl (stays _ _)
  | reach => exact absurd rfl (stays _ _)

end Diff

/-- A statement with its counterpart and the edits that it was modified by. -/
structure Modification where
  before : Nat
  after : Nat
  edits : List EditOp

def Modification.action (entry : Modification) : RepairAction :=
  .modifyStatement entry.before entry.after entry.edits

/-- A modified statement with all edits that count for it. -/
structure Diff.Attributes (diff : Diff) (script : List EditOp) (entry : Modification) : Prop where
  counterpart : (entry.before, entry.after) ∈ diff.correspondence.pairs
  nonempty : entry.edits ≠ []
  once : entry.edits.Nodup
  exact : ∀ op, op ∈ entry.edits ↔ op ∈ script ∧ diff.Touches op entry.before

namespace Detection

variable {diff : Diff} {script : List EditOp} {stmt : Nat}

theorem survivorAroundBefore_iff {node : Nat} :
    survivorAroundBefore (.make diff script) node = some stmt ↔
      diff.before.Nearest diff.KeptBefore node stmt :=
  Arena.enclosingStatementWhere?_eq_some_iff fun _ => Diff.mapsBefore_iff

theorem survivorAroundAfter_iff {node : Nat} :
    survivorAroundAfter (.make diff script) node = some stmt ↔
      ∃ survivor, diff.after.Nearest diff.KeptAfter node survivor ∧
        (stmt, survivor) ∈ diff.correspondence.pairs := by
  have nearest {survivor : Nat} :
      (Context.make diff script).after.enclosingStatementWhere? node
          (Context.make diff script).mapsAfter = some survivor ↔
        diff.after.Nearest diff.KeptAfter node survivor :=
    Arena.enclosingStatementWhere?_eq_some_iff fun _ => Diff.mapsAfter_iff
  simp only [survivorAroundAfter, Option.bind_eq_some_iff, nearest, Context.beforeOf,
    Correspondence.before?_eq_some_iff]
  rfl

theorem mem_subjects {op : EditOp} (kept : diff.Survives stmt) :
    stmt ∈ subjects (.make diff script) op ↔ diff.Touches op stmt := by
  cases op with
  | insert node =>
    rw [subjects, Option.mem_toList, survivorAroundAfter_iff]
    constructor
    · rintro ⟨survivor, nearest, counterpart⟩
      exact .insert nearest counterpart
    · rintro (⟨nearest, counterpart⟩)
      exact ⟨_, nearest, counterpart⟩
  | delete node =>
    rw [subjects, Option.mem_toList, survivorAroundBefore_iff]
    constructor
    · exact .delete
    · rintro ⟨⟩
      assumption
  | update node after =>
    rw [subjects, Option.mem_toList]
    constructor
    · intro found
      exact .update (Arena.nearest?_eq_some_iff.mp found) kept
    · rintro ⟨⟩
      exact Arena.nearest?_eq_some_iff.mpr ‹_›
  | move source target =>
    -- The place of the node counts and not the node itself, hence the nearest proper ancestors.
    simp only [subjects, List.mem_eraseDups, List.mem_append, Option.mem_toList,
      Option.bind_eq_some_iff, survivorAroundBefore_iff, survivorAroundAfter_iff]
    constructor
    · rintro (left | ⟨parent, known, survivor, nearest, counterpart⟩)
      · exact .leave (Arena.nearest_properAncestor.mpr left)
      · exact .reach (Arena.nearest_properAncestor.mpr ⟨parent, known, nearest⟩) counterpart
    · intro touches
      cases touches with
      | leave nearest => exact .inl (Arena.nearest_properAncestor.mp nearest)
      | reach nearest counterpart =>
        obtain ⟨parent, known, nearest⟩ := Arena.nearest_properAncestor.mp nearest
        exact .inr ⟨parent, known, _, nearest, counterpart⟩

theorem touches_of_subjects {op : EditOp} (kept : diff.correspondence.mapsBefore stmt = true)
    (found : stmt ∈ subjects (.make diff []) op) : diff.Touches op stmt :=
  (mem_subjects (Diff.mapsBefore_iff.mp kept)).mp found

def modifications (context : Context) : List Modification :=
  context.before.nodes.filterMap fun stmt =>
    match editsOf (attribution context) stmt with
    | [] => none
    | edits => (context.afterOf stmt).map fun after => ⟨stmt, after, edits⟩

theorem modified_eq (context : Context) :
    modified context = (modifications context).map Modification.action := by
  rw [modified, grouped, modifications, List.map_filterMap]
  congr 1
  funext stmt
  cases editsOf (attribution context) stmt with
  | nil => rfl
  | cons op edits =>
    cases context.afterOf stmt <;> rfl

theorem modifications_increasing (context : Context) :
    (modifications context).Pairwise fun one other => one.before < other.before := by
  apply pairwise_scan (fun stmt => stmt) Modification.before List.pairwise_lt_range
  intro stmt entry shape
  split at shape
  · cases shape
  · obtain ⟨after, _, rfl⟩ := Option.map_eq_some_iff.mp shape
    rfl

theorem mem_modifications {context : Context} {entry : Modification} :
    entry ∈ modifications context ↔ context.afterOf entry.before = some entry.after ∧
      entry.edits ≠ [] ∧ entry.edits = editsOf (attribution context) entry.before := by
  rw [modifications, List.mem_filterMap]
  constructor
  · rintro ⟨stmt, _, shape⟩
    split at shape
    · cases shape
    · rename_i nonempty
      obtain ⟨after, counterpart, rfl⟩ := Option.map_eq_some_iff.mp shape
      exact ⟨counterpart, nonempty, rfl⟩
  · rintro ⟨counterpart, nonempty, same⟩
    have inside := (Context.pair_of_afterOf counterpart).1
    refine ⟨entry.before, List.mem_range.mpr (Arena.contains_iff.mp inside), ?_⟩
    rw [← same]
    split
    · rename_i nothing
      exact absurd nothing nonempty
    · rw [counterpart]
      rfl

theorem eq_of_mem_modifications {context : Context} {one other : Modification}
    (member : one ∈ modifications context) (alsoMember : other ∈ modifications context)
    (same : one.before = other.before) : one = other := by
  obtain ⟨counterpart, _, edits⟩ := mem_modifications.mp member
  obtain ⟨alsoCounterpart, _, alsoEdits⟩ := mem_modifications.mp alsoMember
  cases one
  cases other
  dsimp only at same counterpart alsoCounterpart edits alsoEdits
  subst same
  rw [counterpart] at alsoCounterpart
  rw [edits, alsoEdits, Option.some.inj alsoCounterpart]

theorem attributes_of_mem {entry : Modification}
    (member : entry ∈ modifications (.make diff script)) : diff.Attributes script entry := by
  obtain ⟨counterpart, nonempty, same⟩ := mem_modifications.mp member
  have listed : (entry.before, entry.after) ∈ diff.correspondence.pairs :=
    Correspondence.after?_eq_some_iff.mp counterpart
  refine ⟨listed, nonempty, ?_, ?_⟩
  · rw [same]
    exact nodup_editsOf _ _
  · intro op
    rw [same, mem_editsOf_attribution, mem_subjects ⟨_, listed⟩]
    rfl

theorem exists_mem_modifications {op : EditOp} (listed : op ∈ script)
    (touches : diff.Touches op stmt) :
    ∃ entry ∈ modifications (.make diff script), entry.before = stmt := by
  obtain ⟨after, counterpart⟩ := touches.survives
  have member : op ∈ editsOf (attribution (.make diff script)) stmt :=
    mem_editsOf_attribution.mpr ⟨listed, (mem_subjects touches.survives).mpr touches⟩
  refine ⟨⟨stmt, after, editsOf (attribution (.make diff script)) stmt⟩, ?_, rfl⟩
  exact mem_modifications.mpr ⟨Correspondence.after?_eq_some_iff.mpr counterpart,
    List.ne_nil_of_mem member, rfl⟩

theorem mem_modifiedStatements {set : ActionSet} {before after : Nat}
    (found : set.get? .modifyStatement = some (modifyStatement.finds (.make diff script) set)) :
    (before, after) ∈ set.modifiedStatements ↔ diff.Modifies script before after := by
  have listed : set.modifiedStatements =
      (modifications (.make diff script)).map fun entry => (entry.before, entry.after) := by
    have reported : modifyStatement.finds (.make diff script) set =
        (modifications (.make diff script)).map Modification.action := modified_eq _
    rw [ActionSet.modifiedStatements, ActionSet.actions, found, Option.getD_some, reported,
      List.filterMap_map]
    exact congrFun List.filterMap_eq_map _
  rw [listed, List.mem_map]
  constructor
  · rintro ⟨entry, member, same⟩
    obtain ⟨rfl, rfl⟩ := Prod.mk.inj same
    have attributes := attributes_of_mem member
    obtain ⟨op, edited⟩ := List.exists_mem_of_ne_nil _ attributes.nonempty
    exact ⟨attributes.counterpart, op, (attributes.exact op).mp edited⟩
  · rintro ⟨counterpart, op, edited, touches⟩
    obtain ⟨entry, member, rfl⟩ := exists_mem_modifications edited touches
    refine ⟨entry, member, Prod.ext rfl ?_⟩
    exact (diff.correspondence.oneToOne_pairs _ (attributes_of_mem member).counterpart _
      counterpart).mp rfl

end Detection

namespace Miner

variable {σ : Type} {kinds : List ActionKind}

/-- Attribution is exact. Modified statements come in the order of the tree, each with its
counterpart and with the edits of the script that count for it, each once and at least one. No other
edits are listed with it, and every edit is listed with all statements that it counts for. Only a
move can count for two of them. -/
theorem mine_attributions {registry : Registry} (accepted : Registry.ofKinds kinds = .ok registry)
    (listed : .modifyStatement ∈ kinds) (storage : Storage (StateM σ)) (diff : Diff) (state : σ) :
    ∃ outcome, ((Miner.mk registry none).mine storage diff).run state = (.ok outcome, state) ∧
      outcome.isAnalyzed = diff.edits.isSome ∧
      ∀ set, outcome.actions? = some set →
        ∃ (script : List EditOp) (entries : List Modification),
          diff.edits = some script ∧
          set.get? .modifyStatement = some (entries.map Modification.action) ∧
          (entries.Pairwise fun one other => one.before < other.before) ∧
          (∀ entry ∈ entries, diff.Attributes script entry) ∧
          (∀ op ∈ script, ∀ stmt, diff.Touches op stmt → ∃ entry ∈ entries, entry.before = stmt) ∧
          ∀ one ∈ entries, ∀ other ∈ entries, ∀ op ∈ one.edits, op ∈ other.edits →
            one = other ∨ ∃ source target, op = .move source target := by
  obtain ⟨outcome, mined, analyzed, found⟩ := mine_accepted accepted storage diff state
  refine ⟨outcome, mined, analyzed, ?_⟩
  intro set there
  obtain ⟨script, scripted, finds, _⟩ := found set there
  refine ⟨script, Detection.modifications (.make diff script), scripted, ?_,
    Detection.modifications_increasing _, fun entry => Detection.attributes_of_mem, ?_, ?_⟩
  · rw [finds.get?_eq listed]
    exact congrArg some (Detection.modified_eq _)
  · intro op member stmt touches
    exact Detection.exists_mem_modifications member touches
  · intro one member other alsoMember op edited alsoEdited
    have touches := ((Detection.attributes_of_mem member).exact op).mp edited
    have alsoTouches := ((Detection.attributes_of_mem alsoMember).exact op).mp alsoEdited
    by_cases moves : ∃ source target, op = .move source target
    · exact .inr moves
    · have stays : ∀ source target, op ≠ .move source target := by
        intro source target same
        exact moves ⟨source, target, same⟩
      have same := touches.2.unique stays alsoTouches.2
      exact .inl (Detection.eq_of_mem_modifications member alsoMember same)

/-- The block that is dropped around a moved statement: both places of the statement are in the
if-statement, so all edits count for it. -/
theorem mine_attributions_unbraced :
    ∃ (registry : Registry) (outcome : MiningOutcome) (set : ActionSet)
      (entries : List Modification),
      Registry.ofKinds [.modifyStatement] = .ok registry ∧
      ((Miner.mk registry none).mine Disk.storage .unbraced).run .empty =
        (.ok outcome, .empty) ∧
      outcome.actions? = some set ∧
      set.get? .modifyStatement = some (entries.map Modification.action) ∧
      ∃ entry ∈ entries, entry.before = 1 ∧ .move 4 3 ∈ entry.edits ∧ .delete 5 ∈ entry.edits := by
  have accepted : Registry.ofKinds [.modifyStatement] = .ok (.builtin [.modifyStatement]) :=
    Registry.ofKinds_ok_iff.mpr ⟨by decide, by unfold Pipeline.Closed; decide, rfl⟩
  have moved : Diff.unbraced.Touches (.move 4 3) 1 :=
    Detection.touches_of_subjects (by decide) (by decide)
  have deleted : Diff.unbraced.Touches (.delete 5) 1 :=
    Detection.touches_of_subjects (by decide) (by decide)
  obtain ⟨outcome, mined, analyzed, found⟩ :=
    mine_attributions accepted (by decide) Disk.storage .unbraced .empty
  cases outcome with
  | notAnalyzable reason => cases analyzed
  | analyzed set stats =>
    obtain ⟨script, entries, scripted, there, _, exact, complete, _⟩ := found set rfl
    obtain rfl := Option.some.inj scripted
    obtain ⟨entry, member, same⟩ := complete (.move 4 3) (by decide) 1 moved
    refine ⟨_, _, set, entries, accepted, mined, rfl, there, entry, member, same, ?_, ?_⟩
    · exact ((exact entry member).exact _).mpr ⟨by decide, same ▸ moved⟩
    · exact ((exact entry member).exact _).mpr ⟨by decide, same ▸ deleted⟩

end Miner

end RepairMining
