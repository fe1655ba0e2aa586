import RepairMining.Detection.Builtin
import RepairMining.Proofs.Syntax.Arena

namespace RepairMining

namespace Diff

def Inside (diff : Diff) (side : Side) (node : Nat) : Prop :=
  (diff.tree side).contains node = true

def PairInside (diff : Diff) (pair : Nat × Nat) : Prop :=
  diff.Inside .before pair.1 ∧ diff.Inside .after pair.2

def Covers (diff : Diff) (action : RepairAction) : Prop :=
  ∀ mention ∈ action.mentions, diff.Inside mention.1 mention.2

theorem pair_inside (diff : Diff) {pair : Nat × Nat} (member : pair ∈ diff.correspondence.pairs) :
    diff.PairInside pair := by
  have mentioned (side : Side) (node : Nat)
      (listed : ("correspondence", side, node) ∈
        [("correspondence", Side.before, pair.1), ("correspondence", Side.after, pair.2)]) :
      diff.Inside side node :=
    diff.in_trees _ (List.mem_append_left _ (List.mem_flatMap.mpr ⟨pair, member, listed⟩))
  exact ⟨mentioned .before pair.1 (by simp), mentioned .after pair.2 (by simp)⟩

theorem edit_inside (diff : Diff) {edits : List EditOp} (scripted : diff.edits = some edits)
    {op : EditOp} (member : op ∈ edits) {mention : Side × Nat} (mentioned : mention ∈ op.mentions) :
    diff.Inside mention.1 mention.2 := by
  refine diff.in_trees (op.name, mention) (List.mem_append_right _ ?_)
  rw [scripted]
  exact List.mem_flatMap.mpr ⟨op, member, List.mem_map.mpr ⟨mention, mentioned, rfl⟩⟩

end Diff

theorem Correspondence.mem_of_after? {correspondence : Correspondence} {before after : Nat}
    (found : correspondence.after? before = some after) :
    (before, after) ∈ correspondence.pairs := by
  obtain ⟨pair, there, rfl⟩ := Option.map_eq_some_iff.mp found
  have same := List.find?_some there
  rw [beq_iff_eq] at same
  exact same ▸ List.mem_of_find?_eq_some there

theorem Correspondence.mem_of_before? {correspondence : Correspondence} {before after : Nat}
    (found : correspondence.before? after = some before) :
    (before, after) ∈ correspondence.pairs := by
  obtain ⟨pair, there, rfl⟩ := Option.map_eq_some_iff.mp found
  have same := List.find?_some there
  rw [beq_iff_eq] at same
  exact same ▸ List.mem_of_find?_eq_some there

def Diff.Fits (diff : Diff) : Slot.Value → Prop
  | .node side place => diff.Inside side place
  | .optional side place => ∀ node, place = some node → diff.Inside side node
  | .edits script => ∀ op ∈ script, ∀ mention ∈ op.mentions, diff.Inside mention.1 mention.2

theorem Diff.fits_iff {diff : Diff} {value : Slot.Value} :
    diff.Fits value ↔ ∀ mention ∈ value.mentions, diff.Inside mention.1 mention.2 := by
  cases value with
  | node side place => simp [Fits, Slot.Value.mentions]
  | optional side place => cases place <;> simp [Fits, Slot.Value.mentions]
  | edits script =>
    simp only [Fits, Slot.Value.mentions, List.mem_flatMap]
    constructor
    · rintro inside mention ⟨op, member, mentioned⟩
      exact inside op member mention mentioned
    · intro inside op member mention mentioned
      exact inside mention ⟨op, member, mentioned⟩

theorem Diff.covers_iff {diff : Diff} {action : RepairAction} :
    diff.Covers action ↔ ∀ value ∈ action.values, diff.Fits value := by
  simp only [Covers, RepairAction.mentions, List.mem_flatMap, fits_iff]
  constructor
  · intro inside value member mention mentioned
    exact inside mention ⟨value, member, mentioned⟩
  · rintro inside mention ⟨value, member, mentioned⟩
    exact inside value member mention mentioned

/-- Every action is filed under its own category and mentions nodes of the trees only. -/
def ActionSet.Sound (set : ActionSet) (diff : Diff) : Prop :=
  ∀ kind found, set.get? kind = some found →
    ∀ action ∈ found, action.kind = kind ∧ diff.Covers action

namespace ActionSet

variable {set : ActionSet} {diff : Diff}

theorem sound_empty (diff : Diff) : ActionSet.Sound .empty diff := by
  intro kind found present
  cases present

theorem Sound.covers (sound : set.Sound diff) {kind : ActionKind} {action : RepairAction}
    (member : action ∈ set.actions kind) : diff.Covers action := by
  rw [actions] at member
  cases present : set.get? kind with
  | none => simp [present] at member
  | some found =>
    rw [present] at member
    exact (sound kind found present action member).2

theorem Sound.node_of_pick (sound : set.Sound diff) {kind : ActionKind} {side : Side}
    {pick : RepairAction → Option Nat}
    (field : ∀ action node, pick action = some node →
      ∃ rest, action.values = .node side node :: rest)
    {node : Nat} (member : node ∈ (set.actions kind).filterMap pick) : diff.Inside side node := by
  obtain ⟨action, there, picked⟩ := List.mem_filterMap.mp member
  obtain ⟨rest, values⟩ := field action node picked
  exact Diff.covers_iff.mp (sound.covers there) (.node side node) (by simp [values])

theorem Sound.pair_of_pick (sound : set.Sound diff) {kind : ActionKind}
    {pick : RepairAction → Option (Nat × Nat)}
    (fields : ∀ action pair, pick action = some pair →
      ∃ rest, action.values = .node .before pair.1 :: .node .after pair.2 :: rest)
    {pair : Nat × Nat} (member : pair ∈ (set.actions kind).filterMap pick) :
    diff.PairInside pair := by
  obtain ⟨action, there, picked⟩ := List.mem_filterMap.mp member
  obtain ⟨rest, values⟩ := fields action pair picked
  have fits := Diff.covers_iff.mp (sound.covers there)
  constructor
  · exact fits (.node .before pair.1) (by simp [values])
  · exact fits (.node .after pair.2) (by simp [values])

theorem Sound.insertedStatements (sound : set.Sound diff) {stmt : Nat}
    (member : stmt ∈ set.insertedStatements) : diff.Inside .after stmt := by
  refine sound.node_of_pick ?_ member
  intro action node picked
  split at picked
  · obtain rfl := Option.some.inj picked
    exact ⟨_, rfl⟩
  · cases picked

theorem Sound.deletedStatements (sound : set.Sound diff) {stmt : Nat}
    (member : stmt ∈ set.deletedStatements) : diff.Inside .before stmt := by
  refine sound.node_of_pick ?_ member
  intro action node picked
  split at picked
  · obtain rfl := Option.some.inj picked
    exact ⟨_, rfl⟩
  · cases picked

theorem Sound.modifiedStatements (sound : set.Sound diff) {pair : Nat × Nat}
    (member : pair ∈ set.modifiedStatements) : diff.PairInside pair := by
  refine sound.pair_of_pick ?_ member
  intro action found picked
  split at picked
  · obtain rfl := Option.some.inj picked
    exact ⟨_, rfl⟩
  · cases picked

theorem Sound.modifiedAssignments (sound : set.Sound diff) {pair : Nat × Nat}
    (member : pair ∈ set.modifiedAssignments) : diff.PairInside pair := by
  refine sound.pair_of_pick ?_ member
  intro action found picked
  split at picked
  · obtain rfl := Option.some.inj picked
    exact ⟨_, rfl⟩
  · cases picked

theorem Sound.modifiedCalls (sound : set.Sound diff) {pair : Nat × Nat}
    (member : pair ∈ set.modifiedCalls) : diff.PairInside pair := by
  refine sound.pair_of_pick ?_ member
  intro action found picked
  split at picked
  · obtain rfl := Option.some.inj picked
    exact ⟨_, rfl⟩
  · cases picked

theorem Sound.rearguedCalls (sound : set.Sound diff) {pair : Nat × Nat}
    (member : pair ∈ set.rearguedCalls) : diff.PairInside pair := by
  refine sound.pair_of_pick ?_ member
  intro action found picked
  split at picked
  · obtain rfl := Option.some.inj picked
    exact ⟨_, rfl⟩
  · cases picked

end ActionSet

namespace Context

variable {context : Context}

theorem pair_of_afterOf {before after : Nat} (found : context.afterOf before = some after) :
    context.diff.PairInside (before, after) :=
  context.diff.pair_inside (Correspondence.mem_of_after? found)

theorem pair_of_beforeOf {before after : Nat} (found : context.beforeOf after = some before) :
    context.diff.PairInside (before, after) :=
  context.diff.pair_inside (Correspondence.mem_of_before? found)

/-- The script mentions nodes of the trees only, and the digests are those of the trees. -/
structure Grounded (context : Context) : Prop where
  scripted : ∀ op ∈ context.edits, ∀ mention ∈ op.mentions,
    context.diff.Inside mention.1 mention.2
  beforeHashes : context.beforeHashes = .compute .concrete context.before
  afterHashes : context.afterHashes = .compute .concrete context.after

theorem Grounded.eq_make (grounded : context.Grounded) :
    context = .make context.diff context.edits := by
  obtain ⟨_, beforeHashes, afterHashes⟩ := grounded
  obtain ⟨diff, edits, _, _⟩ := context
  exact congr (congrArg (Context.mk diff edits) beforeHashes) afterHashes

theorem grounded_make {diff : Diff} {edits : List EditOp} (scripted : diff.edits = some edits) :
    (Context.make diff edits).Grounded where
  scripted := fun _ member _ mentioned => diff.edit_inside scripted member mentioned
  beforeHashes := rfl
  afterHashes := rfl

end Context

end RepairMining
