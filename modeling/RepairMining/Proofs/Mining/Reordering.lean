import RepairMining.Proofs.Detection.Reordering
import RepairMining.Proofs.Mining.History

namespace RepairMining

theorem Context.Reordered.make {first second : Diff} {edits others : List EditOp}
    (before : first.before = second.before) (after : first.after = second.after)
    (correspondence : first.correspondence = second.correspondence)
    (same : ∀ op, op ∈ edits ↔ op ∈ others) :
    (Context.make first edits).Reordered (.make second others) where
  alike := Context.Alike.make (before ▸ Arena.Alike.refl _) (after ▸ Arena.Alike.refl _)
    correspondence
  edits := same

namespace Miner

variable {σ : Type} {first second : Diff} {edits others : List EditOp}
variable {kinds : List ActionKind} {registry : Registry}

/-- A script counts as a set of edits: the order and the repetitions show in nothing but the order
of the edits of a modified statement. -/
theorem mine_reordered (accepted : Registry.ofKinds kinds = .ok registry)
    (before : first.before = second.before) (after : first.after = second.after)
    (correspondence : first.correspondence = second.correspondence)
    (scripted : first.edits = some edits) (alsoScripted : second.edits = some others)
    (same : ∀ op, op ∈ edits ↔ op ∈ others) (storage : Storage (StateM σ)) (state : σ) :
    ∃ set other stats totals,
      (((Miner.mk registry none).mine storage first).run state).1 = .ok (.analyzed set stats) ∧
      (((Miner.mk registry none).mine storage second).run state).1 =
        .ok (.analyzed other totals) ∧
      (∀ kind, set.contains kind = true ↔ kind ∈ kinds) ∧
      (∀ kind, other.contains kind = true ↔ kind ∈ kinds) ∧
      (∀ kind, kind ≠ .modifyStatement → set.get? kind = other.get? kind) ∧
      List.Forall₂ RepairAction.Reordered (set.actions .modifyStatement)
        (other.actions .modifyStatement) := by
  obtain ⟨_, closed, rfl⟩ := Registry.ofKinds_ok_iff.mp accepted
  obtain ⟨set, stats, mined, finds⟩ := mine_uncached closed scripted storage state
  obtain ⟨other, totals, alsoMined, alsoFinds⟩ := mine_uncached closed alsoScripted storage state
  have reordered := Context.Reordered.make before after correspondence same
  have absent {kind : ActionKind} {found : ActionSet} (unlisted : kind ∉ kinds)
      (listing : found.contains kind = true ↔ kind ∈ kinds) : found.get? kind = none := by
    rwa [← listing, Table.contains, Bool.not_eq_true, Option.isSome_eq_false_iff,
      Option.isNone_iff_eq_none] at unlisted
  refine ⟨set, other, stats, totals, mined, alsoMined, finds.2, alsoFinds.2, ?_, ?_⟩
  · intro kind unscripted
    by_cases listed : kind ∈ kinds
    · exact finds.1.get?_reordered alsoFinds.1 reordered unscripted ((finds.2 kind).mpr listed)
        ((alsoFinds.2 kind).mpr listed)
    · rw [absent listed (finds.2 kind), absent listed (alsoFinds.2 kind)]
  · by_cases listed : .modifyStatement ∈ kinds
    · exact finds.1.modified_reordered alsoFinds.1 reordered ((finds.2 _).mpr listed)
        ((alsoFinds.2 _).mpr listed)
    · rw [ActionSet.actions, ActionSet.actions, absent listed (finds.2 _),
        absent listed (alsoFinds.2 _)]
      exact .nil

end Miner

def Diff.refilled : Diff where
  id := ⟨"r", "f", "a.c"⟩
  before := .ofTree (.node ⟨.translationUnit, none, none, none⟩
    [.node ⟨.exprStatement, none, none, none⟩ [.node ⟨.identity, some "x", none, none⟩ []]])
  after := .ofTree (.node ⟨.translationUnit, none, none, none⟩
    [.node ⟨.exprStatement, none, none, none⟩ [.node ⟨.constant, some "1", none, none⟩ []]])
  correspondence := Diff.kept.correspondence
  edits := some [.delete 2, .insert 2]
  fixFiles := ["a.c"]
  in_trees := by decide

def Diff.refilledAgain : Diff :=
  { Diff.refilled with edits := some [.insert 2, .delete 2, .insert 2], in_trees := by decide }

namespace Miner

theorem mine_reordered_refilled :
    (∀ op, op ∈ [EditOp.delete 2, .insert 2] ↔ op ∈ [EditOp.insert 2, .delete 2, .insert 2]) ∧
    ∃ registry set other stats totals,
      Registry.ofKinds [.wrapStatement, .modifyStatement, .deleteStatement, .insertStatement] =
        .ok registry ∧
      (((Miner.mk registry none).mine Disk.storage .refilled).run .empty).1 =
        .ok (.analyzed set stats) ∧
      (((Miner.mk registry none).mine Disk.storage .refilledAgain).run .empty).1 =
        .ok (.analyzed other totals) ∧
      (∀ kind, kind ≠ .modifyStatement → set.get? kind = other.get? kind) ∧
      List.Forall₂ RepairAction.Reordered (set.actions .modifyStatement)
        (other.actions .modifyStatement) := by
  have accepted : Registry.ofKinds
      [.wrapStatement, .modifyStatement, .deleteStatement, .insertStatement] =
        .ok (.builtin [.wrapStatement, .modifyStatement, .deleteStatement, .insertStatement]) :=
    Registry.ofKinds_ok_iff.mpr ⟨by decide, by unfold Pipeline.Closed; decide, rfl⟩
  have same : ∀ op,
      op ∈ [EditOp.delete 2, .insert 2] ↔ op ∈ [EditOp.insert 2, .delete 2, .insert 2] := by
    intro op
    simp only [List.mem_cons, List.not_mem_nil, or_false]
    constructor
    · rintro (rfl | rfl) <;> simp
    · rintro (rfl | rfl | rfl) <;> simp
  have before : Diff.refilled.before = Diff.refilledAgain.before := rfl
  obtain ⟨set, other, stats, totals, mined, alsoMined, _, _, others, modified⟩ :=
    mine_reordered accepted before rfl rfl rfl rfl same Disk.storage .empty
  exact ⟨same, _, set, other, stats, totals, accepted, mined, alsoMined, others, modified⟩

end Miner

end RepairMining
