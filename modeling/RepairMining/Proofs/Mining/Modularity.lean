import RepairMining.Proofs.Mining.History

namespace RepairMining

namespace ActionSet

variable {kinds : List ActionKind} {first second : ActionSet}

theorem Agree.contains (agree : Agree kinds first second) {kind : ActionKind}
    (listed : kind ∈ kinds) : first.contains kind = second.contains kind := by
  rw [Table.contains, Table.contains, agree kind listed]

theorem Agree.mono {fewer : List ActionKind} (agree : Agree kinds first second)
    (subset : fewer ⊆ kinds) : Agree fewer first second :=
  fun kind listed => agree kind (subset listed)

end ActionSet

/-- A detector answers from the difference and the categories that its own depends on; the answer
may be a failure. -/
theorem ActionKind.detect_congr (kind : ActionKind) (context : Context) {first second : ActionSet}
    (agree : ActionSet.Agree kind.dependencies first second) :
    kind.detector.detect context first = kind.detector.detect context second := by
  have needed := agree.mono (Detection.needs_subset kind)
  have present : (Detection.rule kind).needs.find? (fun needed => !first.contains needed) =
      (Detection.rule kind).needs.find? (fun needed => !second.contains needed) := by
    rw [← List.head?_filter, ← List.head?_filter]
    congr 1
    apply List.filter_congr
    intro other listed
    rw [needed.contains listed]
  simp only [ActionKind.detector, Rule.detector, present,
    (Detection.rule_local kind).searches context first second needed]

namespace Miner

variable {σ : Type} {diff : Diff} {edits : List EditOp} {kinds : List ActionKind}

theorem Finds.restrict {listed : List ActionKind} {set : ActionSet}
    (finds : Finds diff edits listed set) (closed : Pipeline.Closed kinds)
    (subset : kinds ⊆ listed) : Finds diff edits kinds (set.restrict kinds) := by
  refine ⟨finds.1.restrict closed, fun kind => ?_⟩
  rw [ActionSet.contains_restrict, finds.2]
  exact and_iff_left_of_imp fun member => subset member

theorem Finds.detect {set : ActionSet} (finds : Finds diff edits kinds set)
    (sound : set.Sound diff) (scripted : diff.edits = some edits) {kind : ActionKind}
    (listed : kind ∈ kinds) :
    kind.detector.detect (.make diff edits) set = .ok (set.actions kind) := by
  have there := (finds.2 kind).mpr listed
  obtain ⟨found, present⟩ := ActionSet.contains_iff.mp there
  rw [Detection.detect_ok (Context.grounded_make scripted) sound (finds.1.needs kind there),
    ← finds.1.finds kind found present, ActionSet.actions, present, Option.getD_some]

theorem closed_all : Pipeline.Closed ActionKind.all :=
  fun _ _ needed _ => Vocabulary.mem_all needed

/-- Mining an accepted list of categories, in whatever order, gives the part of mining all of them.
And a detector finds its category from any set that has the right contents under the categories
that it depends on. -/
theorem mine_restrict (distinct : kinds.Nodup) (closed : Pipeline.Closed kinds)
    (scripted : diff.edits = some edits) (storage : Storage (StateM σ)) (state : σ) :
    ∃ every chosen complete totals stats,
      Registry.ofKinds ActionKind.all = .ok every ∧ Registry.ofKinds kinds = .ok chosen ∧
      (((Miner.mk every none).mine storage diff).run state).1 = .ok (.analyzed complete totals) ∧
      (∀ kind, complete.contains kind = true) ∧
      (((Miner.mk chosen none).mine storage diff).run state).1 =
        .ok (.analyzed (complete.restrict kinds) stats) ∧
      ∀ (kind : ActionKind) (set : ActionSet), ActionSet.Agree kind.dependencies set complete →
        kind.detector.detect (.make diff edits) set = .ok (complete.actions kind) := by
  have loaded := loadCached_none (.builtin ActionKind.all) storage diff state
  obtain ⟨result, completes, mined⟩ := mine_completes closed_all scripted none loaded
  have whole := finds_of_completes closed_all completes
    ((ActionSet.genuine_empty _).restrict closed_all)
  obtain ⟨set, stats, part, finds⟩ := mine_uncached closed scripted storage state
  have same : set = Table.restrict (result.restrict (Pipeline.order ActionKind.all)) kinds :=
    finds.unique (whole.restrict closed fun kind _ => Vocabulary.mem_all kind)
  refine ⟨_, _, _, _, stats, Registry.ofKinds_ok_iff.mpr ⟨Vocabulary.nodup_all, closed_all, rfl⟩,
    Registry.ofKinds_ok_iff.mpr ⟨distinct, closed, rfl⟩, congrArg Prod.fst mined, ?_, ?_, ?_⟩
  · intro kind
    exact (whole.2 kind).mpr (Vocabulary.mem_all kind)
  · rw [part, same]
  · intro kind other agree
    rw [kind.detect_congr _ agree]
    exact whole.detect (completes.sound.restrict _) scripted (Vocabulary.mem_all kind)

theorem mine_restrict_deletions :
    Diff.exchanged.edits = some [] ∧
    ∃ registry complete stats,
      Registry.ofKinds [.unwrapStatement, .deleteStatement] = .ok registry ∧
      (((Miner.mk registry none).mine Disk.storage .exchanged).run .empty).1 =
        .ok (.analyzed (Table.restrict complete [.unwrapStatement, .deleteStatement]) stats) ∧
      ∀ kind, complete.contains kind = true := by
  have scripted : Diff.exchanged.edits = some [] := rfl
  have closed : Pipeline.Closed [.unwrapStatement, .deleteStatement] := by
    unfold Pipeline.Closed
    decide
  obtain ⟨_, registry, complete, _, stats, _, accepted, _, all, mined, _⟩ :=
    mine_restrict (by decide) closed scripted Disk.storage .empty
  exact ⟨scripted, registry, complete, stats, accepted, mined, all⟩

end Miner

end RepairMining
