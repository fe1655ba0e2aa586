import RepairMining.Proofs.Action.Pipeline

/-!
The order of the pipeline is the one in which a search in depth first finishes the categories, last
one first. The search keeps a stack of its own and marks what it has discovered.
-/

namespace RepairMining.Pipeline

theorem unseen_lt {discovered : List ActionKind} {kind : ActionKind} (fresh : kind ∉ discovered) :
    (ActionKind.all.filter (· ∉ kind :: discovered)).length <
      (ActionKind.all.filter (· ∉ discovered)).length := by
  have fewer : (ActionKind.all.filter (· ∉ kind :: discovered)).Sublist
      (ActionKind.all.filter (· ∉ discovered)) := by
    apply List.monotone_filter_right
    intro other
    simp only [List.mem_cons, not_or, decide_eq_true_eq]
    exact And.right
  refine Nat.lt_of_le_of_ne fewer.length_le ?_
  intro same
  have kept : kind ∈ ActionKind.all.filter (· ∉ discovered) :=
    List.mem_filter.mpr ⟨Vocabulary.mem_all kind, by simpa using fresh⟩
  rw [← fewer.eq_of_length same] at kept
  simp at kept

/-- Empties the stack, its top first. A category that is met for the first time is discovered and
stays below those of its dependents that have not been. When it is on top again it is finished. The
result is all that has been discovered and all that has been finished. -/
def walk (enabled : List ActionKind) :
    List ActionKind → List ActionKind → List ActionKind → List ActionKind × List ActionKind
  | [], discovered, finished => (discovered, finished)
  | top :: below, discovered, finished =>
    if top ∈ discovered then
      walk enabled below discovered (if top ∈ finished then finished else top :: finished)
    else
      walk enabled
        ((dependents enabled top).filter (· ∉ top :: discovered) ++ top :: below)
        (top :: discovered) finished
termination_by stack discovered => ((ActionKind.all.filter (· ∉ discovered)).length, stack.length)
decreasing_by
  · exact Prod.Lex.right _ (Nat.lt_succ_self _)
  · exact Prod.Lex.left _ _ (unseen_lt ‹_›)

def resume (enabled : List ActionKind) (found : List ActionKind × List ActionKind)
    (start : ActionKind) : List ActionKind × List ActionKind :=
  if start ∈ found.1 then found else walk enabled [start] found.1 found.2

def search (enabled : List ActionKind) : List ActionKind :=
  (enabled.foldl (resume enabled) ([], [])).2

mutual

theorem subset_visit (enabled : List ActionKind) (fuel : Nat) (done : List ActionKind)
    (kind : ActionKind) : done ⊆ visit enabled fuel done kind := by
  match fuel with
  | 0 => exact List.Subset.refl done
  | fuel + 1 =>
    rw [visit]
    split
    · exact List.Subset.refl done
    · exact List.subset_cons_of_subset _ (subset_foldl_visit enabled fuel _ done)
termination_by (fuel, 0)

theorem subset_foldl_visit (enabled : List ActionKind) (fuel : Nat) (kinds done : List ActionKind) :
    done ⊆ kinds.foldl (visit enabled fuel) done := by
  match kinds with
  | [] => exact List.Subset.refl done
  | kind :: kinds =>
    exact List.Subset.trans (subset_visit enabled fuel done kind)
      (subset_foldl_visit enabled fuel kinds _)
termination_by (fuel, kinds.length + 1)

end

theorem visit_of_mem {enabled done : List ActionKind} {kind : ActionKind} {fuel : Nat}
    (there : kind ∈ done) : visit enabled fuel done kind = done := by
  cases fuel with
  | zero => rfl
  | succ fuel => rw [visit, if_pos there]

theorem foldl_visit_filter {enabled kinds done : List ActionKind} {fuel : Nat}
    {test : ActionKind → Bool} (there : ∀ kind ∈ kinds, test kind = false → kind ∈ done) :
    (kinds.filter test).foldl (visit enabled fuel) done =
      kinds.foldl (visit enabled fuel) done := by
  induction kinds generalizing done with
  | nil => rfl
  | cons head tail ih =>
    obtain ⟨first, rest⟩ := List.forall_mem_cons.mp there
    rw [List.foldl_cons, List.filter_cons]
    split
    · rw [List.foldl_cons]
      apply ih
      intro kind member failed
      exact subset_visit enabled fuel done head (rest kind member failed)
    · rename_i failed
      rw [visit_of_mem (first (by simpa using failed))]
      exact ih rest

/-- What a walk relies on when it comes to a category: whatever has been discovered but not finished
comes earlier in the pipeline. -/
structure Awaits (discovered finished : List ActionKind) (kind : ActionKind) : Prop where
  subset : finished ⊆ discovered
  pending : ∀ other ∈ discovered, other ∈ finished ∨ level other < level kind

def Finishes (enabled starts discovered finished grown : List ActionKind) : Prop :=
  ∀ below, ∃ later, (∀ kind, kind ∈ later ↔ kind ∈ discovered ∨ kind ∈ grown) ∧
    walk enabled (starts ++ below) discovered finished = walk enabled below later grown

theorem Awaits.next {discovered finished later grown : List ActionKind} {kind : ActionKind}
    (awaits : Awaits discovered finished kind) (kept : finished ⊆ grown)
    (members : ∀ other, other ∈ later ↔ other ∈ discovered ∨ other ∈ grown) :
    Awaits later grown kind where
  subset := fun other member => (members other).mpr (.inr member)
  pending := by
    intro other member
    rcases (members other).mp member with early | grown
    · rcases awaits.pending other early with finished | lower
      · exact .inl (kept finished)
      · exact .inr lower
    · exact .inl grown

theorem Awaits.dependent {enabled discovered finished : List ActionKind} {kind other : ActionKind}
    (awaits : Awaits discovered finished kind) (member : other ∈ dependents enabled kind) :
    Awaits (kind :: discovered) finished other where
  subset := List.subset_cons_of_subset kind awaits.subset
  pending := by
    have higher := level_lt (mem_dependents.mp member).2
    intro earlier seen
    rcases List.mem_cons.mp seen with rfl | seen
    · exact .inr higher
    · exact (awaits.pending earlier seen).imp_right fun lower => Nat.lt_trans lower higher

theorem Awaits.foldl_fresh {enabled discovered finished : List ActionKind} {kind : ActionKind}
    (awaits : Awaits discovered finished kind) (fuel : Nat) :
    ((dependents enabled kind).filter (· ∉ kind :: discovered)).foldl (visit enabled fuel)
      finished = (dependents enabled kind).foldl (visit enabled fuel) finished := by
  apply foldl_visit_filter
  intro other member seen
  have higher := level_lt (mem_dependents.mp member).2
  rw [decide_eq_false_iff_not, Decidable.not_not, List.mem_cons] at seen
  rcases seen with rfl | seen
  · omega
  · exact (awaits.pending other seen).resolve_right (by omega)

theorem finishes_foldl {enabled starts discovered finished : List ActionKind} {fuel : Nat}
    (one : ∀ start ∈ starts, ∀ discovered finished, Settled enabled finished →
      Awaits discovered finished start →
      Finishes enabled [start] discovered finished (visit enabled fuel finished start) ∧
        Settled enabled (visit enabled fuel finished start))
    (settled : Settled enabled finished) (subset : finished ⊆ discovered)
    (awaits : ∀ start ∈ starts, Awaits discovered finished start) :
    Finishes enabled starts discovered finished
      (starts.foldl (visit enabled fuel) finished) := by
  induction starts generalizing discovered finished with
  | nil =>
    intro below
    refine ⟨discovered, ?_, rfl⟩
    intro kind
    exact (or_iff_left_of_imp fun member => subset member).symm
  | cons head tail ih =>
    intro below
    obtain ⟨firstAwaits, restAwaits⟩ := List.forall_mem_cons.mp awaits
    obtain ⟨walked, grown⟩ := one head List.mem_cons_self discovered finished settled firstAwaits
    obtain ⟨middle, members, first⟩ := walked (tail ++ below)
    have kept := subset_visit enabled fuel finished head
    -- What lies below stays on the stack while the first category is walked over.
    have others := ih (fun start member => one start (List.mem_cons_of_mem _ member)) grown
      (fun kind member => (members kind).mpr (.inr member))
      (fun start member => (restAwaits start member).next kept members)
    obtain ⟨later, also, rest⟩ := others below
    refine ⟨later, ?_, ?_⟩
    · intro kind
      rw [also, members, List.foldl_cons, or_assoc]
      have grows : kind ∈ visit enabled fuel finished head →
          kind ∈ tail.foldl (visit enabled fuel) (visit enabled fuel finished head) :=
        fun member => subset_foldl_visit enabled fuel tail _ member
      exact or_congr_right (or_iff_right_of_imp grows)
    · exact first.trans rest

theorem finishes_visit {enabled discovered finished : List ActionKind} {kind : ActionKind}
    {fuel : Nat} (listed : kind ∈ enabled) (enough : ahead enabled kind ≤ fuel)
    (settled : Settled enabled finished) (awaits : Awaits discovered finished kind) :
    Finishes enabled [kind] discovered finished (visit enabled fuel finished kind) := by
  induction fuel generalizing kind discovered finished with
  | zero =>
    have positive := ahead_pos listed
    omega
  | succ fuel ih =>
    intro below
    by_cases seen : kind ∈ discovered
    · -- Discovered and not earlier than itself, the category has been finished.
      have there : kind ∈ finished :=
        (awaits.pending kind seen).resolve_right (Nat.lt_irrefl _)
      refine ⟨discovered, ?_, ?_⟩
      · intro other
        rw [visit_of_mem there]
        exact (or_iff_left_of_imp fun member => awaits.subset member).symm
      · rw [visit_of_mem there, List.singleton_append, walk, if_pos seen, if_pos there]
    · have absent : kind ∉ finished := fun member => seen (awaits.subset member)
      have walked : Finishes enabled ((dependents enabled kind).filter (· ∉ kind :: discovered))
          (kind :: discovered) finished
          ((dependents enabled kind).foldl (visit enabled fuel) finished) := by
        rw [← awaits.foldl_fresh]
        refine finishes_foldl ?_ settled (List.subset_cons_of_subset kind awaits.subset) ?_
        · intro other member discovered finished settled awaits
          obtain ⟨otherListed, dependency⟩ := mem_dependents.mp (List.mem_filter.mp member).1
          have shorter := ahead_lt listed (level_lt dependency)
          have enough : ahead enabled other ≤ fuel := by omega
          exact ⟨ih otherListed enough settled awaits,
            (visit_extends otherListed enough settled).settled⟩
        · intro other member
          exact awaits.dependent (List.mem_filter.mp member).1
      -- When the walk is back at the category it has discovered it and not finished it.
      have order := (visit_extends listed enough settled).settled.nodup
      rw [visit, if_neg absent] at order ⊢
      obtain ⟨known, members, walked⟩ := walked (kind :: below)
      refine ⟨known, ?_, ?_⟩
      · intro other
        rw [members, List.mem_cons, List.mem_cons, or_assoc, or_left_comm]
      · have there : kind ∈ known := (members kind).mpr (.inl List.mem_cons_self)
        rw [List.singleton_append, walk, if_neg seen, walked, walk, if_pos there,
          if_neg (List.nodup_cons.mp order).1]

theorem foldl_resume {enabled starts : List ActionKind}
    {found : List ActionKind × List ActionKind} (listed : starts ⊆ enabled)
    (settled : Settled enabled found.2) (same : ∀ kind, kind ∈ found.1 ↔ kind ∈ found.2) :
    (starts.foldl (resume enabled) found).2 =
      starts.foldl (visit enabled enabled.length) found.2 := by
  induction starts generalizing found with
  | nil => rfl
  | cons start starts ih =>
    obtain ⟨first, rest⟩ := List.cons_subset.mp listed
    rw [List.foldl_cons, List.foldl_cons, resume]
    split
    · rename_i seen
      rw [visit_of_mem ((same start).mp seen)]
      exact ih rest settled same
    · have awaits : Awaits found.1 found.2 start :=
        ⟨fun kind => (same kind).mpr, fun kind member => .inl ((same kind).mp member)⟩
      have enough := ahead_le enabled start
      obtain ⟨later, members, walked⟩ := finishes_visit first enough settled awaits []
      rw [List.append_nil, walk] at walked
      rw [walked]
      apply ih rest
      · exact (visit_extends first enough settled).settled
      · intro kind
        rw [members, same]
        exact or_iff_right_of_imp fun member => subset_visit enabled _ found.2 start member

/-- The order of the pipeline is the one in which the search finishes the categories. -/
theorem search_eq_order (enabled : List ActionKind) : search enabled = order enabled :=
  foldl_resume (List.Subset.refl enabled) (Settled.nil enabled) fun _ => Iff.rfl

end RepairMining.Pipeline
