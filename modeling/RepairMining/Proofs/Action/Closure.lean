import Mathlib.Logic.Relation
import RepairMining.Proofs.Action.Pipeline

namespace RepairMining.ActionKind

open Pipeline (level level_lt)

variable {kinds : List ActionKind} {kind start : ActionKind} {count : Nat}

def DependsOn (kind needed : ActionKind) : Prop := needed ∈ kind.dependencies

theorem mem_expand : kind ∈ expand kinds ↔
    kind ∈ kinds ∨ ∃ dependent ∈ kinds, DependsOn dependent kind := by
  have present : kind ∈ all := Vocabulary.mem_all kind
  simp [expand, present, DependsOn]

theorem subset_expandTimes (count : Nat) (kinds : List ActionKind) :
    kinds ⊆ expandTimes count kinds := by
  induction count generalizing kinds with
  | zero => exact List.Subset.refl kinds
  | succ count ih =>
    intro kind member
    exact ih (expand kinds) (mem_expand.mpr (.inl member))

theorem reached_of_mem_expandTimes (member : kind ∈ expandTimes count kinds) :
    ∃ listed ∈ kinds, Relation.ReflTransGen DependsOn listed kind := by
  induction count generalizing kinds with
  | zero => exact ⟨kind, member, .refl⟩
  | succ count ih =>
    obtain ⟨start, expanded, reached⟩ := ih member
    rcases mem_expand.mp expanded with listed | ⟨dependent, listed, dependency⟩
    · exact ⟨start, listed, reached⟩
    · exact ⟨dependent, listed, .head dependency reached⟩

theorem level_le_of_reached (reached : Relation.ReflTransGen DependsOn start kind) :
    level kind ≤ level start := by
  induction reached with
  | refl => exact Nat.le_refl _
  | tail _ dependency ih => exact Nat.le_trans (Nat.le_of_lt (level_lt dependency)) ih

/-- A step along a dependency leads to an earlier category, so that the distance in the pipeline
bounds the number of expansions. -/
theorem mem_expandTimes (reached : Relation.ReflTransGen DependsOn start kind)
    (listed : start ∈ kinds) (enough : level start ≤ level kind + count) :
    kind ∈ expandTimes count kinds := by
  induction reached using Relation.ReflTransGen.head_induction_on generalizing kinds count with
  | refl => exact subset_expandTimes count kinds listed
  | @head dependent needed dependency reached ih =>
    have earlier := level_lt dependency
    have bounded := level_le_of_reached reached
    cases count with
    | zero => omega
    | succ count =>
      have expanded : needed ∈ expand kinds := mem_expand.mpr (.inr ⟨dependent, listed, dependency⟩)
      rw [expandTimes]
      exact ih expanded (by omega)

theorem level_lt_length (kind : ActionKind) : level kind < all.length :=
  List.idxOf_lt_length_of_mem (Vocabulary.mem_all kind)

theorem mem_closure : kind ∈ closure kinds ↔
    ∃ listed ∈ kinds, Relation.ReflTransGen DependsOn listed kind := by
  constructor
  · exact reached_of_mem_expandTimes
  · rintro ⟨listed, member, reached⟩
    have near := level_lt_length listed
    exact mem_expandTimes reached member (by omega)

theorem all_increasing : all.Pairwise fun first second => level first < level second := by
  decide

theorem expandTimes_sublist (count : Nat) (kinds : List ActionKind) :
    (expandTimes (count + 1) kinds).Sublist all := by
  induction count generalizing kinds with
  | zero => exact List.filter_sublist
  | succ count ih => exact ih (expand kinds)

theorem closure_increasing (kinds : List ActionKind) :
    (closure kinds).Pairwise fun first second => level first < level second :=
  all_increasing.sublist (expandTimes_sublist 24 kinds)

theorem closure_subset_iff : closure kinds ⊆ kinds ↔ Pipeline.Closed kinds := by
  constructor
  · intro subset kind listed needed dependency
    exact subset (mem_closure.mpr ⟨kind, listed, .single dependency⟩)
  · intro closed kind member
    obtain ⟨listed, there, reached⟩ := mem_closure.mp member
    induction reached with
    | refl => exact there
    | @tail middle needed path dependency ih =>
      exact closed middle (ih (mem_closure.mpr ⟨listed, there, path⟩)) needed dependency

end RepairMining.ActionKind
