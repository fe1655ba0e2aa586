import Mathlib.Data.Finset.Card
import Mathlib.Data.List.Sort
import RepairMining.Pool.Basic

namespace RepairMining.DonorPool

theorem ext {first second : DonorPool} (same : first.digests = second.digests) :
    first = second := by
  cases first
  cases second
  simp_all

theorem mem_foldl_insert {digests : List Digest} {digest : Digest} (pool : DonorPool) :
    digest ∈ (digests.foldl insert pool).digests ↔ digest ∈ pool.digests ∨ digest ∈ digests := by
  induction digests generalizing pool with
  | nil => simp
  | cons next digests ih =>
    rw [List.foldl_cons, ih, insert, mem_place, List.mem_cons, or_comm (a := digest = next),
      or_assoc]

theorem mem_ofList {digests : List Digest} {digest : Digest} :
    digest ∈ (ofList digests).digests ↔ digest ∈ digests := by
  rw [ofList, mem_foldl_insert]
  exact or_iff_right List.not_mem_nil

theorem eq_of_mem_iff {first second : DonorPool}
    (same : ∀ digest, digest ∈ first.digests ↔ digest ∈ second.digests) : first = second := by
  have asymmetric : Std.Antisymm Digest.Before :=
    ⟨fun _ _ lower upper => absurd rfl (lower.trans upper).ne⟩
  have irreflexive : Std.Irrefl Digest.Before := ⟨fun _ lower => lower.ne rfl⟩
  exact ext (first.increasing.eq_of_mem_iff second.increasing same)

theorem nodup (pool : DonorPool) : pool.digests.Nodup := pool.increasing.imp Digest.Before.ne

theorem size_le_of_stems {pool origin : DonorPool} (stems : Digest → Digest → Prop)
    (covered : ∀ digest ∈ pool.digests, ∃ source ∈ origin.digests, stems digest source)
    (single : ∀ digest further source, stems digest source → stems further source →
      digest = further) :
    pool.size ≤ origin.size := by
  choose! source held stemming using covered
  rw [size, size, ← List.toFinset_card_of_nodup pool.nodup,
    ← List.toFinset_card_of_nodup origin.nodup]
  apply Finset.card_le_card_of_injOn source
  · intro digest member
    exact List.mem_toFinset.mpr (held digest (List.mem_toFinset.mp member))
  · intro digest member further listed same
    have alsoStemming := stemming further (List.mem_toFinset.mp listed)
    rw [← same] at alsoStemming
    exact single _ _ _ (stemming digest (List.mem_toFinset.mp member)) alsoStemming

end RepairMining.DonorPool
