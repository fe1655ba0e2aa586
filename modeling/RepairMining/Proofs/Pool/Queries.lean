import RepairMining.Cache.Disk
import RepairMining.Pool.Service
import RepairMining.Proofs.Digest.Structural
import RepairMining.Proofs.Pool.Basic
import RepairMining.Proofs.Pool.Building
import RepairMining.Proofs.Pool.Membership
import RepairMining.Proofs.Syntax.Alike

namespace RepairMining

namespace PoolName

variable {name : PoolName} {arena : Arena} {variant : PoolVariant} {digest : Digest}

theorem mem_own : digest ∈ (name.own arena variant).digests ↔
    ∃ node, name.Admits arena node ∧
      (NodeHashes.compute variant.mode arena).get? node = some digest := by
  rw [own, Pools.gather, DonorPool.mem_ofList, List.mem_filterMap]
  simp only [mem_members]

theorem contains_own : (name.own arena variant).contains digest = true ↔
    ∃ node part, name.Admits arena node ∧ arena.toTree.subtrees[node]? = some part ∧
      part.digest variant.mode = digest := by
  obtain ⟨tree, rfl⟩ : ∃ tree, arena = .ofTree tree := ⟨_, (Arena.ofTree_toTree arena).symm⟩
  rw [DonorPool.contains, List.contains_iff_mem, mem_own, Arena.toTree_ofTree]
  simp only [NodeHashes.get?_compute_eq_some, exists_and_left]

end PoolName

namespace PoolService

variable {m : Type → Type} [Monad m] [LawfulMonad m]

theorem build_uncached (requested : List PoolName) (storage : Storage m) (diff : Diff)
    (variant : PoolVariant) :
    build ⟨requested, none⟩ storage diff variant =
      pure (let outcome := Pools.build diff.before variant.mode .empty requested
        { pools := ⟨diff.id, variant, outcome.pools⟩
          built := outcome.built
          traversed := outcome.traversed
          cacheWritten := false }) := by
  simp only [build, loadCached, storeBuilt, pure_bind]

end PoolService

namespace PoolSet

variable {set : PoolSet} {names : List PoolName}

theorem readContains_ok {arena : Arena} {node : Nat} (inside : arena.contains node = true) :
    set.readContains arena node names = .ok (set.contains arena node names) := by
  obtain ⟨digest, hashed⟩ := Arena.exists_digest inside set.variant.mode
  simp only [readContains, NodeHashes.read, contains, hashed, Except.map]

theorem readContainsHashed_ok {arena : Arena} {node : Nat} (inside : arena.contains node = true)
    (mode : HashMode) :
    set.readContainsHashed (.compute mode arena) node names =
      (set.containsHashed (.compute mode arena) node names).map .ok := by
  obtain ⟨digest, hashed⟩ := Arena.exists_digest inside mode
  rw [readContainsHashed, containsHashed]
  split
  · simp only [NodeHashes.read, hashed, Except.map]
  · rfl

theorem containsDigest_iff {digest : Digest} :
    set.containsDigest digest names = true ↔
      ∃ name ∈ names, ∃ pool, set.pools.get? name = some pool ∧ pool.contains digest = true := by
  rw [containsDigest, List.any_eq_true]
  constructor
  · rintro ⟨pool, selected, holds⟩
    obtain ⟨name, listed, present⟩ := List.mem_filterMap.mp selected
    exact ⟨name, listed, pool, present, holds⟩
  · rintro ⟨name, listed, pool, present, holds⟩
    exact ⟨pool, List.mem_filterMap.mpr ⟨name, listed, present⟩, holds⟩

theorem containsDigest_built {id : DiffId} {variant : PoolVariant} {arena : Arena}
    {requested : List PoolName} (asked : ∀ name ∈ names, name ∈ requested) {digest : Digest} :
    containsDigest ⟨id, variant, (Pools.build arena variant.mode .empty requested).pools⟩ digest
        names = true ↔
      ∃ name donor part, name ∈ names ∧ name.Admits arena donor ∧
        arena.toTree.subtrees[donor]? = some part ∧ part.digest variant.mode = digest := by
  rw [containsDigest_iff]
  constructor
  · rintro ⟨name, listed, pool, present, holds⟩
    obtain rfl := Option.some.inj
      ((Pools.get?_build_empty arena variant (asked name listed)).symm.trans present)
    obtain ⟨donor, part, admitted, placed, same⟩ := PoolName.contains_own.mp holds
    exact ⟨name, donor, part, listed, admitted, placed, same⟩
  · rintro ⟨name, donor, part, listed, admitted, placed, same⟩
    exact ⟨name, listed, name.own arena variant,
      Pools.get?_build_empty arena variant (asked name listed),
      PoolName.contains_own.mpr ⟨donor, part, admitted, placed, same⟩⟩

/-- A node of a tree is found in the named pools of a difference if and only if a node of the tree
before the fix that belongs to one of these pools has a subtree of the same shape, unless two inputs
of the hash function collide. -/
theorem contains_iff_donor {σ : Type} (storage : Storage (StateM σ)) (state : σ) (diff : Diff)
    (variant : PoolVariant) {requested : List PoolName}
    (asked : ∀ name ∈ names, name ∈ requested) {query fragment : Tree} {node : Nat}
    (found : query.subtrees[node]? = some fragment) (few : diff.before.size < 2 ^ 32)
    (fewAsked : query.size < 2 ^ 32)
    (free : Digest.CollisionFree
      (diff.before.toTree.inputs variant.mode ++ query.inputs variant.mode)) :
    ((PoolService.build ⟨requested, none⟩ storage diff variant).run state).1.pools.contains
        (.ofTree query) node names = true ↔
      ∃ name donor part, name ∈ names ∧ name.Admits diff.before donor ∧
        diff.before.toTree.subtrees[donor]? = some part ∧
        part.shape variant.mode = fragment.shape variant.mode := by
  have fewer : diff.before.toTree.size < 2 ^ 32 := by
    rw [← Arena.size_ofTree, Arena.ofTree_toTree]
    exact few
  have shapes {part : Tree} {donor : Nat}
      (placed : diff.before.toTree.subtrees[donor]? = some part) :
      part.digest variant.mode = fragment.digest variant.mode ↔
        part.shape variant.mode = fragment.shape variant.mode := by
    rw [Tree.digest_subtree_eq_iff free fewer fewAsked (List.mem_of_getElem? placed)
      (List.mem_of_getElem? found)]
    exact and_iff_right rfl
  have hashed : (NodeHashes.compute variant.mode (.ofTree query)).get? node =
      some (fragment.digest variant.mode) := by
    rw [NodeHashes.get?_compute, found, Option.map_some]
  rw [PoolService.build_uncached]
  change contains ⟨diff.id, variant, (Pools.build diff.before variant.mode .empty requested).pools⟩
    (.ofTree query) node names = true ↔ _
  rw [contains, hashed, containsDigest_built asked]
  constructor
  · rintro ⟨name, donor, part, listed, admitted, placed, same⟩
    exact ⟨name, donor, part, listed, admitted, placed, (shapes placed).mp same⟩
  · rintro ⟨name, donor, part, listed, admitted, placed, same⟩
    exact ⟨name, donor, part, listed, admitted, placed, (shapes placed).mpr same⟩

def assigning : Diff where
  id := ⟨"r", "f", "a.c"⟩
  before := .ofTree (.node ⟨.assignment, none, none, none⟩
    [.node ⟨.identity, some "x", some .lhs, none⟩ [], .node ⟨.constant, some "1", some .rhs, none⟩ []])
  after := .ofTree (.node ⟨.translationUnit, none, none, none⟩ [])
  correspondence := .empty
  edits := none
  fixFiles := ["a.c"]
  in_trees := by
    intro mention member
    simp [DiffDraft.mentions, Correspondence.empty] at member

/-- With identifiers alike, another variable is found on the left-hand side of the assignment. -/
theorem contains_donor_renamed :
    ((PoolService.build ⟨[.rhs, .lhs], none⟩ Disk.storage assigning .abstract).run
      .empty).1.pools.contains (.ofTree (.node ⟨.identity, some "y", none, none⟩ [])) 0 [.lhs] =
        true := by
  have free : Digest.CollisionFree (assigning.before.toTree.inputs PoolVariant.abstract.mode ++
      (Tree.node ⟨.identity, some "y", none, none⟩ []).inputs PoolVariant.abstract.mode) := by
    decide +kernel
  rw [contains_iff_donor Disk.storage .empty assigning .abstract (by decide) rfl (by decide)
    (by decide) free]
  have known : assigning.before.kind? 0 = some .assignment := rfl
  exact ⟨.lhs, 1, _, List.mem_singleton_self _, .part known rfl rfl, rfl, rfl⟩

end PoolSet

end RepairMining
