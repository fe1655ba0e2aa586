import RepairMining.Diff.Basic
import RepairMining.Pool.Membership
import RepairMining.Table

namespace RepairMining

/-- A set of digests, in increasing order. -/
structure DonorPool where
  digests : List Digest
  increasing : digests.Pairwise Digest.Before

namespace DonorPool

def place (digest : Digest) : List Digest → List Digest
  | [] => [digest]
  | next :: rest =>
    if digest.Before next then digest :: next :: rest
    else if digest = next then next :: rest
    else next :: place digest rest

theorem mem_place {digest other : Digest} {digests : List Digest} :
    other ∈ place digest digests ↔ other = digest ∨ other ∈ digests := by
  induction digests with
  | nil => simp [place]
  | cons next rest ih =>
    unfold place
    split
    · simp
    · split
      · rename_i same
        subst same
        simp
      · simp only [List.mem_cons, ih, or_left_comm]

theorem place_increasing {digest : Digest} {digests : List Digest}
    (sorted : digests.Pairwise Digest.Before) : (place digest digests).Pairwise Digest.Before := by
  induction digests with
  | nil => simp [place]
  | cons next rest ih =>
    obtain ⟨least, tail⟩ := List.pairwise_cons.mp sorted
    unfold place
    split
    · rename_i smaller
      refine List.pairwise_cons.mpr ⟨?_, sorted⟩
      intro other member
      rcases List.mem_cons.mp member with rfl | member
      · exact smaller
      · exact smaller.trans (least other member)
    · rename_i notSmaller
      split
      · exact sorted
      · rename_i apart
        refine List.pairwise_cons.mpr ⟨?_, ih tail⟩
        intro other member
        rcases mem_place.mp member with rfl | member
        · rcases Digest.before_or_eq_or_after other next with lower | same | upper
          · exact absurd lower notSmaller
          · exact absurd same apart
          · exact upper
        · exact least other member

def empty : DonorPool := ⟨[], List.Pairwise.nil⟩

def insert (pool : DonorPool) (digest : Digest) : DonorPool :=
  ⟨place digest pool.digests, place_increasing pool.increasing⟩

def ofList (digests : List Digest) : DonorPool := digests.foldl insert empty

def contains (pool : DonorPool) (digest : Digest) : Bool := pool.digests.contains digest

def size (pool : DonorPool) : Nat := pool.digests.length

end DonorPool

abbrev Pools := Table PoolName DonorPool

namespace Pools

def select (pools : Pools) (names : List PoolName) : List DonorPool := names.filterMap pools.get?

def counts (pools : Pools) : List (String × Nat) :=
  pools.entries.map fun entry => (entry.1.name, entry.2.size)

end Pools

structure PoolSet where
  id : DiffId
  variant : PoolVariant
  pools : Pools

namespace PoolSet

/-- Whether any of the named pools holds the digest. -/
def containsDigest (set : PoolSet) (digest : Digest) (names : List PoolName) : Bool :=
  (set.pools.select names).any (·.contains digest)

/-- Whether any of the named pools holds a fragment like the one at the node. -/
def contains (set : PoolSet) (arena : Arena) (node : Nat) (names : List PoolName) : Bool :=
  match (NodeHashes.compute set.variant.mode arena).get? node with
  | none => false
  | some digest => set.containsDigest digest names

def readContains (set : PoolSet) (arena : Arena) (node : Nat) (names : List PoolName) :
    Except Nat Bool :=
  ((NodeHashes.compute set.variant.mode arena).read node).map (set.containsDigest · names)

structure ModeMismatch where
  hashed : HashMode
  variant : PoolVariant
  id : DiffId
  deriving DecidableEq, Repr

def ModeMismatch.message (mismatch : ModeMismatch) : String :=
  let hashed := match mismatch.hashed with
    | .concrete => "Concrete"
    | .abstract => "Abstract"
  s!"{hashed} hashes queried against {mismatch.variant.name} pools of {mismatch.id.toText}"

def containsHashed (set : PoolSet) (hashes : NodeHashes) (node : Nat) (names : List PoolName) :
    Except ModeMismatch Bool :=
  if hashes.mode = set.variant.mode then
    match hashes.get? node with
    | none => .ok false
    | some digest => .ok (set.containsDigest digest names)
  else .error ⟨hashes.mode, set.variant, set.id⟩

def readContainsHashed (set : PoolSet) (hashes : NodeHashes) (node : Nat) (names : List PoolName) :
    Except ModeMismatch (Except Nat Bool) :=
  if hashes.mode = set.variant.mode then
    .ok ((hashes.read node).map (set.containsDigest · names))
  else .error ⟨hashes.mode, set.variant, set.id⟩

def union (set : PoolSet) (names : List PoolName) : DonorPool :=
  .ofList ((set.pools.select names).flatMap (·.digests))

end PoolSet

end RepairMining
