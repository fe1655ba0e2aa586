import RepairMining.Proofs.Pool.Building

/-!
Building pools one request after the other. A single walk over the tree fills the buffers of all
pools that are missing, and each of them comes out as if it had been built alone. So it does not
matter how the pools are spread over requests.
-/

namespace RepairMining

/-- Buffers on a walk over a tree, and the nodes that the walk has been at. -/
structure PoolWalk where
  buffers : Pools
  visited : List Nat

namespace PoolWalk

variable {arena : Arena} {hashes : NodeHashes} {name : PoolName}

/-- Puts the digest of a node into the buffer of a pool. Pools without a buffer are passed over. -/
def add (hashes : NodeHashes) (buffers : Pools) (entry : PoolName × Nat) : Pools :=
  match buffers.get? entry.1, hashes.get? entry.2 with
  | some buffer, some digest => buffers.insert entry.1 (buffer.insert digest)
  | _, _ => buffers

def visit (arena : Arena) (hashes : NodeHashes) (walk : PoolWalk) (node : Nat) : PoolWalk where
  buffers := (PoolName.contributions arena node).foldl (add hashes) walk.buffers
  visited := walk.visited ++ [node]

def received (hashes : NodeHashes) (name : PoolName) (entries : List (PoolName × Nat)) :
    List Digest :=
  (entries.filterMap fun entry => if entry.1 = name then some entry.2 else none).filterMap
    hashes.get?

theorem received_cons (entry : PoolName × Nat) (entries : List (PoolName × Nat)) :
    received hashes name (entry :: entries) =
      received hashes name [entry] ++ received hashes name entries := by
  rw [received, received, received, ← List.filterMap_append, ← List.filterMap_append,
    List.singleton_append]

theorem get?_add (buffers : Pools) (entry : PoolName × Nat) :
    (add hashes buffers entry).get? name =
      (buffers.get? name).map fun buffer =>
        (received hashes name [entry]).foldl DonorPool.insert buffer := by
  obtain ⟨pool, node⟩ := entry
  rw [add]
  by_cases same : pool = name
  · subst same
    cases opened : buffers.get? pool with
    | none => simp [opened]
    | some buffer =>
      cases hashed : hashes.get? node with
      | none => simp [opened, received, hashed]
      | some digest => simp [received, hashed, Table.get?_insert_self]
  · have nothing : received hashes name [(pool, node)] = [] := by
      simp [received, same]
    simp only [nothing, List.foldl_nil, Option.map_id']
    split
    · exact Table.get?_insert_ne _ _ (Ne.symm same)
    · rfl

theorem get?_foldl_add (buffers : Pools) (entries : List (PoolName × Nat)) :
    (entries.foldl (add hashes) buffers).get? name =
      (buffers.get? name).map fun buffer =>
        (received hashes name entries).foldl DonorPool.insert buffer := by
  induction entries generalizing buffers with
  | nil => exact Option.map_id'.symm
  | cons entry entries ih =>
    rw [List.foldl_cons, ih, get?_add, Option.map_map, received_cons entry entries]
    simp only [List.foldl_append]
    rfl

theorem foldl_visit (walk : PoolWalk) (nodes : List Nat) :
    nodes.foldl (visit arena hashes) walk =
      ⟨(nodes.flatMap (PoolName.contributions arena)).foldl (add hashes) walk.buffers,
        walk.visited ++ nodes⟩ := by
  induction nodes generalizing walk with
  | nil => rw [List.append_nil]; rfl
  | cons node nodes ih =>
    rw [List.foldl_cons, ih, List.flatMap_cons, List.foldl_append, visit, List.append_assoc,
      List.singleton_append]

end PoolWalk

namespace Pools

variable {arena : Arena} {mode : HashMode} {existing : Pools} {requested others : List PoolName}
variable {name : PoolName}

def buffers (existing : Pools) (requested : List PoolName) : Pools :=
  (requested.filter fun name => !existing.contains name).foldl
    (fun opened name => opened.insert name .empty) .empty

/-- Puts further pools in, in the place of those that have the same name. -/
def extend (existing further : Pools) : Pools :=
  further.entries.foldl (fun pools entry => pools.insert entry.1 entry.2) existing

/-- Builds all that is missing on one walk over the tree, which is left out if nothing is missing.
The nodes that the walk has been at are told besides. -/
def buildWalking (arena : Arena) (mode : HashMode) (existing : Pools) (requested : List PoolName) :
    BuiltPools × List Nat :=
  let opened := existing.buffers requested
  if opened.keys.isEmpty then (⟨existing, []⟩, [])
  else
    let hashes := NodeHashes.compute mode arena
    let walk := arena.nodes.foldl (PoolWalk.visit arena hashes) ⟨opened, []⟩
    (⟨existing.extend walk.buffers, walk.buffers.keys⟩, walk.visited)

theorem get?_buffers : (existing.buffers requested).get? name =
    if name ∈ existing.missing requested then some .empty else none := by
  have given : ∀ entry ∈ (requested.filter fun name => !existing.contains name).map
      fun name => (name, DonorPool.empty),
      Table.get? ⟨fun _ => some DonorPool.empty⟩ entry.1 = some entry.2 := by
    simp
  have opened := Table.get?_foldl_insert _ given .empty name
  rw [List.foldl_map, List.map_map] at opened
  simp only [Function.comp_def, List.map_id', List.mem_filter, Bool.not_eq_true'] at opened
  simp only [mem_missing]
  exact opened

theorem keys_eq_missing {pools : Pools}
    (held : ∀ name, pools.contains name = true ↔ name ∈ existing.missing requested) :
    pools.keys = existing.missing requested := by
  have listed (name : PoolName) : pools.contains name =
      (requested.contains name && !existing.contains name) := by
    rw [Bool.eq_iff_iff, held, mem_missing, Bool.and_eq_true, List.contains_iff_mem,
      Bool.not_eq_true']
  rw [Table.keys, missing, funext listed]
  rfl

theorem get?_extend (existing further : Pools) (name : PoolName) :
    (existing.extend further).get? name = (further.get? name).or (existing.get? name) := by
  rw [extend, Table.get?_foldl_insert further fun entry member => Table.mem_entries.mp member]
  cases present : further.get? name with
  | none =>
    rw [if_neg, Option.none_or]
    intro member
    obtain ⟨entry, listed, rfl⟩ := List.mem_map.mp member
    rw [Table.mem_entries.mp listed] at present
    cases present
  | some pool => rw [if_pos (List.mem_map_of_mem (Table.mem_entries.mpr present)), Option.some_or]

theorem get?_walk : (arena.nodes.foldl (PoolWalk.visit arena (NodeHashes.compute mode arena))
      ⟨existing.buffers requested, []⟩).buffers.get? name =
    if name ∈ existing.missing requested then
      some (gather arena (NodeHashes.compute mode arena) name)
    else none := by
  rw [PoolWalk.foldl_visit, PoolWalk.get?_foldl_add, get?_buffers]
  split <;> rfl

theorem keys_buffers : (existing.buffers requested).keys = existing.missing requested := by
  apply keys_eq_missing
  intro name
  rw [Table.contains, get?_buffers]
  split <;> simp_all

theorem keys_walk : (arena.nodes.foldl (PoolWalk.visit arena (NodeHashes.compute mode arena))
      ⟨existing.buffers requested, []⟩).buffers.keys = existing.missing requested := by
  apply keys_eq_missing
  intro name
  rw [Table.contains, get?_walk]
  split <;> simp_all

theorem extend_walk : existing.extend (arena.nodes.foldl
      (PoolWalk.visit arena (NodeHashes.compute mode arena))
      ⟨existing.buffers requested, []⟩).buffers =
    (build arena mode existing requested).pools := by
  refine Table.ext fun name => ?_
  rw [get?_extend, get?_walk, get?_build_mode]
  split <;> rfl

/-- Walking once gives the same pools as building each by itself. The walk goes over the whole tree
or is left out. -/
theorem buildWalking_eq (arena : Arena) (mode : HashMode) (existing : Pools)
    (requested : List PoolName) :
    buildWalking arena mode existing requested =
      (build arena mode existing requested,
        if (build arena mode existing requested).traversed then arena.nodes else []) := by
  rw [buildWalking, keys_buffers, BuiltPools.traversed, built_build]
  cases absent : existing.missing requested with
  | nil => rw [build, absent]; rfl
  | cons first names =>
    have whole : build arena mode existing requested =
        ⟨(build arena mode existing requested).pools, existing.missing requested⟩ := by
      rw [← built_build arena mode]
    simp only [List.isEmpty_cons, Bool.false_eq_true, if_false, Bool.not_false, if_true]
    rw [extend_walk, keys_walk, ← whole, PoolWalk.foldl_visit, List.nil_append]

theorem missing_congr (same : ∀ name, name ∈ requested ↔ name ∈ others) :
    existing.missing requested = existing.missing others := by
  have listed (name : PoolName) : requested.contains name = others.contains name := by
    rw [Bool.eq_iff_iff, List.contains_iff_mem, List.contains_iff_mem, same]
  simp only [missing, listed]

theorem build_congr (same : ∀ name, name ∈ requested ↔ name ∈ others) :
    build arena mode existing requested = build arena mode existing others := by
  rw [build, build, missing_congr same]

theorem build_append : (build arena mode (build arena mode existing requested).pools others).pools =
    (build arena mode existing (requested ++ others)).pools := by
  refine Table.ext fun name => ?_
  simp only [get?_build_mode, mem_missing, Table.contains, List.mem_append]
  cases existing.get? name <;> by_cases first : name ∈ requested <;>
    by_cases second : name ∈ others <;> simp [first, second]

theorem foldl_build (arena : Arena) (mode : HashMode) (existing : Pools)
    (requests : List (List PoolName)) :
    requests.foldl (fun pools requested => (build arena mode pools requested).pools) existing =
      (build arena mode existing requests.flatten).pools := by
  induction requests generalizing existing with
  | nil =>
    refine Table.ext fun name => ?_
    rw [List.foldl_nil, List.flatten_nil, get?_build_mode, if_neg]
    simp [mem_missing]
  | cons requested requests ih => rw [List.foldl_cons, ih, build_append, List.flatten_cons]

theorem all_increasing :
    PoolName.all.Pairwise fun first second => Vocabulary.rank first < Vocabulary.rank second := by
  decide

theorem missing_increasing : (existing.missing requested).Pairwise
    fun first second => Vocabulary.rank first < Vocabulary.rank second :=
  all_increasing.sublist List.filter_sublist

/-- Requests one behind the other come to the same pools as a single request for all of them. Each
keeps the pools that exist, whatever they hold, and builds the others in the order of their names.
A single walk over the tree fills all of them, and there is none if there is nothing to fill. -/
theorem build_incremental (arena : Arena) (mode : HashMode) :
    (∀ (requests : List (List PoolName)) (union : List PoolName),
      (∀ name, name ∈ union ↔ ∃ requested ∈ requests, name ∈ requested) →
      requests.foldl (fun pools requested => (build arena mode pools requested).pools) .empty =
        (build arena mode .empty union).pools) ∧
    ∀ (existing : Pools) (requested : List PoolName),
      (∀ name pool, existing.get? name = some pool →
        (build arena mode existing requested).pools.get? name = some pool) ∧
      (∀ name, name ∈ (build arena mode existing requested).built ↔
        name ∈ requested ∧ existing.get? name = none) ∧
      ((build arena mode existing requested).built.Pairwise
        fun first second => Vocabulary.rank first < Vocabulary.rank second) ∧
      ((build arena mode existing requested).traversed = true ↔
        (build arena mode existing requested).built ≠ []) ∧
      buildWalking arena mode existing requested =
        (build arena mode existing requested,
          if (build arena mode existing requested).traversed then arena.nodes else []) := by
  constructor
  · intro requests union same
    rw [foldl_build]
    apply congrArg BuiltPools.pools
    apply build_congr
    intro name
    rw [same, List.mem_flatten]
  · intro existing requested
    refine ⟨?_, ?_, ?_, ?_, buildWalking_eq arena mode existing requested⟩
    · intro name pool present
      rw [get?_build_mode, if_neg, present]
      simp [mem_missing, Table.contains, present]
    · intro name
      rw [built_build, mem_missing, Table.contains, Option.isSome_eq_false_iff,
        Option.isNone_iff_eq_none]
    · rw [built_build]
      exact missing_increasing
    · rw [BuiltPools.traversed, Bool.not_eq_true', List.isEmpty_eq_false_iff]

end Pools

end RepairMining
