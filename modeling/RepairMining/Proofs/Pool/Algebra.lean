import RepairMining.Proofs.Pool.Queries
import RepairMining.Proofs.Syntax.Intervals

namespace RepairMining

theorem NodeHashes.exists_kind? {tree : Tree} {mode : HashMode} {node : Nat} {digest : Digest}
    (found : (compute mode (.ofTree tree)).get? node = some digest) :
    ∃ kind, (Arena.ofTree tree).kind? node = some kind := by
  obtain ⟨part, placed, _⟩ := get?_compute_eq_some.mp found
  refine ⟨part.attributes.kind, ?_⟩
  rw [Arena.kind?_ofTree, placed, Option.map_some]

namespace Tree.CollisionFree

variable {tree : Tree} {mode : HashMode} {node place : Nat} {digest : Digest}

theorem exists_shape_eq (free : tree.CollisionFree mode)
    (found : (NodeHashes.compute mode (.ofTree tree)).get? node = some digest)
    (alsoFound : (NodeHashes.compute mode (.ofTree tree)).get? place = some digest) :
    ∃ part fragment, tree.subtrees[node]? = some part ∧ tree.subtrees[place]? = some fragment ∧
      part.shape mode = fragment.shape mode := by
  obtain ⟨part, placed, same⟩ := NodeHashes.get?_compute_eq_some.mp found
  obtain ⟨fragment, alsoPlaced, rfl⟩ := NodeHashes.get?_compute_eq_some.mp alsoFound
  refine ⟨part, fragment, placed, alsoPlaced, ?_⟩
  apply free part (List.mem_of_getElem? placed) fragment (List.mem_of_getElem? alsoPlaced)
  exact same

theorem kind?_eq (free : tree.CollisionFree mode)
    (found : (NodeHashes.compute mode (.ofTree tree)).get? node = some digest)
    (alsoFound : (NodeHashes.compute mode (.ofTree tree)).get? place = some digest) :
    (Arena.ofTree tree).kind? node = (Arena.ofTree tree).kind? place := by
  obtain ⟨part, fragment, placed, alsoPlaced, shapes⟩ := free.exists_shape_eq found alsoFound
  rw [Arena.kind?_ofTree, Arena.kind?_ofTree, placed, alsoPlaced, Option.map_some, Option.map_some,
    (shape_inj.mp shapes).1]

theorem abstract_eq (free : tree.CollisionFree .concrete)
    (found : (NodeHashes.compute .concrete (.ofTree tree)).get? node = some digest)
    (alsoFound : (NodeHashes.compute .concrete (.ofTree tree)).get? place = some digest) :
    (NodeHashes.compute .abstract (.ofTree tree)).get? node =
      (NodeHashes.compute .abstract (.ofTree tree)).get? place := by
  obtain ⟨part, fragment, placed, alsoPlaced, shapes⟩ := free.exists_shape_eq found alsoFound
  rw [NodeHashes.get?_compute, NodeHashes.get?_compute, placed, alsoPlaced, Option.map_some,
    Option.map_some, digest_eq_of_shape_eq (shape_abstract shapes)]

end Tree.CollisionFree

namespace PoolName

def structural : List PoolName := [block, expression, statement]

def ofKind? (kind : NodeKind) : Option PoolName :=
  if kind = .block then some block
  else match kind.category with
    | .statement => some statement
    | .expression => some expression
    | .auxiliary => none

theorem ofKind?_mem {kind : NodeKind} {pool : PoolName} (taken : ofKind? kind = some pool) :
    pool ∈ structural := by
  revert taken
  cases kind <;> rintro ⟨⟩ <;> decide

theorem ofKind?_eq_none {kind : NodeKind} :
    ofKind? kind = none ↔ kind.category = .auxiliary := by
  cases kind <;> decide

theorem takes_structural {pool : PoolName} (member : pool ∈ structural) (kind : NodeKind) :
    pool.takes kind = none := by
  rw [structural, List.mem_cons, List.mem_cons, List.mem_singleton] at member
  rcases member with rfl | rfl | rfl <;> rfl

section

variable {arena : Arena} {pool : PoolName} {node : Nat}

theorem admits_structural (member : pool ∈ structural) :
    pool.Admits arena node ↔ ∃ kind, arena.kind? node = some kind ∧ ofKind? kind = some pool := by
  constructor
  · intro admitted
    cases admitted with
    | atomic | identity | argument => exact absurd member (by decide)
    | block known => exact ⟨.block, known, rfl⟩
    | @expression _ kind known category =>
      refine ⟨kind, known, ?_⟩
      revert category
      cases kind <;> decide
    | @statement _ kind known category other =>
      refine ⟨kind, known, ?_⟩
      rw [ofKind?, if_neg other, category]
    | part known taken found =>
      rw [takes_structural member] at taken
      cases taken
  · rintro ⟨kind, known, taken⟩
    unfold ofKind? at taken
    split at taken
    · rename_i same
      subst same
      obtain rfl := Option.some.inj taken
      exact .block known
    · rename_i other
      split at taken
      · rename_i category
        obtain rfl := Option.some.inj taken
        exact .statement known category other
      · rename_i category
        obtain rfl := Option.some.inj taken
        exact .expression known category
      · cases taken

theorem admits_identity : identity.Admits arena node ↔ arena.kind? node = some .identity := by
  constructor
  · intro admitted
    cases admitted with
    | identity known => exact known
    | part known taken found => cases taken
  · exact .identity

end

variable {tree : Tree} {variant : PoolVariant}

theorem own_subset_atomic (name : PoolName) (tree : Tree) (variant : PoolVariant) :
    (name.own (.ofTree tree) variant).digests ⊆ (atomic.own (.ofTree tree) variant).digests := by
  intro digest member
  obtain ⟨node, _, found⟩ := mem_own.mp member
  obtain ⟨kind, known⟩ := NodeHashes.exists_kind? found
  exact mem_own.mpr ⟨node, .atomic (Arena.contains_of_kind? known), found⟩

theorem own_identity_subset (tree : Tree) (variant : PoolVariant) :
    (identity.own (.ofTree tree) variant).digests ⊆
      (expression.own (.ofTree tree) variant).digests := by
  intro digest member
  obtain ⟨node, admitted, found⟩ := mem_own.mp member
  exact mem_own.mpr ⟨node, .expression (admits_identity.mp admitted) rfl, found⟩

theorem mem_own_structural {pool : PoolName} (member : pool ∈ structural) {digest : Digest} :
    digest ∈ (pool.own (.ofTree tree) variant).digests ↔ ∃ node kind,
      (Arena.ofTree tree).kind? node = some kind ∧ ofKind? kind = some pool ∧
        (NodeHashes.compute variant.mode (.ofTree tree)).get? node = some digest := by
  rw [mem_own]
  apply exists_congr
  intro node
  rw [admits_structural member, ← exists_and_right]
  simp only [and_assoc]

theorem mem_own_iff_ofKind? (free : tree.CollisionFree variant.mode) {pool : PoolName}
    (member : pool ∈ structural) {node : Nat} {kind : NodeKind} {digest : Digest}
    (known : (Arena.ofTree tree).kind? node = some kind)
    (found : (NodeHashes.compute variant.mode (.ofTree tree)).get? node = some digest) :
    digest ∈ (pool.own (.ofTree tree) variant).digests ↔ ofKind? kind = some pool := by
  rw [mem_own_structural member]
  constructor
  · rintro ⟨place, other, alsoKnown, taken, alsoFound⟩
    have same := free.kind?_eq found alsoFound
    rw [known, alsoKnown] at same
    rw [Option.some.inj same, taken]
  · intro taken
    exact ⟨node, kind, known, taken, found⟩

theorem structural_disjoint (free : tree.CollisionFree variant.mode) :
    structural.Pairwise fun name other =>
      (name.own (.ofTree tree) variant).digests.Disjoint
        (other.own (.ofTree tree) variant).digests := by
  have apart : structural.Pairwise (· ≠ ·) := by decide
  refine apart.imp_of_mem fun {name other} member listed different digest held => ?_
  obtain ⟨node, kind, known, taken, found⟩ := (mem_own_structural member).mp held
  intro alsoHeld
  have same := (mem_own_iff_ofKind? free listed known found).mp alsoHeld
  exact different (Option.some.inj (taken.symm.trans same))

theorem atomic_rest (free : tree.CollisionFree variant.mode) (digest : Digest) :
    (digest ∈ (atomic.own (.ofTree tree) variant).digests ∧
        ∀ name ∈ structural, digest ∉ (name.own (.ofTree tree) variant).digests) ↔
      ∃ node kind, (Arena.ofTree tree).kind? node = some kind ∧ kind.category = .auxiliary ∧
        (NodeHashes.compute variant.mode (.ofTree tree)).get? node = some digest := by
  constructor
  · rintro ⟨held, others⟩
    obtain ⟨node, _, found⟩ := mem_own.mp held
    obtain ⟨kind, known⟩ := NodeHashes.exists_kind? found
    refine ⟨node, kind, known, ?_, found⟩
    rw [← ofKind?_eq_none, Option.eq_none_iff_forall_ne_some]
    intro pool taken
    have listed := ofKind?_mem taken
    exact others pool listed ((mem_own_iff_ofKind? free listed known found).mpr taken)
  · rintro ⟨node, kind, known, category, found⟩
    refine ⟨mem_own.mpr ⟨node, .atomic (Arena.contains_of_kind? known), found⟩, ?_⟩
    intro name listed held
    have taken := (mem_own_iff_ofKind? free listed known found).mp held
    rw [ofKind?_eq_none.mpr category] at taken
    cases taken

theorem size_abstract_le (free : tree.CollisionFree .concrete) (name : PoolName) :
    (name.own (.ofTree tree) .abstract).size ≤ (name.own (.ofTree tree) .concrete).size := by
  apply DonorPool.size_le_of_stems fun digest source => ∃ node,
    (NodeHashes.compute .abstract (.ofTree tree)).get? node = some digest ∧
      (NodeHashes.compute .concrete (.ofTree tree)).get? node = some source
  · intro digest held
    obtain ⟨node, admitted, found⟩ := mem_own.mp held
    obtain ⟨part, placed, _⟩ := NodeHashes.get?_compute_eq_some.mp found
    have literal : (NodeHashes.compute .concrete (.ofTree tree)).get? node =
        some (part.digest .concrete) :=
      NodeHashes.get?_compute_eq_some.mpr ⟨part, placed, rfl⟩
    exact ⟨part.digest .concrete, mem_own.mpr ⟨node, admitted, literal⟩, node, found, literal⟩
  · rintro digest further source ⟨node, found, literal⟩ ⟨place, alsoFound, alsoLiteral⟩
    rw [free.abstract_eq literal alsoLiteral] at found
    exact Option.some.inj (found.symm.trans alsoFound)

/-- How the pools that a tree gives lie to each other. Unless digests collide, the structural pools
divide the statements and expressions among themselves, and pools do not grow when the names of
identifiers no longer count. -/
theorem own_algebra (tree : Tree) (variant : PoolVariant) :
    (∀ name, (Pools.build (.ofTree tree) variant.mode .empty all).pools.get? name =
      some (name.own (.ofTree tree) variant)) ∧
    (∀ name : PoolName, (name.own (.ofTree tree) variant).digests ⊆
      (atomic.own (.ofTree tree) variant).digests) ∧
    (identity.own (.ofTree tree) variant).digests ⊆
      (expression.own (.ofTree tree) variant).digests ∧
    (tree.CollisionFree variant.mode →
      structural.Pairwise (fun name other =>
        (name.own (.ofTree tree) variant).digests.Disjoint
          (other.own (.ofTree tree) variant).digests) ∧
      ∀ digest, (digest ∈ (atomic.own (.ofTree tree) variant).digests ∧
          ∀ name ∈ structural, digest ∉ (name.own (.ofTree tree) variant).digests) ↔
        ∃ node kind, (Arena.ofTree tree).kind? node = some kind ∧ kind.category = .auxiliary ∧
          (NodeHashes.compute variant.mode (.ofTree tree)).get? node = some digest) ∧
    (tree.CollisionFree .concrete → ∀ name : PoolName,
      (name.own (.ofTree tree) .abstract).size ≤ (name.own (.ofTree tree) .concrete).size) := by
  refine ⟨?_, ?_, own_identity_subset tree variant, ?_, size_abstract_le⟩
  · intro name
    exact Pools.get?_build_empty _ variant (Vocabulary.mem_all name)
  · intro name
    exact own_subset_atomic name tree variant
  · intro free
    exact ⟨structural_disjoint free, atomic_rest free⟩

def copyBlock : Tree :=
  .node ⟨.block, none, none, none⟩ [.node ⟨.exprStatement, none, none, none⟩
    [.node ⟨.assignment, none, none, none⟩
      [.node ⟨.identity, some "x", some .lhs, none⟩ [], .node ⟨.operator, some "=", some .op, none⟩ [],
        .node ⟨.identity, some "y", some .rhs, none⟩ []]]]

theorem copyBlock_free : copyBlock.CollisionFree .concrete :=
  Tree.collisionFree_of_inputs (by decide) (by decide +kernel)

/-- The operator is the only node of the block that is neither statement nor expression. -/
theorem own_algebra_copyBlock :
    (statement.own (.ofTree copyBlock) .concrete).digests.Disjoint
      (expression.own (.ofTree copyBlock) .concrete).digests ∧
    (∃ digest, (NodeHashes.compute .concrete (.ofTree copyBlock)).get? 4 = some digest ∧
      digest ∈ (atomic.own (.ofTree copyBlock) .concrete).digests ∧
      ∀ name ∈ structural, digest ∉ (name.own (.ofTree copyBlock) .concrete).digests) ∧
    (expression.own (.ofTree copyBlock) .abstract).size ≤
      (expression.own (.ofTree copyBlock) .concrete).size := by
  obtain ⟨_, _, _, divided, smaller⟩ := own_algebra copyBlock .concrete
  obtain ⟨disjoint, rest⟩ := divided copyBlock_free
  refine ⟨?_, ?_, smaller copyBlock_free expression⟩
  · exact ((List.pairwise_cons.mp (List.pairwise_cons.mp disjoint).2).1 _
      (List.mem_singleton_self _)).symm
  · have operator : copyBlock.subtrees[4]? =
        some (.node ⟨.operator, some "=", some .op, none⟩ []) := rfl
    have found := NodeHashes.get?_compute .concrete copyBlock 4
    rw [operator, Option.map_some] at found
    have known : (Arena.ofTree copyBlock).kind? 4 = some .operator := rfl
    exact ⟨_, found, (rest _).mpr ⟨4, .operator, known, rfl, found⟩⟩

end PoolName

end RepairMining
