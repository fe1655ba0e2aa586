import RepairMining.Pool.Service
import RepairMining.Proofs.Pool.Building
import RepairMining.Proofs.Syntax.Relabelling

namespace RepairMining

namespace Tree.Relabelled

variable {first second : Tree}

theorem members (related : first.Relabelled second) :
    PoolName.members (.ofTree first) = PoolName.members (.ofTree second) := by
  funext name
  rw [PoolName.members, PoolName.members, related.nodes,
    PoolName.contributions_congr related.kind? related.children related.part?]

theorem build (related : first.Relabelled second) (existing : Pools)
    (requested : List PoolName) :
    Pools.build (.ofTree first) .abstract existing requested =
      Pools.build (.ofTree second) .abstract existing requested := by
  have same (name : PoolName) :
      Pools.gather (.ofTree first) (.compute .abstract (.ofTree first)) name =
        Pools.gather (.ofTree second) (.compute .abstract (.ofTree second)) name := by
    rw [Pools.gather, Pools.gather, related.members, related.compute]
  simp only [Pools.build, same]

end Tree.Relabelled

def PoolSet.built (id : DiffId) (variant : PoolVariant) (existing : Pools)
    (requested : List PoolName) (tree : Tree) : PoolSet :=
  ⟨id, variant, (Pools.build (.ofTree tree) variant.mode existing requested).pools⟩

namespace PoolSet

variable {first second query other : Tree} {id : DiffId} {existing : Pools}
variable {requested : List PoolName}

theorem built_relabelled (related : first.Relabelled second) :
    built id .abstract existing requested first = built id .abstract existing requested second := by
  rw [built, built, PoolVariant.mode, related.build]

theorem contains_relabelled (related : query.Relabelled other) {set : PoolSet}
    (abstract : set.variant = .abstract) (node : Nat) (names : List PoolName) :
    set.contains (.ofTree query) node names = set.contains (.ofTree other) node names := by
  rw [contains, contains, abstract, PoolVariant.mode, related.compute]

theorem containsHashed_relabelled (related : query.Relabelled other) {set : PoolSet}
    (abstract : set.variant = .abstract) (mode : HashMode) (node : Nat) (names : List PoolName) :
    set.containsHashed (.compute mode (.ofTree query)) node names =
      set.containsHashed (.compute mode (.ofTree other)) node names := by
  cases mode with
  | abstract => rw [related.compute]
  | concrete =>
    have refused (tree : Tree) :
        (NodeHashes.compute .concrete (.ofTree tree)).mode ≠ set.variant.mode := by
      rw [abstract]
      exact HashMode.noConfusion
    rw [containsHashed, containsHashed, if_neg (refused query), if_neg (refused other)]
    rfl

end PoolSet

namespace PoolService

variable {m : Type → Type} [Monad m]

theorem build_relabelled {first second : Tree} (related : first.Relabelled second)
    (service : PoolService) (storage : Storage m) {diff other : Diff} (ids : diff.id = other.id)
    (before : diff.before = .ofTree first) (otherBefore : other.before = .ofTree second) :
    service.build storage diff .abstract = service.build storage other .abstract := by
  simp only [build, loadCached, storeBuilt, ids, before, otherBefore, PoolVariant.mode,
    related.build]

end PoolService

namespace Tree.Relabelled

/-- Other names of identifiers, or none, change no digest, no pool, no union of pools and no answer
when names do not count. A service for such pools does the same as well, whatever it has cached. -/
theorem indistinguishable {first second : Tree} (related : first.Relabelled second) :
    (∀ node, (NodeHashes.compute .abstract (.ofTree first)).get? node =
      (NodeHashes.compute .abstract (.ofTree second)).get? node) ∧
    (∀ existing requested,
      Pools.build (.ofTree first) .abstract existing requested =
        Pools.build (.ofTree second) .abstract existing requested) ∧
    (∀ id existing requested names,
      (PoolSet.built id .abstract existing requested first).union names =
          (PoolSet.built id .abstract existing requested second).union names ∧
        ∀ query other : Tree, query.Relabelled other → ∀ node,
          (PoolSet.built id .abstract existing requested first).contains (.ofTree query) node
              names =
            (PoolSet.built id .abstract existing requested second).contains (.ofTree other) node
              names ∧
          ∀ mode, (PoolSet.built id .abstract existing requested first).containsHashed
              (.compute mode (.ofTree query)) node names =
            (PoolSet.built id .abstract existing requested second).containsHashed
              (.compute mode (.ofTree other)) node names) ∧
    ∀ (m : Type → Type) [Monad m] (service : PoolService) (storage : Storage m)
      (diff other : Diff), diff.id = other.id → diff.before = .ofTree first →
      other.before = .ofTree second →
      service.build storage diff .abstract = service.build storage other .abstract := by
  refine ⟨?_, related.build, ?_, ?_⟩
  · intro node
    rw [related.compute]
  · intro id existing requested names
    have same : PoolSet.built id .abstract existing requested first =
        PoolSet.built id .abstract existing requested second :=
      PoolSet.built_relabelled related
    rw [same]
    refine ⟨rfl, fun query other renamed node => ⟨?_, fun mode => ?_⟩⟩
    · exact PoolSet.contains_relabelled renamed rfl node names
    · exact PoolSet.containsHashed_relabelled renamed rfl mode node names
  · intro m _ service storage diff other ids before otherBefore
    exact PoolService.build_relabelled related service storage ids before otherBefore

end Tree.Relabelled

def Tree.copying (target source : Option String) : Tree :=
  .node ⟨.assignment, none, none, none⟩
    [.node ⟨.identity, target, some .lhs, none⟩ [], .node ⟨.operator, some "=", some .op, none⟩ [],
      .node ⟨.identity, source, some .rhs, none⟩ []]

namespace Tree.Relabelled

theorem copying (target source other further : Option String) :
    (Tree.copying target source).Relabelled (Tree.copying other further) :=
  .node none (.inl rfl) (.cons (.node other (.inr rfl) .nil)
    (.cons (refl _) (.cons (.node further (.inr rfl) .nil) .nil)))

theorem indistinguishable_copies :
    (Tree.copying (some "x") (some "x")).Relabelled (.copying (some "y") none) ∧
    (NodeHashes.compute .concrete (.ofTree (.copying (some "x") (some "x")))).get? 3 ≠
      (NodeHashes.compute .concrete (.ofTree (.copying (some "y") none))).get? 3 ∧
    (NodeHashes.compute .abstract (.ofTree (.copying (some "x") (some "x")))).get? 3 =
      (NodeHashes.compute .abstract (.ofTree (.copying (some "y") none))).get? 3 ∧
    ∀ names,
      (PoolSet.built ⟨"r", "f", "a.c"⟩ .abstract .empty names
          (.copying (some "x") (some "x"))).contains (.ofTree (.copying none (some "z"))) 3 names =
        (PoolSet.built ⟨"r", "f", "a.c"⟩ .abstract .empty names
          (.copying (some "y") none)).contains (.ofTree (.copying (some "z") none)) 3 names := by
  obtain ⟨digests, _, answers, _⟩ :=
    indistinguishable (copying (some "x") (some "x") (some "y") none)
  refine ⟨copying _ _ _ _, by decide +kernel, digests 3, fun names => ?_⟩
  exact ((answers ⟨"r", "f", "a.c"⟩ .empty names names).2 _ _
    (copying none (some "z") (some "z") none) 3).1

end Tree.Relabelled

end RepairMining
