import RepairMining.Pool.Building
import RepairMining.Proofs.Syntax.Alike
import RepairMining.Proofs.Table

namespace RepairMining

def PoolName.own (name : PoolName) (arena : Arena) (variant : PoolVariant) : DonorPool :=
  Pools.gather arena (NodeHashes.compute variant.mode arena) name

namespace PoolName

variable {first second : Arena}

theorem contributions_congr (kinds : first.kind? = second.kind?)
    (children : first.children = second.children) (parts : first.part? = second.part?) :
    contributions first = contributions second := by
  funext node
  have arguments : first.callArguments node = second.callArguments node := by
    rw [Arena.callArguments, Arena.callArguments, parts, children]
  have ofExpression_congr (kind : NodeKind) :
      ofExpression first node kind = ofExpression second node kind := by
    cases kind <;> simp only [ofExpression, Arena.callTarget?, parts, arguments]
  have ofStatement_congr (kind : NodeKind) :
      ofStatement first node kind = ofStatement second node kind := by
    cases kind <;> simp only [ofStatement, Arena.condition?, Arena.switchExpr?, parts]
  rw [contributions, contributions, kinds]
  simp only [ofExpression_congr, ofStatement_congr]

theorem contributions_alike (alike : first.Alike second) :
    contributions first = contributions second :=
  contributions_congr alike.kind? alike.children alike.part?

theorem members_alike (alike : first.Alike second) : members first = members second := by
  funext name
  rw [members, members, alike.nodes, contributions_alike alike]

theorem own_alike (alike : first.Alike second) (name : PoolName) (variant : PoolVariant) :
    name.own first variant = name.own second variant := by
  rw [own, own, Pools.gather, Pools.gather, members_alike alike, alike.compute]

end PoolName

namespace Pools

variable {arena : Arena} {existing : Pools} {requested : List PoolName} {name : PoolName}

theorem mem_missing : name ∈ existing.missing requested ↔
    name ∈ requested ∧ existing.contains name = false := by
  simp [missing, show name ∈ PoolName.all from Vocabulary.mem_all name]

theorem get?_build_mode (arena : Arena) (mode : HashMode) (existing : Pools)
    (requested : List PoolName) (name : PoolName) :
    (build arena mode existing requested).pools.get? name =
      if name ∈ existing.missing requested then
        some (gather arena (NodeHashes.compute mode arena) name)
      else existing.get? name := by
  rw [build]
  split
  · rename_i none
    rw [if_neg (by rw [none]; exact List.not_mem_nil)]
  · have given : ∀ entry ∈ (existing.missing requested).map
        fun name => (name, gather arena (NodeHashes.compute mode arena) name),
        Table.get? ⟨fun name => some (gather arena (NodeHashes.compute mode arena) name)⟩ entry.1 =
          some entry.2 := by
      simp
    have inserted := Table.get?_foldl_insert _ given existing name
    rw [List.foldl_map, List.map_map] at inserted
    simp only [Function.comp_def, List.map_id'] at inserted
    exact inserted

theorem get?_build (arena : Arena) (variant : PoolVariant) (existing : Pools)
    (requested : List PoolName) (name : PoolName) :
    (build arena variant.mode existing requested).pools.get? name =
      if name ∈ existing.missing requested then some (name.own arena variant)
      else existing.get? name :=
  get?_build_mode arena variant.mode existing requested name

theorem built_build (arena : Arena) (mode : HashMode) (existing : Pools)
    (requested : List PoolName) :
    (build arena mode existing requested).built = existing.missing requested := by
  rw [build]
  split
  · rename_i none
    exact none.symm
  · rfl

theorem get?_build_empty (arena : Arena) (variant : PoolVariant) (listed : name ∈ requested) :
    (build arena variant.mode .empty requested).pools.get? name = some (name.own arena variant) := by
  rw [get?_build, if_pos (mem_missing.mpr ⟨listed, rfl⟩)]

end Pools

end RepairMining
