import RepairMining.Pool.Membership
import RepairMining.Proofs.Syntax.Arena

namespace RepairMining

namespace PoolName

def takes : PoolName → NodeKind → Option Role
  | lhs, .assignment => some .lhs
  | rhs, .assignment => some .rhs
  | callTarget, .functionCall => some .target
  | switchExpr, .switch => some .switchExpr
  | guard, .whileLoop | guard, .doWhileLoop | guard, .forLoop | guard, .ifElse => some .condition
  | forInit, .forLoop => some .init
  | forAfter, .forLoop => some .after
  | _, _ => none

/-- The nodes of a tree that belong to a pool. Statements other than blocks are in the statement
pool. Where several children play one role, the first of them is the part. -/
inductive Admits (arena : Arena) : PoolName → Nat → Prop
  | atomic {node : Nat} (inside : arena.contains node = true) : Admits arena atomic node
  | block {node : Nat} (known : arena.kind? node = some .block) : Admits arena block node
  | expression {node : Nat} {kind : NodeKind} (known : arena.kind? node = some kind)
      (category : kind.category = .expression) : Admits arena expression node
  | statement {node : Nat} {kind : NodeKind} (known : arena.kind? node = some kind)
      (category : kind.category = .statement) (other : kind ≠ .block) : Admits arena statement node
  | identity {node : Nat} (known : arena.kind? node = some .identity) : Admits arena identity node
  | part {construct node : Nat} {pool : PoolName} {kind : NodeKind} {role : Role}
      (known : arena.kind? construct = some kind) (taken : pool.takes kind = some role)
      (found : arena.part? construct role = some node) : Admits arena pool node
  | argument {construct list node : Nat} (known : arena.kind? construct = some .functionCall)
      (found : arena.part? construct .args = some list) (listed : node ∈ arena.children list) :
      Admits arena callArg node

variable {arena : Arena} {pool other : PoolName} {construct node : Nat} {kind : NodeKind}

theorem mem_some? {found : Option Nat} :
    (pool, node) ∈ other.some? found ↔ pool = other ∧ found = some node := by
  cases found with
  | none => simp [some?]
  | some place => simp [some?, eq_comm]

theorem mem_callArguments : node ∈ arena.callArguments construct ↔
    ∃ list, arena.part? construct .args = some list ∧ node ∈ arena.children list := by
  rw [Arena.callArguments]
  cases arena.part? construct .args <;> simp

theorem admits_of_mem_ofExpression (known : arena.kind? construct = some kind)
    (member : (pool, node) ∈ ofExpression arena construct kind) : pool.Admits arena node := by
  unfold ofExpression at member
  split at member
  · rcases List.mem_append.mp member with left | right
    · obtain ⟨rfl, found⟩ := mem_some?.mp left
      exact .part known rfl found
    · obtain ⟨rfl, found⟩ := mem_some?.mp right
      exact .part known rfl found
  · obtain ⟨rfl, rfl⟩ := Prod.mk.inj (List.mem_singleton.mp member)
    exact .identity known
  · rcases List.mem_append.mp member with target | argument
    · obtain ⟨rfl, found⟩ := mem_some?.mp target
      exact .part known rfl found
    · obtain ⟨argument, listed, same⟩ := List.mem_map.mp argument
      obtain ⟨rfl, rfl⟩ := Prod.mk.inj same
      obtain ⟨list, found, listed⟩ := mem_callArguments.mp listed
      exact .argument known found listed
  · cases member

theorem admits_of_mem_ofStatement (known : arena.kind? construct = some kind)
    (member : (pool, node) ∈ ofStatement arena construct kind) : pool.Admits arena node := by
  unfold ofStatement at member
  split at member
  case h_5 =>
    simp only [List.mem_append] at member
    rcases member with guard | init | after
    · obtain ⟨rfl, found⟩ := mem_some?.mp guard
      exact .part known rfl found
    · obtain ⟨rfl, found⟩ := mem_some?.mp init
      exact .part known rfl found
    · obtain ⟨rfl, found⟩ := mem_some?.mp after
      exact .part known rfl found
  case h_6 => cases member
  all_goals
    obtain ⟨rfl, found⟩ := mem_some?.mp member
    exact .part known rfl found

theorem admits_of_mem_contributions (inside : arena.contains construct = true)
    (member : (pool, node) ∈ contributions arena construct) : pool.Admits arena node := by
  rw [contributions, List.mem_cons] at member
  rcases member with itself | member
  · obtain ⟨rfl, rfl⟩ := Prod.mk.inj itself
    exact .atomic inside
  · split at member
    · cases member
    · rename_i known
      obtain ⟨rfl, rfl⟩ := Prod.mk.inj (List.mem_singleton.mp member)
      exact .block known
    · rename_i kind other known
      split at member
      · rename_i category
        rcases List.mem_cons.mp member with itself | member
        · obtain ⟨rfl, rfl⟩ := Prod.mk.inj itself
          exact .expression known category
        · exact admits_of_mem_ofExpression known member
      · rename_i category
        rcases List.mem_cons.mp member with itself | member
        · obtain ⟨rfl, rfl⟩ := Prod.mk.inj itself
          exact .statement known category other
        · exact admits_of_mem_ofStatement known member
      · cases member

theorem contributions_expression (known : arena.kind? construct = some kind)
    (category : kind.category = .expression) :
    contributions arena construct =
      (atomic, construct) :: (expression, construct) :: ofExpression arena construct kind := by
  rw [contributions, known]
  cases kind <;> first | rfl | cases category

theorem contributions_statement (known : arena.kind? construct = some kind)
    (category : kind.category = .statement) (other : kind ≠ .block) :
    contributions arena construct =
      (atomic, construct) :: (statement, construct) :: ofStatement arena construct kind := by
  rw [contributions, known]
  cases kind <;> first | exact absurd rfl other | rfl | cases category

theorem mem_contributions_of_takes {role : Role} (known : arena.kind? construct = some kind)
    (taken : pool.takes kind = some role) (found : arena.part? construct role = some node) :
    (pool, node) ∈ contributions arena construct := by
  unfold takes at taken
  split at taken
  case h_11 => cases taken
  all_goals obtain rfl := Option.some.inj taken
  case h_1 | h_2 | h_3 =>
    rw [contributions_expression known rfl]
    simp [ofExpression, mem_some?, Arena.callTarget?, found]
  all_goals
    rw [contributions_statement known rfl (by decide)]
    simp [ofStatement, mem_some?, Arena.switchExpr?, Arena.condition?, found]

theorem exists_contribution (admitted : pool.Admits arena node) :
    ∃ construct, arena.contains construct = true ∧
      (pool, node) ∈ contributions arena construct := by
  cases admitted with
  | atomic inside => exact ⟨node, inside, List.mem_cons_self⟩
  | block known =>
    refine ⟨node, Arena.contains_of_kind? known, ?_⟩
    rw [contributions, known]
    exact List.mem_cons_of_mem _ (List.mem_singleton_self _)
  | expression known category =>
    refine ⟨node, Arena.contains_of_kind? known, ?_⟩
    rw [contributions_expression known category]
    exact List.mem_cons_of_mem _ List.mem_cons_self
  | statement known category other =>
    refine ⟨node, Arena.contains_of_kind? known, ?_⟩
    rw [contributions_statement known category other]
    exact List.mem_cons_of_mem _ List.mem_cons_self
  | identity known =>
    refine ⟨node, Arena.contains_of_kind? known, ?_⟩
    rw [contributions_expression known rfl]
    exact List.mem_cons_of_mem _ (List.mem_cons_of_mem _ (List.mem_singleton_self _))
  | part known taken found =>
    exact ⟨_, Arena.contains_of_kind? known, mem_contributions_of_takes known taken found⟩
  | argument known found listed =>
    refine ⟨_, Arena.contains_of_kind? known, ?_⟩
    rw [contributions_expression known rfl]
    refine List.mem_cons_of_mem _ (List.mem_cons_of_mem _ (List.mem_append_right _ ?_))
    exact List.mem_map_of_mem (mem_callArguments.mpr ⟨_, found, listed⟩)

theorem mem_members : node ∈ pool.members arena ↔ pool.Admits arena node := by
  have added : node ∈ pool.members arena ↔ ∃ construct, arena.contains construct = true ∧
      (pool, node) ∈ contributions arena construct := by
    simp [members, Arena.nodes, Arena.contains_iff]
  rw [added]
  constructor
  · rintro ⟨construct, inside, member⟩
    exact admits_of_mem_contributions inside member
  · exact exists_contribution

end PoolName

end RepairMining
