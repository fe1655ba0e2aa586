import RepairMining.Proofs.Detection.Safety
import RepairMining.Proofs.Diff.Correspondence
import RepairMining.Proofs.Syntax.Intervals

/-!
Changed expressions in modified statements. Modified statements nest, and a walk through one subtree
after the other, on which what has been found is passed over, comes to the same as a scan of the
whole tree.
-/

namespace RepairMining

/-- A node and its counterpart that are both of a kind and differ. -/
structure Diff.Alters (diff : Diff) (script : List EditOp) (kind : NodeKind) (pair : Nat × Nat) :
    Prop where
  counterpart : pair ∈ diff.correspondence.pairs
  old : diff.before.hasKind pair.1 kind = true
  new : diff.after.hasKind pair.2 kind = true
  differs : (Context.make diff script).equivalent (some pair.1) (some pair.2) = false

theorem Diff.Alters.counterpart_eq {diff : Diff} {script : List EditOp} {kind : NodeKind}
    {pair other : Nat × Nat} (alters : diff.Alters script kind pair)
    (also : diff.Alters script kind other) (same : pair.1 = other.1) : pair.2 = other.2 :=
  (diff.correspondence.oneToOne_pairs _ alters.counterpart _ also.counterpart).mp same

namespace ActionSet

variable {set : ActionSet} {before after : Nat}

theorem mem_modifiedStatements_iff : (before, after) ∈ set.modifiedStatements ↔
    ∃ edits, .modifyStatement before after edits ∈ set.actions .modifyStatement := by
  rw [modifiedStatements, List.mem_filterMap]
  constructor
  · rintro ⟨action, listed, picked⟩
    cases action <;> cases picked
    exact ⟨_, listed⟩
  · rintro ⟨edits, listed⟩
    exact ⟨_, listed, rfl⟩

/-- A node lies in the subtree of a statement that is reported as modified. -/
def WithinModified (set : ActionSet) (diff : Diff) (node : Nat) : Prop :=
  ∃ before after edits, .modifyStatement before after edits ∈ set.actions .modifyStatement ∧
    before ∈ diff.before.chain node

theorem withinModified_iff {diff : Diff} {node : Nat} : set.WithinModified diff node ↔
    ∃ stmt ∈ set.modifiedStatements, stmt.1 ∈ diff.before.chain node := by
  constructor
  · rintro ⟨before, after, edits, listed, above⟩
    exact ⟨(before, after), mem_modifiedStatements_iff.mpr ⟨edits, listed⟩, above⟩
  · rintro ⟨⟨before, after⟩, member, above⟩
    obtain ⟨edits, listed⟩ := mem_modifiedStatements_iff.mp member
    exact ⟨before, after, edits, listed, above⟩

end ActionSet

namespace Detection

theorem pairwise_scan {α β κ : Type} {order : κ → κ → Prop} {items : List α} {scan : α → Option β}
    (start : α → κ) (name : β → κ)
    (sorted : items.Pairwise fun one other => order (start one) (start other))
    (named : ∀ item found, scan item = some found → name found = start item) :
    (items.filterMap scan).Pairwise fun one other => order (name one) (name other) := by
  refine sorted.filterMap scan ?_
  intro one other before found made alsoFound alsoMade
  rw [named one found made, named other alsoFound alsoMade]
  exact before

/-- Nested modified statements reach an expression several times, yet it is listed once. -/
theorem modifiedExpressions_increasing (context : Context) (set : ActionSet) (kind : NodeKind) :
    (modifiedExpressions context set kind).Pairwise fun one other => one.1 < other.1 := by
  apply pairwise_scan (fun node => node) Prod.fst List.pairwise_lt_range
  intro node pair shape
  split at shape
  · split at shape
    · cases shape
    · split at shape
      · obtain rfl := Option.some.inj shape
        rfl
      · cases shape
  · cases shape

/-- A step of the walk. What has been found is passed over, and what has changed is put in its place
among the others. -/
def gatherNode (context : Context) (kind : NodeKind) (found : List (Nat × Nat)) (node : Nat) :
    List (Nat × Nat) :=
  if context.before.hasKind node kind && !found.any (·.1 == node) then
    match context.afterOf node with
    | none => found
    | some after =>
      if context.after.hasKind after kind && !context.equivalent (some node) (some after) then
        Correspondence.place (node, after) found
      else found
  else found

def gatherStatement (context : Context) (kind : NodeKind) (found : List (Nat × Nat))
    (stmt : Nat × Nat) : List (Nat × Nat) :=
  (context.before.subtree stmt.1).foldl (gatherNode context kind) found

/-- The walk through all modified statements, one after the other. -/
def gather (context : Context) (set : ActionSet) (kind : NodeKind) : List (Nat × Nat) :=
  set.modifiedStatements.foldl (gatherStatement context kind) []

/-- What has been found when some nodes have been visited. -/
structure Gathered (diff : Diff) (script : List EditOp) (kind : NodeKind) (visited : List Nat)
    (found : List (Nat × Nat)) : Prop where
  increasing : found.Pairwise fun one other => one.1 < other.1
  member : ∀ pair, pair ∈ found ↔ pair.1 ∈ visited ∧ diff.Alters script kind pair

variable {diff : Diff} {script : List EditOp} {kind : NodeKind} {set : ActionSet} {node : Nat}
  {visited : List Nat} {found : List (Nat × Nat)} {pair : Nat × Nat}

theorem gatherNode_of_found (seen : ∃ other ∈ found, other.1 = node) :
    gatherNode (.make diff script) kind found node = found := by
  have passed : found.any (·.1 == node) = true := by simpa using seen
  simp [gatherNode, passed]

theorem gatherNode_of_alters (alters : diff.Alters script kind pair)
    (fresh : ∀ other ∈ found, other.1 ≠ pair.1) :
    gatherNode (.make diff script) kind found pair.1 = Correspondence.place pair found := by
  have unseen : found.any (·.1 == pair.1) = false := by simpa using fresh
  have old : (Context.make diff script).before.hasKind pair.1 kind = true := alters.old
  have new : (Context.make diff script).after.hasKind pair.2 kind = true := alters.new
  have counterpart : (Context.make diff script).afterOf pair.1 = some pair.2 :=
    Correspondence.after?_eq_some_iff.mpr alters.counterpart
  simp [gatherNode, unseen, old, new, counterpart, alters.differs]

theorem gatherNode_of_same (same : ∀ after, ¬ diff.Alters script kind (node, after)) :
    gatherNode (.make diff script) kind found node = found := by
  rw [gatherNode]
  split
  · rename_i old
    split
    · rfl
    · rename_i after counterpart
      apply if_neg
      intro changed
      rw [Bool.and_eq_true, Bool.not_eq_true'] at old changed
      exact same after ⟨Correspondence.after?_eq_some_iff.mp counterpart, old.1, changed.1,
        changed.2⟩
  · rfl

theorem Gathered.nil : Gathered diff script kind [] [] :=
  ⟨List.Pairwise.nil, by simp⟩

theorem Gathered.pass (gathered : Gathered diff script kind visited found)
    (covered : ∀ pair, pair.1 = node → diff.Alters script kind pair → pair ∈ found) :
    Gathered diff script kind (visited ++ [node]) found where
  increasing := gathered.increasing
  member := by
    intro pair
    rw [List.mem_append, List.mem_singleton]
    constructor
    · intro listed
      obtain ⟨there, alters⟩ := (gathered.member pair).mp listed
      exact ⟨.inl there, alters⟩
    · rintro ⟨there | same, alters⟩
      · exact (gathered.member pair).mpr ⟨there, alters⟩
      · exact covered pair same alters

theorem Gathered.place (gathered : Gathered diff script kind visited found)
    (alters : diff.Alters script kind pair) (fresh : ∀ other ∈ found, other.1 ≠ pair.1) :
    Gathered diff script kind (visited ++ [pair.1]) (Correspondence.place pair found) where
  increasing := Correspondence.place_increasing fresh gathered.increasing
  member := by
    intro other
    rw [Correspondence.mem_place, List.mem_append, List.mem_singleton]
    constructor
    · rintro (rfl | listed)
      · exact ⟨.inr rfl, alters⟩
      · obtain ⟨there, also⟩ := (gathered.member other).mp listed
        exact ⟨.inl there, also⟩
    · rintro ⟨there | same, also⟩
      · exact .inr ((gathered.member other).mpr ⟨there, also⟩)
      · exact .inl (Prod.ext same (also.counterpart_eq alters same))

theorem Gathered.step (gathered : Gathered diff script kind visited found) (node : Nat) :
    Gathered diff script kind (visited ++ [node])
      (gatherNode (.make diff script) kind found node) := by
  by_cases seen : ∃ other ∈ found, other.1 = node
  · rw [gatherNode_of_found seen]
    apply gathered.pass
    intro pair same alters
    obtain ⟨other, listed, alsoSame⟩ := seen
    have again := same.trans alsoSame.symm
    have counterpart := alters.counterpart_eq ((gathered.member other).mp listed).2 again
    exact Prod.ext again counterpart ▸ listed
  · by_cases changed : ∃ after, diff.Alters script kind (node, after)
    · obtain ⟨after, alters⟩ := changed
      have fresh : ∀ other ∈ found, other.1 ≠ node := fun other listed same =>
        seen ⟨other, listed, same⟩
      rw [gatherNode_of_alters alters fresh]
      exact gathered.place alters fresh
    · rw [gatherNode_of_same fun after alters => changed ⟨after, alters⟩]
      apply gathered.pass
      rintro pair rfl alters
      exact absurd ⟨_, alters⟩ changed

theorem Gathered.walk (gathered : Gathered diff script kind visited found) (nodes : List Nat) :
    Gathered diff script kind (visited ++ nodes)
      (nodes.foldl (gatherNode (.make diff script) kind) found) := by
  induction nodes generalizing visited found with
  | nil => simpa using gathered
  | cons node nodes ih =>
    rw [List.append_cons]
    exact ih (gathered.step node)

theorem Gathered.walkAll (gathered : Gathered diff script kind visited found)
    (stmts : List (Nat × Nat)) :
    Gathered diff script kind (visited ++ stmts.flatMap fun stmt => diff.before.subtree stmt.1)
      (stmts.foldl (gatherStatement (.make diff script) kind) found) := by
  induction stmts generalizing visited found with
  | nil => simpa using gathered
  | cons stmt stmts ih =>
    rw [List.flatMap_cons, ← List.append_assoc]
    exact ih (gathered.walk (diff.before.subtree stmt.1))

theorem mem_modifiedExpressions_iff :
    pair ∈ modifiedExpressions (.make diff script) set kind ↔
      diff.Alters script kind pair ∧ set.WithinModified diff pair.1 := by
  have within : insideModified (.make diff script) set pair.1 = true ↔
      set.WithinModified diff pair.1 := by
    simp only [ActionSet.withinModified_iff, insideModified, List.any_eq_true,
      Arena.isAncestorOrSelf_iff]
    rfl
  rw [mem_modifiedExpressions, within]
  constructor
  · rintro ⟨old, inside, counterpart, new, differs⟩
    exact ⟨⟨Correspondence.after?_eq_some_iff.mp counterpart, old, new, differs⟩, inside⟩
  · rintro ⟨⟨counterpart, old, new, differs⟩, inside⟩
    exact ⟨old, inside, Correspondence.after?_eq_some_iff.mpr counterpart, new, differs⟩

/-- However the modified statements nest, the walk finds what a scan of the whole tree finds. -/
theorem gather_eq (diff : Diff) (script : List EditOp) (set : ActionSet) (kind : NodeKind) :
    gather (.make diff script) set kind = modifiedExpressions (.make diff script) set kind := by
  have walked : Gathered diff script kind _ (gather (.make diff script) set kind) :=
    Gathered.nil.walkAll set.modifiedStatements
  -- Both lists increase, so that they are equal if they have the same members.
  apply walked.increasing.eq_of_mem_iff (modifiedExpressions_increasing _ set kind)
  intro pair
  have visited : pair.1 ∈ set.modifiedStatements.flatMap (fun stmt => diff.before.subtree stmt.1) ↔
      set.WithinModified diff pair.1 := by
    simp only [ActionSet.withinModified_iff, List.mem_flatMap, Arena.mem_subtree]
  rw [walked.member, mem_modifiedExpressions_iff, List.nil_append, visited, and_comm]

end Detection

end RepairMining
