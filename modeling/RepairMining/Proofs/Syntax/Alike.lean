import RepairMining.Digest.Structural
import RepairMining.Proofs.Syntax.Arena

namespace RepairMining

/-- An entry without what neither digests nor detectors look at. -/
def Entry.bare (entry : Entry) : Entry :=
  { entry with
    attributes := { entry.attributes with
      span := none
      role := if entry.parent.isSome then entry.attributes.role else none } }

theorem Entry.parent_bare (entry : Entry) : entry.bare.parent = entry.parent := rfl

theorem Entry.children_bare (entry : Entry) : entry.bare.children = entry.children := rfl

namespace Arena

/-- Node by node the trees are the same, up to positions and the role of the root. -/
def Alike (first second : Arena) : Prop :=
  first.entries.toList.map Entry.bare = second.entries.toList.map Entry.bare

namespace Alike

variable {first second : Arena}

theorem refl (arena : Arena) : arena.Alike arena := rfl

theorem symm (alike : first.Alike second) : second.Alike first := Eq.symm alike

theorem size (alike : first.Alike second) : first.size = second.size := by
  have lengths := congrArg List.length alike
  rwa [List.length_map, List.length_map, Array.length_toList, Array.length_toList] at lengths

theorem entry? (alike : first.Alike second) (node : Nat) :
    (first.entry? node).map Entry.bare = (second.entry? node).map Entry.bare := by
  rw [entry?_eq_getElem?, entry?_eq_getElem?, ← List.getElem?_map, ← List.getElem?_map, alike]

theorem observe {β : Type} (alike : first.Alike second) (see : Option Entry → β)
    (blind : ∀ entry, see (some entry.bare) = see (some entry)) (node : Nat) :
    see (first.entry? node) = see (second.entry? node) := by
  have unchanged (place : Option Entry) : see (place.map Entry.bare) = see place := by
    cases place with
    | none => rfl
    | some entry => exact blind entry
  rw [← unchanged, alike.entry? node, unchanged]

theorem contains (alike : first.Alike second) : first.contains = second.contains := by
  funext node
  rw [Arena.contains, Arena.contains, alike.size]

theorem nodes (alike : first.Alike second) : first.nodes = second.nodes := by
  rw [Arena.nodes, Arena.nodes, alike.size]

theorem kind? (alike : first.Alike second) : first.kind? = second.kind? := by
  funext node
  exact alike.observe (Option.map (·.attributes.kind)) (fun _ => rfl) node

theorem parent? (alike : first.Alike second) : first.parent? = second.parent? := by
  funext node
  exact alike.observe (fun place => place.bind (·.parent)) (fun _ => rfl) node

theorem children (alike : first.Alike second) : first.children = second.children := by
  funext node
  exact alike.observe (fun place => (place.map (·.children)).getD []) (fun _ => rfl) node

theorem isAncestorOrSelf (alike : first.Alike second) :
    first.isAncestorOrSelf = second.isAncestorOrSelf := by
  funext ancestor node
  have within {arena : Arena} : arena.isAncestorOrSelf ancestor node =
      (arena.entry? ancestor).elim false fun entry => ancestor ≤ node && node < entry.stop := by
    rw [Arena.isAncestorOrSelf]
    cases arena.entry? ancestor <;> rfl
  rw [within, within]
  apply alike.observe fun place =>
    place.elim false fun entry => ancestor ≤ node && node < entry.stop
  intro entry
  rfl

theorem hasKind (alike : first.Alike second) : first.hasKind = second.hasKind := by
  funext node kind
  rw [Arena.hasKind, Arena.hasKind, alike.kind?]

theorem isStatement (alike : first.Alike second) : first.isStatement = second.isStatement := by
  funext node
  rw [Arena.isStatement, Arena.isStatement, alike.kind?]

theorem isLoop (alike : first.Alike second) : first.isLoop = second.isLoop := by
  funext node
  rw [Arena.isLoop, Arena.isLoop, alike.kind?]

theorem statements (alike : first.Alike second) : first.statements = second.statements := by
  rw [Arena.statements, Arena.statements, alike.nodes, alike.isStatement]

theorem role? (alike : first.Alike second) {node parent : Nat}
    (known : first.parent? node = some parent) : first.role? node = second.role? node := by
  have attached {arena : Arena} (known : arena.parent? node = some parent) :
      arena.role? node = (arena.entry? node).bind fun entry =>
        if entry.parent.isSome then entry.attributes.role else none := by
    obtain ⟨entry, present, above⟩ := Option.bind_eq_some_iff.mp known
    rw [Arena.role?, present, Option.bind_some, Option.bind_some, above]
    rfl
  rw [attached known, attached (alike.parent? ▸ known)]
  refine alike.observe (fun place => place.bind fun entry =>
    if entry.parent.isSome then entry.attributes.role else none) ?_ node
  intro entry
  cases above : entry.parent <;> simp [Entry.bare, above]

theorem part? (alike : first.Alike second) : first.part? = second.part? := by
  funext node role
  rw [Arena.part?, Arena.part?, ← alike.children, ← List.head?_filter, ← List.head?_filter]
  congr 1
  apply List.filter_congr
  intro child member
  rw [alike.role? (parent?_child member)]

theorem condition? (alike : first.Alike second) : first.condition? = second.condition? := by
  funext node
  rw [Arena.condition?, Arena.condition?, alike.part?]

theorem thenBranch? (alike : first.Alike second) : first.thenBranch? = second.thenBranch? := by
  funext node
  rw [Arena.thenBranch?, Arena.thenBranch?, alike.part?]

theorem elseBranch? (alike : first.Alike second) : first.elseBranch? = second.elseBranch? := by
  funext node
  rw [Arena.elseBranch?, Arena.elseBranch?, alike.part?]

theorem callTarget? (alike : first.Alike second) : first.callTarget? = second.callTarget? := by
  funext node
  rw [Arena.callTarget?, Arena.callTarget?, alike.part?]

theorem callArguments (alike : first.Alike second) :
    first.callArguments = second.callArguments := by
  funext node
  rw [Arena.callArguments, Arena.callArguments, alike.part?, alike.children]

theorem unwrapBlock (alike : first.Alike second) : first.unwrapBlock = second.unwrapBlock := by
  funext node
  rw [Arena.unwrapBlock, Arena.unwrapBlock, alike.children, alike.hasKind]

theorem climb (alike : first.Alike second) : first.climb = second.climb := by
  funext steps
  induction steps with
  | zero => rfl
  | succ steps ih =>
    funext node
    have chain {arena : Arena} : arena.climb (steps + 1) node =
        (arena.entry? node).elim [] fun entry =>
          node :: entry.parent.elim [] (arena.climb steps) := by
      rw [Arena.climb]
      cases arena.entry? node with
      | none => rfl
      | some entry => cases above : entry.parent <;> simp [above]
    rw [chain, chain, ih]
    apply alike.observe fun place =>
      place.elim [] fun entry => node :: entry.parent.elim [] (second.climb steps)
    intro entry
    rfl

theorem nearest? (alike : first.Alike second) : first.nearest? = second.nearest? := by
  funext node test
  rw [Arena.nearest?, Arena.nearest?, chain, chain, alike.climb]

theorem enclosingStatement? (alike : first.Alike second) :
    first.enclosingStatement? = second.enclosingStatement? := by
  funext node
  rw [Arena.enclosingStatement?, Arena.enclosingStatement?, alike.nearest?, alike.isStatement]

theorem enclosingStatementWhere? (alike : first.Alike second) :
    first.enclosingStatementWhere? = second.enclosingStatementWhere? := by
  funext node mapped
  rw [Arena.enclosingStatementWhere?, Arena.enclosingStatementWhere?, alike.nearest?,
    alike.isStatement]

end Alike

def hashStep (mode : HashMode) (count : Nat) (entry : Entry)
    (values : Array (Option Role × Digest)) : Array (Option Role × Digest) :=
  values.push (entry.attributes.role, nodeDigest mode entry.attributes
    (entry.children.filterMap fun child => values[count - 1 - child]?))

theorem nodeDigest_bare (mode : HashMode) (entry : Entry) (children : List (Option Role × Digest)) :
    nodeDigest mode entry.bare.attributes children = nodeDigest mode entry.attributes children :=
  rfl

theorem nodeDigest_congr {mode : HashMode} {first second : Entry} (same : first.bare = second.bare)
    (children : List (Option Role × Digest)) :
    nodeDigest mode first.attributes children = nodeDigest mode second.attributes children := by
  rw [← nodeDigest_bare, same, nodeDigest_bare]

theorem hashStep_congr {mode : HashMode} {count : Nat} {first second : Entry}
    (same : first.bare = second.bare) (attached : first.parent.isSome = true)
    (values : Array (Option Role × Digest)) :
    hashStep mode count first values = hashStep mode count second values := by
  have above : first.parent = second.parent := by
    rw [← Entry.parent_bare, same, Entry.parent_bare]
  have roles : first.attributes.role = second.attributes.role := by
    have kept := congrArg (fun entry : Entry => entry.attributes.role) same
    simpa only [Entry.bare, ← above, attached, if_true] using kept
  have below : first.children = second.children := by
    rw [← Entry.children_bare, same, Entry.children_bare]
  rw [hashStep, hashStep, roles, below, nodeDigest_congr same]

theorem foldr_hashStep_congr {mode : HashMode} {count : Nat} {first second : List Entry}
    (same : first.map Entry.bare = second.map Entry.bare)
    (attached : ∀ entry ∈ first, entry.parent.isSome = true) :
    first.foldr (hashStep mode count) #[] = second.foldr (hashStep mode count) #[] := by
  induction first generalizing second with
  | nil =>
    cases second with
    | nil => rfl
    | cons entry second => cases same
  | cons entry first ih =>
    cases second with
    | nil => cases same
    | cons other second =>
      rw [List.map_cons, List.map_cons, List.cons.injEq] at same
      rw [List.foldr_cons, List.foldr_cons,
        ih same.2 fun later member => attached later (List.mem_cons_of_mem entry member),
        hashStep_congr same.1 (attached entry List.mem_cons_self)]

theorem digests_compute (mode : HashMode) (arena : Arena) :
    (NodeHashes.compute mode arena).digests =
      ((arena.entries.toList.foldr (hashStep mode arena.size) #[]).map (·.2)).reverse := by
  rw [NodeHashes.compute, Arena.sweep, ← Array.foldr_toList]
  rfl

theorem attached_of_mem_tail {arena : Arena} {root entry : Entry} {rest : List Entry}
    (laidOut : arena.entries.toList = root :: rest) (member : entry ∈ rest) :
    entry.parent.isSome = true := by
  obtain ⟨place, inside, rfl⟩ := List.mem_iff_getElem.mp member
  have present : arena.entry? (place + 1) = some rest[place] := by
    rw [entry?_eq_getElem?, laidOut, List.getElem?_cons_succ, List.getElem?_eq_getElem inside]
  obtain ⟨parent, known⟩ := exists_parent present (Nat.succ_pos place)
  rw [known]
  rfl

theorem Alike.compute {first second : Arena} (alike : first.Alike second) (mode : HashMode) :
    NodeHashes.compute mode first = NodeHashes.compute mode second := by
  have digests : (NodeHashes.compute mode first).digests =
      (NodeHashes.compute mode second).digests := by
    rw [digests_compute, digests_compute, alike.size]
    have same := alike
    rw [Arena.Alike] at same
    cases laidOut : first.entries.toList with
    | nil =>
      rw [laidOut, List.map_nil, eq_comm, List.map_eq_nil_iff] at same
      rw [same]
    | cons root rest =>
      cases alsoLaidOut : second.entries.toList with
      | nil =>
        rw [laidOut, alsoLaidOut] at same
        cases same
      | cons other others =>
        rw [laidOut, alsoLaidOut, List.map_cons, List.map_cons, List.cons.injEq] at same
        have below : root.children = other.children := by
          rw [← Entry.children_bare, same.1, Entry.children_bare]
        rw [List.foldr_cons, List.foldr_cons,
          foldr_hashStep_congr same.2 fun entry member => attached_of_mem_tail laidOut member,
          hashStep, hashStep, Array.map_push, Array.map_push, below, nodeDigest_congr same.1]
  exact congrArg (NodeHashes.mk mode) digests

theorem size_digests (mode : HashMode) (arena : Arena) :
    (NodeHashes.compute mode arena).digests.size = arena.size := by
  have counted (entries : List Entry) (count : Nat) :
      (entries.foldr (hashStep mode count) #[]).size = entries.length := by
    induction entries with
    | nil => rfl
    | cons entry entries ih => rw [List.foldr_cons, hashStep, Array.size_push, ih, List.length_cons]
  rw [digests_compute, Array.size_reverse, Array.size_map, counted, Array.length_toList, Arena.size]

theorem exists_digest {arena : Arena} {node : Nat} (inside : arena.contains node = true)
    (mode : HashMode) : ∃ digest, (NodeHashes.compute mode arena).get? node = some digest := by
  refine ⟨_, Array.getElem?_eq_getElem ?_⟩
  rw [size_digests]
  exact contains_iff.mp inside

end Arena

end RepairMining
