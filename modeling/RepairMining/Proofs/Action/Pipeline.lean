import Mathlib.Data.List.Perm.Basic
import RepairMining.Action.Pipeline

namespace RepairMining.Pipeline

/-- Every dependency of a listed category is listed. -/
def Closed (enabled : List ActionKind) : Prop :=
  ∀ kind ∈ enabled, ∀ needed ∈ kind.dependencies, needed ∈ enabled

/-- Every category has its dependencies in front of it or among those that came earlier. -/
def Ordered (earlier order : List ActionKind) : Prop :=
  ∀ front kind back, order = front ++ kind :: back →
    ∀ needed ∈ kind.dependencies, needed ∈ front ∨ needed ∈ earlier

theorem repeated?_eq_none {earlier kinds : List ActionKind} :
    repeated? earlier kinds = none ↔ kinds.Nodup ∧ ∀ kind ∈ kinds, kind ∉ earlier := by
  induction kinds generalizing earlier with
  | nil => simp [repeated?]
  | cons head tail ih =>
    by_cases before : head ∈ earlier
    · simp [repeated?, before]
    · rw [repeated?, if_neg before, ih, List.nodup_cons]
      constructor
      · rintro ⟨distinct, fresh⟩
        refine ⟨⟨fun again => fresh head again List.mem_cons_self, distinct⟩, ?_⟩
        intro kind member
        rcases List.mem_cons.mp member with rfl | member
        · exact before
        · exact fun there => fresh kind member (List.mem_cons_of_mem _ there)
      · rintro ⟨⟨apart, distinct⟩, fresh⟩
        refine ⟨distinct, ?_⟩
        intro kind member there
        rcases List.mem_cons.mp there with rfl | there
        · exact apart member
        · exact fresh kind (List.mem_cons_of_mem _ member) there

theorem lacking?_eq_none {enabled : List ActionKind} :
    lacking? enabled = none ↔ Closed enabled := by
  simp [lacking?, Closed, List.findSome?_eq_none_iff]

theorem Ordered.tail {earlier rest : List ActionKind} {first : ActionKind}
    (ordered : Ordered earlier (first :: rest)) : Ordered (first :: earlier) rest := by
  intro front kind back split needed dependency
  rcases ordered (first :: front) kind back (by rw [split]; rfl) needed dependency
    with there | there
  · rcases List.mem_cons.mp there with rfl | there
    · exact .inr List.mem_cons_self
    · exact .inl there
  · exact .inr (List.mem_cons_of_mem _ there)

theorem misplaced?_eq_none {earlier order : List ActionKind} :
    misplaced? earlier order = none ↔ Ordered earlier order := by
  induction order generalizing earlier with
  | nil => simp [misplaced?, Ordered]
  | cons head tail ih =>
    by_cases ready : head.dependencies.all (· ∈ earlier) = true
    · rw [misplaced?, if_pos ready, ih]
      constructor
      · intro ordered front kind back split needed dependency
        cases front with
        | nil =>
          obtain ⟨rfl, rfl⟩ := List.cons.inj split
          exact .inr (of_decide_eq_true (List.all_eq_true.mp ready needed dependency))
        | cons first front =>
          obtain ⟨rfl, rest⟩ := List.cons.inj split
          rcases ordered front kind back rest needed dependency with there | there
          · exact .inl (List.mem_cons_of_mem _ there)
          · rcases List.mem_cons.mp there with rfl | there
            · exact .inl List.mem_cons_self
            · exact .inr there
      · exact Ordered.tail
    · rw [misplaced?, if_neg ready]
      constructor
      · intro impossible
        cases impossible
      · intro ordered
        refine absurd (List.all_eq_true.mpr ?_) ready
        intro needed dependency
        have there := ordered [] head tail rfl needed dependency
        simpa using there

def level (kind : ActionKind) : Nat := Vocabulary.rank kind

theorem level_lt {kind needed : ActionKind} (dependency : needed ∈ kind.dependencies) :
    level needed < level kind := by
  have listed : ∀ needed ∈ kind.dependencies, level needed < level kind := by
    cases kind <;> decide
  exact listed needed dependency

/-- Number of listed categories from a category on. It bounds every walk that starts there. -/
def ahead (enabled : List ActionKind) (kind : ActionKind) : Nat :=
  (enabled.filter fun other => level kind ≤ level other).length

theorem ahead_pos {enabled : List ActionKind} {kind : ActionKind} (listed : kind ∈ enabled) :
    0 < ahead enabled kind :=
  List.length_pos_of_mem (List.mem_filter.mpr ⟨listed, by simp⟩)

theorem ahead_le (enabled : List ActionKind) (kind : ActionKind) :
    ahead enabled kind ≤ enabled.length :=
  List.length_filter_le _ _

theorem ahead_lt {enabled : List ActionKind} {kind other : ActionKind} (listed : kind ∈ enabled)
    (later : level kind < level other) : ahead enabled other < ahead enabled kind := by
  induction enabled with
  | nil => cases listed
  | cons head tail ih =>
    have monotone : ahead tail other ≤ ahead tail kind := by
      apply List.Sublist.length_le
      apply List.monotone_filter_right
      intro middle
      simp only [decide_eq_true_eq]
      intro higher
      omega
    simp only [ahead, List.filter_cons, decide_eq_true_eq] at monotone ih ⊢
    rcases List.mem_cons.mp listed with rfl | listed
    · have excluded : ¬ level other ≤ level kind := by omega
      rw [if_neg excluded, if_pos (Nat.le_refl _), List.length_cons]
      omega
    · have shorter := ih listed
      by_cases high : level other ≤ level head
      · rw [if_pos high, if_pos (by omega), List.length_cons, List.length_cons]
        omega
      · rw [if_neg high]
        split
        · rw [List.length_cons]
          omega
        · exact shorter

theorem mem_dependents {enabled : List ActionKind} {kind other : ActionKind} :
    other ∈ dependents enabled kind ↔ other ∈ enabled ∧ kind ∈ other.dependencies := by
  simp [dependents]

/-- What holds of the categories that have been put in order: each is listed, stands there once and
has all its dependents behind it. -/
structure Settled (enabled done : List ActionKind) : Prop where
  nodup : done.Nodup
  listed : ∀ kind ∈ done, kind ∈ enabled
  followed : ∀ front kind back, done = front ++ kind :: back →
    ∀ other ∈ dependents enabled kind, other ∈ back

theorem Settled.nil (enabled : List ActionKind) : Settled enabled [] :=
  ⟨List.nodup_nil, by simp, by simp⟩

theorem Settled.cons {enabled done : List ActionKind} {kind : ActionKind}
    (settled : Settled enabled done) (listed : kind ∈ enabled) (fresh : kind ∉ done)
    (finished : ∀ other ∈ dependents enabled kind, other ∈ done) :
    Settled enabled (kind :: done) where
  nodup := List.nodup_cons.mpr ⟨fresh, settled.nodup⟩
  listed := by
    intro other member
    rcases List.mem_cons.mp member with rfl | member
    · exact listed
    · exact settled.listed other member
  followed := by
    intro front middle back split other dependent
    cases front with
    | nil =>
      obtain ⟨rfl, rfl⟩ := List.cons.inj split
      exact finished other dependent
    | cons first front =>
      obtain ⟨rfl, rest⟩ := List.cons.inj split
      exact settled.followed front middle back rest other dependent

/-- What a walk adds to the settled categories: it starts from one of `starts`, so all that is new
lies from there on, and every start is there in the end. -/
structure Extends (enabled starts done result : List ActionKind) : Prop where
  settled : Settled enabled result
  added : ∃ fresh, result = fresh ++ done ∧
    ∀ kind ∈ fresh, ∃ start ∈ starts, level start ≤ level kind
  starts_mem : ∀ start ∈ starts, start ∈ result

theorem Extends.keeps {enabled starts done result : List ActionKind}
    (grown : Extends enabled starts done result) {kind : ActionKind} (member : kind ∈ done) :
    kind ∈ result := by
  obtain ⟨fresh, rfl, _⟩ := grown.added
  exact List.mem_append_right fresh member

theorem foldl_extends {enabled : List ActionKind}
    {step : List ActionKind → ActionKind → List ActionKind} {starts : List ActionKind}
    (one : ∀ start ∈ starts, ∀ done, Settled enabled done →
      Extends enabled [start] done (step done start))
    {done : List ActionKind} (settled : Settled enabled done) :
    Extends enabled starts done (starts.foldl step done) := by
  induction starts generalizing done with
  | nil => exact ⟨settled, ⟨[], rfl, by simp⟩, by simp⟩
  | cons head tail ih =>
    have first := one head List.mem_cons_self done settled
    have rest := ih (fun start member => one start (List.mem_cons_of_mem _ member)) first.settled
    obtain ⟨early, firstSplit, earlyLevels⟩ := first.added
    obtain ⟨late, restSplit, lateLevels⟩ := rest.added
    refine ⟨rest.settled, ⟨late ++ early, ?_, ?_⟩, ?_⟩
    · rw [List.foldl_cons, restSplit, firstSplit, List.append_assoc]
    · intro kind member
      rcases List.mem_append.mp member with member | member
      · obtain ⟨start, there, higher⟩ := lateLevels kind member
        exact ⟨start, List.mem_cons_of_mem _ there, higher⟩
      · obtain ⟨start, there, higher⟩ := earlyLevels kind member
        rw [List.mem_singleton] at there
        exact ⟨head, List.mem_cons_self, there ▸ higher⟩
    · intro start member
      rcases List.mem_cons.mp member with rfl | member
      · exact rest.keeps (first.starts_mem start List.mem_cons_self)
      · exact rest.starts_mem start member

theorem visit_extends {enabled done : List ActionKind} {kind : ActionKind} {fuel : Nat}
    (listed : kind ∈ enabled) (enough : ahead enabled kind ≤ fuel)
    (settled : Settled enabled done) :
    Extends enabled [kind] done (visit enabled fuel done kind) := by
  induction fuel generalizing kind done with
  | zero =>
    have positive := ahead_pos listed
    omega
  | succ fuel ih =>
    by_cases there : kind ∈ done
    · rw [visit, if_pos there]
      refine ⟨settled, ⟨[], rfl, by simp⟩, ?_⟩
      intro start member
      rw [List.mem_singleton] at member
      exact member ▸ there
    · rw [visit, if_neg there]
      have walk : Extends enabled (dependents enabled kind) done
          ((dependents enabled kind).foldl (visit enabled fuel) done) := by
        refine foldl_extends ?_ settled
        intro other dependent done settled
        obtain ⟨otherListed, dependency⟩ := mem_dependents.mp dependent
        have shorter := ahead_lt listed (level_lt dependency)
        exact ih otherListed (by omega) settled
      obtain ⟨fresh, split, levels⟩ := walk.added
      -- All that the walk adds lies above `kind`, so it cannot have come back to `kind` itself.
      have above : ∀ other ∈ fresh, level kind < level other := by
        intro other member
        obtain ⟨start, dependent, higher⟩ := levels other member
        have lower := level_lt (mem_dependents.mp dependent).2
        omega
      have absent : kind ∉ (dependents enabled kind).foldl (visit enabled fuel) done := by
        rw [split]
        intro member
        rcases List.mem_append.mp member with member | member
        · exact Nat.lt_irrefl _ (above kind member)
        · exact there member
      refine ⟨walk.settled.cons listed absent walk.starts_mem, ⟨kind :: fresh, ?_, ?_⟩, ?_⟩
      · rw [split, List.cons_append]
      · intro other member
        refine ⟨kind, List.mem_singleton.mpr rfl, ?_⟩
        rcases List.mem_cons.mp member with rfl | member
        · exact Nat.le_refl _
        · exact Nat.le_of_lt (above other member)
      · simp

theorem order_extends (enabled : List ActionKind) :
    Extends enabled enabled [] (order enabled) :=
  foldl_extends (fun kind listed _ settled => visit_extends listed (ahead_le enabled kind) settled)
    (Settled.nil enabled)

theorem mem_order {enabled : List ActionKind} {kind : ActionKind} :
    kind ∈ order enabled ↔ kind ∈ enabled :=
  ⟨(order_extends enabled).settled.listed kind, (order_extends enabled).starts_mem kind⟩

theorem nodup_order (enabled : List ActionKind) : (order enabled).Nodup :=
  (order_extends enabled).settled.nodup

theorem order_perm {enabled : List ActionKind} (distinct : enabled.Nodup) :
    (order enabled).Perm enabled :=
  (List.perm_ext_iff_of_nodup (nodup_order enabled) distinct).mpr fun _ => mem_order

theorem order_ordered {enabled : List ActionKind} (closed : Closed enabled) :
    Ordered [] (order enabled) := by
  intro front kind back split needed dependency
  left
  have present : kind ∈ order enabled := by
    rw [split]
    simp
  have neededListed := closed kind (mem_order.mp present) needed dependency
  obtain ⟨before, after, place⟩ := List.append_of_mem (mem_order.mpr neededListed)
  have behind : kind ∈ after :=
    (order_extends enabled).settled.followed before needed after place kind
      (mem_dependents.mpr ⟨mem_order.mp present, dependency⟩)
  have once : kind ∉ back := by
    have distinct := nodup_order enabled
    rw [split] at distinct
    exact (List.nodup_cons.mp (List.nodup_append.mp distinct).2.1).1
  have apart : kind ≠ needed := by
    rintro rfl
    exact Nat.lt_irrefl _ (level_lt dependency)
  -- Were `needed` not in front of `kind`, all of `after` would lie in `back`, and `kind` with it.
  rcases List.append_eq_append_iff.mp (split.symm.trans place) with
    ⟨between, rfl, rest⟩ | ⟨between, rfl, rest⟩
  · exfalso
    cases between with
    | nil => exact apart (List.cons.inj rest).1
    | cons first between =>
      obtain ⟨rfl, rfl⟩ := List.cons.inj rest
      exact once (List.mem_append_right between (List.mem_cons_of_mem _ behind))
  · cases between with
    | nil => exact absurd (List.cons.inj rest).1.symm apart
    | cons first between =>
      obtain ⟨rfl, _⟩ := List.cons.inj rest
      simp

theorem build_of_closed {enabled : List ActionKind} (distinct : enabled.Nodup)
    (closed : Closed enabled) : build enabled = .ok (order enabled) := by
  rw [build, repeated?_eq_none.mpr ⟨distinct, by simp⟩, lacking?_eq_none.mpr closed,
    misplaced?_eq_none.mpr (order_ordered closed)]

theorem build_ok_iff {enabled result : List ActionKind} :
    build enabled = .ok result ↔ enabled.Nodup ∧ Closed enabled ∧ result = order enabled := by
  constructor
  · intro built
    unfold build at built
    split at built
    · cases built
    · rename_i unrepeated
      split at built
      · cases built
      · rename_i complete
        split at built
        · cases built
        · exact ⟨(repeated?_eq_none.mp unrepeated).1, lacking?_eq_none.mp complete,
            (Except.ok.inj built).symm⟩
  · rintro ⟨distinct, closed, rfl⟩
    exact build_of_closed distinct closed

theorem repeated?_eq_some {earlier kinds : List ActionKind} {kind : ActionKind}
    (found : repeated? earlier kinds = some kind) :
    ∃ front back, kinds = front ++ kind :: back ∧ repeated? earlier front = none ∧
      (kind ∈ front ∨ kind ∈ earlier) := by
  induction kinds generalizing earlier with
  | nil => cases found
  | cons head tail ih =>
    by_cases before : head ∈ earlier
    · rw [repeated?, if_pos before] at found
      obtain rfl := Option.some.inj found
      exact ⟨[], tail, rfl, rfl, .inr before⟩
    · rw [repeated?, if_neg before] at found
      obtain ⟨front, back, rfl, unrepeated, again⟩ := ih found
      refine ⟨head :: front, back, rfl, ?_, ?_⟩
      · rw [repeated?, if_neg before]
        exact unrepeated
      · rw [List.mem_cons] at again ⊢
        rw [or_assoc, or_left_comm]
        exact again

theorem build_of_repeated {enabled : List ActionKind} (again : ¬ enabled.Nodup) :
    ∃ front kind back, enabled = front ++ kind :: back ∧ front.Nodup ∧ kind ∈ front ∧
      build enabled = .error (.registeredTwice kind) := by
  cases found : repeated? [] enabled with
  | none => exact absurd (repeated?_eq_none.mp found).1 again
  | some kind =>
    obtain ⟨front, back, split, unrepeated, there⟩ := repeated?_eq_some found
    refine ⟨front, kind, back, split, (repeated?_eq_none.mp unrepeated).1, ?_, ?_⟩
    · simpa using there
    · rw [build, found]

theorem lacking?_eq_some {enabled : List ActionKind} {kind missing : ActionKind}
    (found : lacking? enabled = some (kind, missing)) :
    ∃ front back met rest, enabled = front ++ kind :: back ∧
      (∀ other ∈ front, ∀ needed ∈ other.dependencies, needed ∈ enabled) ∧
      kind.dependencies = met ++ missing :: rest ∧ (∀ needed ∈ met, needed ∈ enabled) ∧
      missing ∉ enabled := by
  obtain ⟨front, other, back, split, first, complete⟩ := List.findSome?_eq_some_iff.mp found
  obtain ⟨needed, lacks, same⟩ := Option.map_eq_some_iff.mp first
  obtain ⟨rfl, rfl⟩ := Prod.mk.inj same
  obtain ⟨absent, met, rest, listed, present⟩ := List.find?_eq_some_iff_append.mp lacks
  refine ⟨front, back, met, rest, split, ?_, listed, ?_, of_decide_eq_true absent⟩
  · intro other member needed dependency
    have none := List.find?_eq_none.mp (Option.map_eq_none_iff.mp (complete other member))
    simpa using none needed dependency
  · intro needed member
    simpa using present needed member

theorem build_of_lacking {enabled : List ActionKind} (distinct : enabled.Nodup)
    (incomplete : ¬ Closed enabled) :
    ∃ front kind back met missing rest, enabled = front ++ kind :: back ∧
      (∀ other ∈ front, ∀ needed ∈ other.dependencies, needed ∈ enabled) ∧
      kind.dependencies = met ++ missing :: rest ∧ (∀ needed ∈ met, needed ∈ enabled) ∧
      missing ∉ enabled ∧ build enabled = .error (.dependencyMissing kind missing) := by
  cases found : lacking? enabled with
  | none => exact absurd (lacking?_eq_none.mp found) incomplete
  | some pair =>
    obtain ⟨kind, missing⟩ := pair
    obtain ⟨front, back, met, rest, split, complete, listed, present, absent⟩ :=
      lacking?_eq_some found
    refine ⟨front, kind, back, met, missing, rest, split, complete, listed, present, absent, ?_⟩
    rw [build, repeated?_eq_none.mpr ⟨distinct, by simp⟩, found]

theorem build_ne_cycle (enabled : List ActionKind) (kind : ActionKind) :
    build enabled ≠ .error (.cycle kind) := by
  intro refused
  by_cases distinct : enabled.Nodup
  · by_cases closed : Closed enabled
    · rw [build_of_closed distinct closed] at refused
      cases refused
    · obtain ⟨_, _, _, _, _, _, _, _, _, _, _, otherwise⟩ := build_of_lacking distinct closed
      rw [otherwise] at refused
      cases refused
  · obtain ⟨_, _, _, _, _, _, otherwise⟩ := build_of_repeated distinct
    rw [otherwise] at refused
    cases refused

end RepairMining.Pipeline
