import RepairMining.Proofs.Detection.Extras
import RepairMining.Proofs.Digest.Structural
import RepairMining.Proofs.Mining.Calls

namespace RepairMining

def Side.opposite : Side → Side
  | before => after
  | after => before

namespace Diff

def arguments (diff : Diff) (pair : Nat × Nat) : Side → List Nat
  | .before => diff.before.callArguments pair.1
  | .after => diff.after.callArguments pair.2

def equivalentWithout (diff : Diff) (script : List EditOp) (pair : Nat × Nat) (place : Nat) :
    Side → Bool
  | .before => (Context.make diff script).equivalentLists
      ((diff.arguments pair .before).eraseIdx place) (diff.arguments pair .after)
  | .after => (Context.make diff script).equivalentLists
      (diff.arguments pair .before) ((diff.arguments pair .after).eraseIdx place)

/-- A place at which the extra argument of this side can be. -/
structure ExtraAt (diff : Diff) (script : List EditOp) (pair : Nat × Nat) (side : Side)
    (place : Nat) : Prop where
  within : place < (diff.arguments pair side).length
  rest : diff.equivalentWithout script pair place side = true

/-- There is one argument more on this side, and only this one can be it. -/
structure OnlyExtra (diff : Diff) (script : List EditOp) (pair : Nat × Nat) (side : Side)
    (argument : Nat) : Prop where
  length : (diff.arguments pair side).length = (diff.arguments pair side.opposite).length + 1
  unique : ∃ place, (∀ other, diff.ExtraAt script pair side other ↔ other = place) ∧
    (diff.arguments pair side)[place]? = some argument

structure OnlyDifference (diff : Diff) (script : List EditOp) (pair : Nat × Nat) (old new : Nat) :
    Prop where
  length : (diff.arguments pair .before).length = (diff.arguments pair .after).length
  unique : ∃ place, (∀ other, Detection.Differs (Detection.agree (.make diff script))
      (diff.arguments pair .before) (diff.arguments pair .after) other ↔ other = place) ∧
    (diff.arguments pair .before)[place]? = some old ∧
    (diff.arguments pair .after)[place]? = some new

def FitsEdit (diff : Diff) (pair : Nat × Nat) : ArgumentEdit → Prop
  | .extra side =>
    (diff.arguments pair side).length = (diff.arguments pair side.opposite).length + 1
  | .replacement => (diff.arguments pair .before).length = (diff.arguments pair .after).length

theorem FitsEdit.unique {diff : Diff} {pair : Nat × Nat} {edit other : ArgumentEdit}
    (fits : diff.FitsEdit pair edit) (also : diff.FitsEdit pair other) : edit = other := by
  rcases edit with (_ | _) | _ <;> rcases other with (_ | _) | _ <;>
    simp only [FitsEdit, Side.opposite] at fits also <;> first | rfl | omega

def structure? (diff : Diff) (side : Side) (node : Nat) : Option Digest :=
  (NodeHashes.compute .concrete (diff.tree side)).get? node

def SameAt (diff : Diff) (pair : Nat × Nat) (side : Side) (first second : Nat) : Prop :=
  ∃ one other, (diff.arguments pair side)[first]? = some one ∧
    (diff.arguments pair side)[second]? = some other ∧
    diff.structure? side one = diff.structure? side other

variable {diff : Diff} {script : List EditOp} {pair : Nat × Nat} {side : Side}
  {place next argument old new : Nat}

def argumentStructures (diff : Diff) (pair : Nat × Nat) (side : Side) : List (Option Digest) :=
  (diff.arguments pair side).map (diff.structure? side)

theorem contains_of_mem_arguments (member : argument ∈ diff.arguments pair side) :
    (diff.tree side).contains argument = true := by
  cases side <;> exact Arena.contains_argument member

theorem equivalentLists_iff {befores afters : List Nat}
    (inside : ∀ node ∈ befores, diff.before.contains node = true)
    (alsoInside : ∀ node ∈ afters, diff.after.contains node = true) :
    (Context.make diff script).equivalentLists befores afters = true ↔
      befores.map (diff.structure? .before) = afters.map (diff.structure? .after) := by
  induction befores generalizing afters with
  | nil => cases afters <;> simp [Context.equivalentLists]
  | cons before befores ih =>
    cases afters with
    | nil => simp [Context.equivalentLists]
    | cons after afters =>
      obtain ⟨here, rest⟩ := List.forall_mem_cons.mp inside
      obtain ⟨alsoHere, alsoRest⟩ := List.forall_mem_cons.mp alsoInside
      rw [Context.equivalentLists, Bool.and_eq_true, Context.equivalent_iff here alsoHere,
        ih rest alsoRest, List.map_cons, List.map_cons, List.cons.injEq]
      rfl

theorem reargues_of_length (target : Detection.sameTarget (.make diff script) pair = true)
    (lengths : (diff.arguments pair .before).length ≠ (diff.arguments pair .after).length) :
    diff.Reargues script pair := by
  refine ⟨target, Bool.eq_false_of_not_eq_true fun same => lengths ?_⟩
  have inside : ∀ node ∈ diff.arguments pair .before, diff.before.contains node = true :=
    fun _ => Arena.contains_argument
  have alsoInside : ∀ node ∈ diff.arguments pair .after, diff.after.contains node = true :=
    fun _ => Arena.contains_argument
  simpa using congrArg List.length ((equivalentLists_iff inside alsoInside).mp same)

theorem equivalentWithout_iff : diff.equivalentWithout script pair place side = true ↔
    (diff.argumentStructures pair side).eraseIdx place =
      diff.argumentStructures pair side.opposite := by
  have inside (side : Side) :
      ∀ node ∈ diff.arguments pair side, (diff.tree side).contains node = true :=
    fun _ => contains_of_mem_arguments
  have without (side : Side) :
      ∀ node ∈ (diff.arguments pair side).eraseIdx place, (diff.tree side).contains node = true :=
    fun node listed => inside side node (List.mem_of_mem_eraseIdx listed)
  rw [argumentStructures, List.eraseIdx_map]
  cases side with
  | before => exact equivalentLists_iff (without .before) (inside .after)
  | after => exact (equivalentLists_iff (inside .before) (without .after)).trans eq_comm

theorem extraAt_iff : diff.ExtraAt script pair side place ↔
    Detection.Extra (diff.argumentStructures pair side)
      (diff.argumentStructures pair side.opposite) place := by
  have length : (diff.argumentStructures pair side).length = (diff.arguments pair side).length :=
    List.length_map _
  constructor
  · intro extra
    exact ⟨length ▸ extra.within, equivalentWithout_iff.mp extra.rest⟩
  · intro extra
    exact ⟨length ▸ extra.within, equivalentWithout_iff.mpr extra.rest⟩

theorem structure?_of_leaves {other : Side} {node leaf : Nat}
    (inside : (diff.tree side).contains node = true)
    (alsoInside : (diff.tree other).contains leaf = true)
    (kinds : (diff.tree side).kind? node = (diff.tree other).kind? leaf)
    (labels : (diff.tree side).label? node = (diff.tree other).label? leaf)
    (bare : (diff.tree side).children node = []) (alsoBare : (diff.tree other).children leaf = []) :
    diff.structure? side node = diff.structure? other leaf := by
  apply NodeHashes.get?_congr inside alsoInside kinds labels
  rw [NodeHashes.below, NodeHashes.below, bare, alsoBare]
  rfl

theorem sameAt_iff (within : place < (diff.arguments pair side).length) :
    diff.SameAt pair side place next ↔ next < (diff.argumentStructures pair side).length ∧
      (diff.argumentStructures pair side)[place]? =
        (diff.argumentStructures pair side)[next]? := by
  have there := List.getElem?_eq_getElem within
  rw [argumentStructures, List.length_map, List.getElem?_map, List.getElem?_map, there]
  constructor
  · rintro ⟨one, other, same, alsoThere, alike⟩
    obtain rfl := Option.some.inj (there.symm.trans same)
    refine ⟨(List.getElem?_eq_some_iff.mp alsoThere).1, ?_⟩
    rw [alsoThere, Option.map_some, Option.map_some, alike]
  · rintro ⟨nextWithin, alike⟩
    have alsoThere := List.getElem?_eq_getElem nextWithin
    rw [alsoThere] at alike
    exact ⟨_, _, there, alsoThere, Option.some.inj alike⟩

namespace ExtraAt

variable {first last : Nat}

theorem length_eq (extra : diff.ExtraAt script pair side place) :
    (diff.arguments pair side).length = (diff.arguments pair side.opposite).length + 1 := by
  simpa [argumentStructures] using (extraAt_iff.mp extra).length_eq

theorem between (extra : diff.ExtraAt script pair side first)
    (also : diff.ExtraAt script pair side last) (above : first ≤ place) (below : place ≤ last) :
    diff.ExtraAt script pair side place ∧ diff.SameAt pair side first place := by
  have structures := extraAt_iff.mp extra
  have near := structures.between (extraAt_iff.mp also) above below
  exact ⟨extraAt_iff.mpr near,
    (sameAt_iff extra.within).mpr ⟨near.within, structures.same near⟩⟩

theorem exists_other_iff (extra : diff.ExtraAt script pair side place) :
    (∃ other, diff.ExtraAt script pair side other ∧ other ≠ place) ↔
      ∃ next, (next + 1 = place ∨ next = place + 1) ∧ diff.SameAt pair side place next := by
  simp only [extraAt_iff, sameAt_iff extra.within]
  exact (extraAt_iff.mp extra).exists_other_iff

theorem not_onlyExtra_iff (extra : diff.ExtraAt script pair side place) :
    (∀ argument, ¬ diff.OnlyExtra script pair side argument) ↔
      ∃ next, (next + 1 = place ∨ next = place + 1) ∧ diff.SameAt pair side place next := by
  rw [← extra.exists_other_iff]
  constructor
  · intro untold
    by_contra alone
    have unique (other : Nat) : diff.ExtraAt script pair side other ↔ other = place := by
      constructor
      · intro also
        by_contra differs
        exact alone ⟨other, also, differs⟩
      · rintro rfl
        exact extra
    exact untold _ ⟨extra.length_eq, place, unique, List.getElem?_eq_getElem extra.within⟩
  · rintro ⟨other, also, differs⟩ argument ⟨_, only, unique, _⟩
    apply differs
    calc
      other = only := (unique other).mp also
      _ = place := ((unique place).mp extra).symm

end ExtraAt

end Diff

namespace Detection

variable {diff : Diff} {script : List EditOp} {set : ActionSet} {pair : Nat × Nat} {side : Side}
  {edit : ArgumentEdit} {action : RepairAction} {argument old new : Nat}

theorem agree_iff {before after : Nat} (old : before ∈ diff.arguments pair .before)
    (new : after ∈ diff.arguments pair .after) : agree (.make diff script) before after = true ↔
      diff.structure? .before before = diff.structure? .after after :=
  Context.equivalent_iff (Diff.contains_of_mem_arguments old) (Diff.contains_of_mem_arguments new)

theorem onlyExtra?_iff : side.onlyExtra? (.make diff script) pair = some argument ↔
    diff.OnlyExtra script pair side argument := by
  have found : side.onlyExtra? (.make diff script) pair = some argument ↔
      ∃ place, (∀ other, diff.ExtraAt script pair side other ↔ other = place) ∧
        (diff.arguments pair side)[place]? = some argument := by
    simp only [Diff.extraAt_iff]
    cases side with
    | before => exact onlyExtra?_eq_some_iff fun _ old _ new => agree_iff old new
    | after => exact onlyExtra?_eq_some_iff fun _ new _ old => (agree_iff old new).trans eq_comm
  rw [found]
  constructor
  · rintro ⟨place, unique, there⟩
    exact ⟨((unique place).mpr rfl).length_eq, place, unique, there⟩
  · rintro ⟨_, unique⟩
    exact unique

theorem scan_extra_iff :
    (ArgumentEdit.extra side).scan (.make diff script) pair =
        some (side.reportExtra pair argument) ↔ diff.OnlyExtra script pair side argument := by
  rw [← onlyExtra?_iff, ArgumentEdit.scan, Option.map_eq_some_iff]
  constructor
  · rintro ⟨other, found, same⟩
    cases side <;> cases same <;> exact found
  · intro found
    exact ⟨argument, found, rfl⟩

theorem scan_replacement_iff :
    ArgumentEdit.replacement.scan (.make diff script) pair = some (.replaceCallArg old new) ↔
      diff.OnlyDifference script pair old new := by
  rw [ArgumentEdit.scan, Option.map_eq_some_iff]
  constructor
  · rintro ⟨other, found, same⟩
    cases same
    obtain ⟨length, unique⟩ := onlyDifference?_eq_some_iff.mp found
    exact ⟨length, unique⟩
  · rintro ⟨length, unique⟩
    exact ⟨(old, new), onlyDifference?_eq_some_iff.mpr ⟨length, unique⟩, rfl⟩

theorem fits_of_scan (told : edit.scan (.make diff script) pair = some action) :
    diff.FitsEdit pair edit := by
  cases edit with
  | extra side =>
    obtain ⟨argument, extra, rfl⟩ := Option.map_eq_some_iff.mp told
    exact (onlyExtra?_iff.mp extra).length
  | replacement =>
    obtain ⟨arguments, difference, rfl⟩ := Option.map_eq_some_iff.mp told
    exact (onlyDifference?_eq_some_iff.mp difference).1

theorem scan_unique {other : ArgumentEdit} {also : RepairAction}
    (told : edit.scan (.make diff script) pair = some action)
    (alsoTold : other.scan (.make diff script) pair = some also) : action = also := by
  obtain rfl := (fits_of_scan told).unique (fits_of_scan alsoTold)
  exact Option.some.inj (told.symm.trans alsoTold)

end Detection

namespace ActionSet

variable {diff : Diff} {script : List EditOp} {set : ActionSet} {pair : Nat × Nat}
  {edit : ArgumentEdit} {action : RepairAction}

theorem Genuine.scan_of_mem (genuine : set.Genuine (.make diff script))
    (listed : pair ∈ set.rearguedCalls) (reported : action ∈ set.actions edit.category)
    (meets : ∀ other, diff.AboutCall action other → other.1 = pair.1 ∨ other.2 = pair.2) :
    edit.scan (.make diff script) pair = some action := by
  -- The call that it was made from shares a node with this call.
  obtain ⟨other, alsoListed, told⟩ := Detection.exists_reargued (genuine.mem_finds reported)
  have same := genuine.altered_unique .call (genuine.reargues_of_mem listed).1
    (genuine.reargues_of_mem alsoListed).1 (meets other (Detection.about_of_scan told))
  exact same ▸ told

end ActionSet

namespace Miner

variable {σ : Type} {kinds : List ActionKind} {diff : Diff} {script : List EditOp}
  {set : ActionSet} {pair : Nat × Nat} {side : Side}

theorem Finds.mem_argumentEdit_iff (finds : Finds diff script kinds set) {edit : ArgumentEdit}
    {action : RepairAction} (listed : edit.category ∈ kinds) (reargued : pair ∈ set.rearguedCalls)
    (meets : ∀ other, diff.AboutCall action other → other.1 = pair.1 ∨ other.2 = pair.2) :
    action ∈ set.actions edit.category ↔ edit.scan (.make diff script) pair = some action := by
  constructor
  · intro reported
    exact finds.1.scan_of_mem reargued reported meets
  · intro told
    rw [ActionSet.actions, finds.get?_eq listed, Option.getD_some, Detection.finds_argumentEdit]
    exact List.mem_filterMap.mpr ⟨pair, reargued, told⟩

theorem Finds.mem_extra_iff (finds : Finds diff script kinds set) {argument : Nat}
    (listed : (ArgumentEdit.extra side).category ∈ kinds) (reargued : pair ∈ set.rearguedCalls) :
    side.reportExtra pair argument ∈ set.actions (ArgumentEdit.extra side).category ↔
      diff.OnlyExtra script pair side argument := by
  rw [← Detection.scan_extra_iff]
  apply finds.mem_argumentEdit_iff listed reargued
  intro other about
  cases side with
  | before =>
    cases about with
    | removal => exact .inl rfl
  | after =>
    cases about with
    | insertion => exact .inr rfl

theorem Finds.mem_replaceCallArg_iff (finds : Finds diff script kinds set) {old new : Nat}
    (listed : .replaceCallArg ∈ kinds) (reargued : pair ∈ set.rearguedCalls)
    (here : old ∈ diff.arguments pair .before ∨ new ∈ diff.arguments pair .after) :
    .replaceCallArg old new ∈ set.actions .replaceCallArg ↔
      diff.OnlyDifference script pair old new := by
  rw [← Detection.scan_replacement_iff]
  have replaces : ArgumentEdit.replacement.category ∈ kinds := listed
  apply finds.mem_argumentEdit_iff replaces reargued
  intro other about
  cases about with
  | replacement was is =>
    rcases here with own | own
    · exact .inl (Arena.call_unique was own)
    · exact .inr (Arena.call_unique is own)

/-- A change of one argument is reported exactly if it can be told which one. Of a call with other
arguments an extra argument, which was inserted or removed, is reported if there is one argument
more on that side and only this one can be left out, and the replacement of an argument if there are
as many arguments as before and only these two differ. At most one of these actions is about a call.
The places at which the extra argument can be lie next to each other, with equivalent arguments, so
that it goes unreported exactly if it is equivalent to a neighbour. -/
theorem mine_arguments {registry : Registry} (accepted : Registry.ofKinds kinds = .ok registry)
    (storage : Storage (StateM σ)) (diff : Diff) (state : σ) :
    ∃ outcome, ((Miner.mk registry none).mine storage diff).run state = (.ok outcome, state) ∧
      outcome.isAnalyzed = diff.edits.isSome ∧
      ∀ set, outcome.actions? = some set →
        ∃ script, diff.edits = some script ∧
          ∀ pair ∈ set.rearguedCalls,
            (∀ side : Side, (ArgumentEdit.extra side).category ∈ kinds →
              (∀ argument,
                side.reportExtra pair argument ∈ set.actions (ArgumentEdit.extra side).category ↔
                  diff.OnlyExtra script pair side argument) ∧
              ∀ place, diff.ExtraAt script pair side place →
                ((∀ argument, side.reportExtra pair argument ∉
                    set.actions (ArgumentEdit.extra side).category) ↔
                  ∃ next, (next + 1 = place ∨ next = place + 1) ∧
                    diff.SameAt pair side place next)) ∧
            (∀ side first last, diff.ExtraAt script pair side first →
              diff.ExtraAt script pair side last → ∀ place, first ≤ place → place ≤ last →
                diff.ExtraAt script pair side place ∧ diff.SameAt pair side first place) ∧
            (.replaceCallArg ∈ kinds → ∀ old new,
              old ∈ diff.arguments pair .before ∨ new ∈ diff.arguments pair .after →
                (.replaceCallArg old new ∈ set.actions .replaceCallArg ↔
                  diff.OnlyDifference script pair old new)) ∧
            ∀ (edit other : ArgumentEdit) (action also : RepairAction),
              action ∈ set.actions edit.category → also ∈ set.actions other.category →
                diff.AboutCall action pair → diff.AboutCall also pair → action = also := by
  obtain ⟨outcome, mined, analyzed, found⟩ := mine_accepted accepted storage diff state
  refine ⟨outcome, mined, analyzed, ?_⟩
  intro set there
  obtain ⟨script, scripted, finds, _⟩ := found set there
  refine ⟨script, scripted, ?_⟩
  intro pair reargued
  refine ⟨?_, ?_, ?_, ?_⟩
  · intro side listed
    have reported (argument : Nat) :
        side.reportExtra pair argument ∈ set.actions (ArgumentEdit.extra side).category ↔
          diff.OnlyExtra script pair side argument := finds.mem_extra_iff listed reargued
    refine ⟨reported, ?_⟩
    intro place extra
    simp only [reported]
    exact extra.not_onlyExtra_iff
  · intro side first last extra also place above below
    exact extra.between also above below
  · intro listed old new here
    exact finds.mem_replaceCallArg_iff listed reargued here
  · intro edit other action also member alsoMember about alsoAbout
    have told := finds.1.scan_of_mem reargued member fun _ far => far.meet about
    have alsoTold := finds.1.scan_of_mem reargued alsoMember fun _ far => far.meet alsoAbout
    exact Detection.scan_unique told alsoTold

end Miner

/-- A call with one argument gets the same argument again, and a call without arguments gets its
first one. -/
def Diff.moreArguments : Diff where
  id := ⟨"r", "f", "a.c"⟩
  before := .ofTree (.node ⟨.translationUnit, none, none, none⟩
    [.node ⟨.exprStatement, none, none, none⟩
      [.node ⟨.functionCall, none, none, none⟩
        [.node ⟨.exprList, none, some .args, none⟩
          [.node ⟨.identity, some "x", none, none⟩ []]]],
      .node ⟨.exprStatement, none, none, none⟩ [.node ⟨.functionCall, none, none, none⟩ []]])
  after := .ofTree (.node ⟨.translationUnit, none, none, none⟩
    [.node ⟨.exprStatement, none, none, none⟩
      [.node ⟨.functionCall, none, none, none⟩
        [.node ⟨.exprList, none, some .args, none⟩
          [.node ⟨.identity, some "x", none, none⟩ [],
            .node ⟨.identity, some "x", none, none⟩ []]]],
      .node ⟨.exprStatement, none, none, none⟩
        [.node ⟨.functionCall, none, none, none⟩
          [.node ⟨.exprList, none, some .args, none⟩
            [.node ⟨.identity, some "x", none, none⟩ []]]]])
  correspondence := ⟨[(0, 0), (1, 1), (2, 2), (3, 3), (4, 4), (5, 6), (6, 7)], by decide,
    by decide⟩
  edits := some [.insert 5, .insert 8, .insert 9]
  fixFiles := ["a.c"]
  in_trees := by decide

namespace Diff

theorem modifies_moreArguments :
    Diff.moreArguments.Modifies [.insert 5, .insert 8, .insert 9] 1 1 ∧
      Diff.moreArguments.Modifies [.insert 5, .insert 8, .insert 9] 5 6 := by
  constructor
  · exact ⟨by decide, .insert 5, by decide,
      Detection.touches_of_subjects (by decide) (by decide)⟩
  · exact ⟨by decide, .insert 9, by decide,
      Detection.touches_of_subjects (by decide) (by decide)⟩

theorem alters_moreArguments :
    Diff.moreArguments.Alters [.insert 5, .insert 8, .insert 9] .functionCall (2, 2) ∧
      Diff.moreArguments.Alters [.insert 5, .insert 8, .insert 9] .functionCall (6, 7) := by
  constructor
  · exact ⟨by decide, by decide, by decide, by decide +kernel⟩
  · exact ⟨by decide, by decide, by decide, by decide +kernel⟩

theorem reargues_moreArguments :
    Diff.moreArguments.Reargues [.insert 5, .insert 8, .insert 9] (2, 2) ∧
      Diff.moreArguments.Reargues [.insert 5, .insert 8, .insert 9] (6, 7) := by
  constructor
  · exact reargues_of_length (by decide) (by decide)
  · exact reargues_of_length (by decide) (by decide)

theorem sameAt_moreArguments : Diff.moreArguments.SameAt (2, 2) .after 0 1 := by
  have alike : Diff.moreArguments.structure? .after 4 = Diff.moreArguments.structure? .after 5 :=
    structure?_of_leaves (by decide) (by decide) (by decide) (by decide) (by decide) (by decide)
  exact ⟨4, 5, by decide, by decide, alike⟩

theorem extraAt_moreArguments :
    Diff.moreArguments.ExtraAt [.insert 5, .insert 8, .insert 9] (2, 2) .after 0 := by
  have alike : Diff.moreArguments.structure? .before 4 = Diff.moreArguments.structure? .after 5 :=
    structure?_of_leaves (by decide) (by decide) (by decide) (by decide) (by decide) (by decide)
  refine ⟨by decide, equivalentWithout_iff.mpr ?_⟩
  exact congrArg (fun digest => [digest]) alike.symm

theorem onlyExtra_moreArguments :
    Diff.moreArguments.OnlyExtra [.insert 5, .insert 8, .insert 9] (6, 7) .after 9 where
  length := by decide
  unique := by
    refine ⟨0, fun other => ⟨fun extra => ?_, ?_⟩, by decide⟩
    · exact Nat.lt_one_iff.mp extra.within
    · rintro rfl
      exact ⟨by decide, by decide⟩

end Diff

namespace Miner

theorem mine_arguments_moreArguments :
    ∃ (registry : Registry) (outcome : MiningOutcome) (set : ActionSet),
      Registry.ofKinds [.modifyStatement, .modifyCall, .modifyCallArgs, .insertCallArg] =
        .ok registry ∧
      ((Miner.mk registry none).mine Disk.storage .moreArguments).run .empty =
        (.ok outcome, .empty) ∧
      outcome.actions? = some set ∧ (2, 2) ∈ set.rearguedCalls ∧ (6, 7) ∈ set.rearguedCalls ∧
      Diff.moreArguments.ExtraAt [.insert 5, .insert 8, .insert 9] (2, 2) .after 0 ∧
      (∀ argument, .insertCallArg 2 argument ∉ set.actions .insertCallArg) ∧
      .insertCallArg 7 9 ∈ set.actions .insertCallArg := by
  have accepted :
      Registry.ofKinds [.modifyStatement, .modifyCall, .modifyCallArgs, .insertCallArg] =
        .ok (.builtin [.modifyStatement, .modifyCall, .modifyCallArgs, .insertCallArg]) :=
    Registry.ofKinds_ok_iff.mpr ⟨by decide, by unfold Pipeline.Closed; decide, rfl⟩
  obtain ⟨outcome, mined, analyzed, found⟩ :=
    mine_arguments accepted Disk.storage .moreArguments .empty
  cases outcome with
  | notAnalyzable reason => cases analyzed
  | analyzed set stats =>
    obtain ⟨script, scripted, law⟩ := found set rfl
    obtain rfl := Option.some.inj scripted
    have finds := finds_of_mined accepted mined rfl rfl
    have reargued {pair : Nat × Nat} (modified : pair ∈ set.modifiedCalls)
        (reargues : Diff.moreArguments.Reargues [.insert 5, .insert 8, .insert 9] pair) :
        pair ∈ set.rearguedCalls :=
      ActionSet.mem_rearguedCalls_iff.mpr
        ((finds.mem_modifyCallArgs_iff (by decide) modified).mpr reargues)
    obtain ⟨first, second⟩ := Diff.modifies_moreArguments
    have ambiguous : (2, 2) ∈ set.rearguedCalls := by
      apply reargued _ Diff.reargues_moreArguments.1
      exact finds.mem_modifiedCalls (by decide) (by decide) first (by decide)
        Diff.alters_moreArguments.1
    have clear : (6, 7) ∈ set.rearguedCalls := by
      apply reargued _ Diff.reargues_moreArguments.2
      exact finds.mem_modifiedCalls (by decide) (by decide) second (by decide)
        Diff.alters_moreArguments.2
    obtain ⟨untold, _⟩ := law (2, 2) ambiguous
    obtain ⟨told, _⟩ := law (6, 7) clear
    refine ⟨_, _, set, accepted, mined, rfl, ambiguous, clear, Diff.extraAt_moreArguments, ?_, ?_⟩
    · exact ((untold .after (by decide)).2 0 Diff.extraAt_moreArguments).mpr
        ⟨1, .inr rfl, Diff.sameAt_moreArguments⟩
    · exact ((told .after (by decide)).1 9).mpr Diff.onlyExtra_moreArguments

end Miner

end RepairMining
