import RepairMining.Proofs.Mining.Expressions

namespace RepairMining

inductive CallPart where
  | target
  | arguments
  deriving DecidableEq, Repr

def CallPart.categories : CallPart → List ActionKind
  | target => [.replaceCallTarget]
  | arguments => [.modifyCallArgs, .insertCallArg, .removeCallArg, .replaceCallArg]

/-- What can happen to a single argument: it is extra on one side of the fix, or it was replaced. -/
inductive ArgumentEdit where
  | extra (side : Side)
  | replacement
  deriving DecidableEq, Repr

def ArgumentEdit.category : ArgumentEdit → ActionKind
  | extra .before => .removeCallArg
  | extra .after => .insertCallArg
  | replacement => .replaceCallArg

theorem ArgumentEdit.exists_of_mem {kind : ActionKind}
    (listed : kind ∈ [.insertCallArg, .removeCallArg, .replaceCallArg]) :
    ∃ edit : ArgumentEdit, kind = edit.category := by
  simp only [List.mem_cons, List.not_mem_nil, or_false] at listed
  obtain rfl | rfl | rfl := listed
  · exact ⟨.extra .after, rfl⟩
  · exact ⟨.extra .before, rfl⟩
  · exact ⟨.replacement, rfl⟩

namespace Side

def onlyExtra? (context : Context) (pair : Nat × Nat) : Side → Option Nat
  | before => Detection.onlyExtra? (Detection.agree context)
      (context.before.callArguments pair.1) (context.after.callArguments pair.2)
  | after => Detection.onlyExtra? (fun long short => Detection.agree context short long)
      (context.after.callArguments pair.2) (context.before.callArguments pair.1)

def reportExtra (pair : Nat × Nat) (argument : Nat) : Side → RepairAction
  | before => .removeCallArg pair.1 argument
  | after => .insertCallArg pair.2 argument

end Side

def ArgumentEdit.scan (context : Context) (pair : Nat × Nat) : ArgumentEdit → Option RepairAction
  | extra side => (side.onlyExtra? context pair).map fun argument => side.reportExtra pair argument
  | replacement => (Detection.onlyDifference? (Detection.agree context)
      (context.before.callArguments pair.1) (context.after.callArguments pair.2)).map
        fun (before, after) => .replaceCallArg before after

theorem Arena.call_unique {arena : Arena} {argument call other : Nat}
    (here : argument ∈ arena.callArguments call) (there : argument ∈ arena.callArguments other) :
    call = other :=
  Option.some.inj ((grandparent?_argument here).symm.trans (grandparent?_argument there))

namespace Diff

/-- Both calls have a target. The targets differ and the arguments do not. -/
structure Retargets (diff : Diff) (script : List EditOp) (pair : Nat × Nat) : Prop where
  old : ∃ target, diff.before.callTarget? pair.1 = some target
  new : ∃ target, diff.after.callTarget? pair.2 = some target
  differs : Detection.sameTarget (.make diff script) pair = false
  arguments : Detection.sameArguments (.make diff script) pair = true

structure Reargues (diff : Diff) (script : List EditOp) (pair : Nat × Nat) : Prop where
  target : Detection.sameTarget (.make diff script) pair = true
  differs : Detection.sameArguments (.make diff script) pair = false

def ChangesOnly (diff : Diff) (script : List EditOp) (pair : Nat × Nat) : CallPart → Prop
  | .target => diff.Retargets script pair
  | .arguments => diff.Reargues script pair

theorem Retargets.not_reargues {diff : Diff} {script : List EditOp} {pair : Nat × Nat}
    (retargets : diff.Retargets script pair) : ¬ diff.Reargues script pair := by
  intro reargues
  have same := reargues.target
  rw [retargets.differs] at same
  cases same

theorem ChangesOnly.sameArguments {diff : Diff} {script : List EditOp} {pair : Nat × Nat}
    {part : CallPart} (changes : diff.ChangesOnly script pair part)
    (target : Detection.sameTarget (.make diff script) pair = false) :
    Detection.sameArguments (.make diff script) pair = true := by
  cases part with
  | target => exact Retargets.arguments changes
  | arguments =>
    rw [Reargues.target changes] at target
    cases target

/-- The call before the fix and the call after it that an action is about. -/
inductive AboutCall (diff : Diff) : RepairAction → Nat × Nat → Prop
  | target {call newCall old new : Nat} (was : diff.before.callTarget? call = some old)
      (is : diff.after.callTarget? newCall = some new) :
      AboutCall diff (.replaceCallTarget old new) (call, newCall)
  | arguments {call newCall : Nat} :
      AboutCall diff (.modifyCallArgs call newCall) (call, newCall)
  | insertion {call newCall argument : Nat}
      (member : argument ∈ diff.after.callArguments newCall) :
      AboutCall diff (.insertCallArg newCall argument) (call, newCall)
  | removal {call newCall argument : Nat} (member : argument ∈ diff.before.callArguments call) :
      AboutCall diff (.removeCallArg call argument) (call, newCall)
  | replacement {call newCall old new : Nat} (was : old ∈ diff.before.callArguments call)
      (is : new ∈ diff.after.callArguments newCall) :
      AboutCall diff (.replaceCallArg old new) (call, newCall)

variable {diff : Diff} {script : List EditOp} {pair other : Nat × Nat} {action : RepairAction}

theorem AboutCall.meet (about : diff.AboutCall action pair) (also : diff.AboutCall action other) :
    pair.1 = other.1 ∨ pair.2 = other.2 := by
  cases about with
  | target was =>
    cases also with
    | target alsoWas =>
      have parents := (Arena.parent?_part was).symm.trans (Arena.parent?_part alsoWas)
      exact .inl (Option.some.inj parents)
  | arguments =>
    cases also with
    | arguments => exact .inl rfl
  | insertion =>
    cases also with
    | insertion => exact .inr rfl
  | removal =>
    cases also with
    | removal => exact .inl rfl
  | replacement was =>
    cases also with
    | replacement alsoWas => exact .inl (Arena.call_unique was alsoWas)

end Diff

namespace ActionSet

variable {diff : Diff} {script : List EditOp} {set : ActionSet} {pair : Nat × Nat}
  {action : RepairAction}

def Contributes (set : ActionSet) (diff : Diff) (pair : Nat × Nat) (part : CallPart) : Prop :=
  ∃ kind ∈ part.categories, ∃ action ∈ set.actions kind, diff.AboutCall action pair

theorem mem_rearguedCalls_iff :
    pair ∈ set.rearguedCalls ↔ .modifyCallArgs pair.1 pair.2 ∈ set.actions .modifyCallArgs := by
  apply mem_picked_iff
  intro other
  cases other <;> simp [Prod.ext_iff]

end ActionSet

namespace Detection

variable {diff : Diff} {script : List EditOp} {set : ActionSet} {pair : Nat × Nat}
  {action : RepairAction} {old new : Nat}

theorem sameTarget_of_targets (was : diff.before.callTarget? pair.1 = some old)
    (is : diff.after.callTarget? pair.2 = some new) :
    sameTarget (.make diff script) pair =
      (Context.make diff script).equivalent (some old) (some new) := by
  rw [← was, ← is]
  rfl

theorem mem_replaceCallTarget :
    action ∈ replaceCallTarget.finds (.make diff script) set ↔
      ∃ pair ∈ set.modifiedCalls, diff.Retargets script pair ∧
        ∃ old new, diff.before.callTarget? pair.1 = some old ∧
          diff.after.callTarget? pair.2 = some new ∧ action = .replaceCallTarget old new := by
  constructor
  · intro found
    obtain ⟨pair, scanned, shape⟩ := List.mem_filterMap.mp found
    obtain ⟨listed, arguments⟩ := List.mem_filter.mp scanned
    split at shape
    · rename_i old new was is
      split at shape
      · cases shape
      · rename_i differ
        obtain rfl := Option.some.inj shape
        have differs := (sameTarget_of_targets was is).trans (Bool.eq_false_of_not_eq_true differ)
        exact ⟨pair, listed, ⟨⟨old, was⟩, ⟨new, is⟩, differs, arguments⟩, old, new, was, is, rfl⟩
    · cases shape
  · rintro ⟨pair, listed, retargets, old, new, was, is, rfl⟩
    have differ := (sameTarget_of_targets was is).symm.trans retargets.differs
    have old : (Context.make diff script).before.callTarget? pair.1 = some old := was
    have new : (Context.make diff script).after.callTarget? pair.2 = some new := is
    apply List.mem_filterMap.mpr
    refine ⟨pair, List.mem_filter.mpr ⟨listed, retargets.arguments⟩, ?_⟩
    simp [old, new, differ]

theorem mem_modifyCallArgs :
    action ∈ modifyCallArgs.finds (.make diff script) set ↔
      ∃ pair ∈ set.modifiedCalls, diff.Reargues script pair ∧
        action = .modifyCallArgs pair.1 pair.2 := by
  simp only [modifyCallArgs, List.mem_map, List.mem_filter, Bool.and_eq_true, Bool.not_eq_true']
  constructor
  · rintro ⟨pair, ⟨listed, target, differs⟩, rfl⟩
    exact ⟨pair, listed, ⟨target, differs⟩, rfl⟩
  · rintro ⟨pair, listed, reargues, rfl⟩
    exact ⟨pair, ⟨listed, reargues.target, reargues.differs⟩, rfl⟩

theorem finds_argumentEdit (context : Context) (set : ActionSet) (edit : ArgumentEdit) :
    (rule edit.category).finds context set =
      set.rearguedCalls.filterMap fun pair => edit.scan context pair := by
  cases edit with
  | extra side => cases side <;> rfl
  | replacement => rfl

theorem about_of_scan {edit : ArgumentEdit}
    (told : edit.scan (.make diff script) pair = some action) : diff.AboutCall action pair := by
  obtain ⟨before, after⟩ := pair
  cases edit with
  | extra side =>
    obtain ⟨argument, extra, rfl⟩ := Option.map_eq_some_iff.mp told
    cases side with
    | before => exact .removal (mem_of_onlyExtra? extra)
    | after => exact .insertion (mem_of_onlyExtra? extra)
  | replacement =>
    obtain ⟨arguments, difference, rfl⟩ := Option.map_eq_some_iff.mp told
    obtain ⟨was, is⟩ := mem_of_onlyDifference? difference
    exact .replacement was is

theorem exists_reargued {edit : ArgumentEdit}
    (found : action ∈ (rule edit.category).finds (.make diff script) set) :
    ∃ pair ∈ set.rearguedCalls, edit.scan (.make diff script) pair = some action := by
  rw [finds_argumentEdit] at found
  exact List.mem_filterMap.mp found

end Detection

namespace ActionSet

variable {diff : Diff} {script : List EditOp} {set : ActionSet} {pair : Nat × Nat}
  {action : RepairAction} {part : CallPart}

theorem Genuine.alters_of_mem (genuine : set.Genuine (.make diff script))
    (listed : pair ∈ set.modifiedCalls) :
    diff.Alters script .functionCall pair ∧ set.WithinModified diff pair.1 :=
  genuine.alters_of_altered .call listed

theorem Genuine.reargues_of_mem (genuine : set.Genuine (.make diff script))
    (listed : pair ∈ set.rearguedCalls) :
    pair ∈ set.modifiedCalls ∧ diff.Reargues script pair := by
  have found := genuine.mem_finds (mem_rearguedCalls_iff.mp listed)
  obtain ⟨call, member, reargues, same⟩ := Detection.mem_modifyCallArgs.mp found
  obtain rfl : pair = call := by simpa [Prod.ext_iff] using same
  exact ⟨member, reargues⟩

theorem Genuine.exists_call (genuine : set.Genuine (.make diff script)) {kind : ActionKind}
    (tells : kind ∈ part.categories) (listed : action ∈ set.actions kind) :
    ∃ pair ∈ set.modifiedCalls, diff.AboutCall action pair ∧ diff.ChangesOnly script pair part := by
  have found := genuine.mem_finds listed
  cases part with
  | target =>
    obtain rfl := List.mem_singleton.mp tells
    obtain ⟨pair, member, retargets, old, new, was, is, rfl⟩ :=
      Detection.mem_replaceCallTarget.mp found
    exact ⟨pair, member, .target was is, retargets⟩
  | arguments =>
    rcases List.mem_cons.mp tells with rfl | edits
    · obtain ⟨pair, member, reargues, rfl⟩ := Detection.mem_modifyCallArgs.mp found
      exact ⟨pair, member, .arguments, reargues⟩
    · obtain ⟨edit, rfl⟩ := ArgumentEdit.exists_of_mem edits
      obtain ⟨pair, reargued, told⟩ := Detection.exists_reargued found
      obtain ⟨member, reargues⟩ := genuine.reargues_of_mem reargued
      exact ⟨pair, member, Detection.about_of_scan told, reargues⟩

theorem Genuine.call_unique (genuine : set.Genuine (.make diff script)) {other : Nat × Nat}
    (listed : pair ∈ set.modifiedCalls) (about : diff.AboutCall action pair)
    (alsoListed : other ∈ set.modifiedCalls) (also : diff.AboutCall action other) :
    other = pair :=
  genuine.altered_unique .call listed alsoListed (also.meet about)

theorem Genuine.changesOnly_of_contributes (genuine : set.Genuine (.make diff script))
    (listed : pair ∈ set.modifiedCalls) (contributes : set.Contributes diff pair part) :
    diff.ChangesOnly script pair part := by
  obtain ⟨kind, tells, action, member, about⟩ := contributes
  obtain ⟨call, alsoListed, also, changes⟩ := genuine.exists_call tells member
  exact genuine.call_unique listed about alsoListed also ▸ changes

end ActionSet

namespace Miner

variable {σ : Type} {kinds : List ActionKind} {diff : Diff} {script : List EditOp}
  {set : ActionSet} {pair : Nat × Nat}

theorem Finds.mem_modifiedCalls (finds : Finds diff script kinds set)
    (statements : .modifyStatement ∈ kinds) (calls : .modifyCall ∈ kinds) {before after : Nat}
    (modifies : diff.Modifies script before after) (above : before ∈ diff.before.chain pair.1)
    (alters : diff.Alters script .functionCall pair) : pair ∈ set.modifiedCalls :=
  finds.mem_altered .call statements calls modifies above alters

theorem Finds.mem_replaceCallTarget_iff (finds : Finds diff script kinds set)
    (replaces : .replaceCallTarget ∈ kinds) (listed : pair ∈ set.modifiedCalls) :
    (∃ old new, diff.before.callTarget? pair.1 = some old ∧
        diff.after.callTarget? pair.2 = some new ∧
        .replaceCallTarget old new ∈ set.actions .replaceCallTarget) ↔
      diff.Retargets script pair := by
  constructor
  · rintro ⟨old, new, was, is, member⟩
    have contributes : set.Contributes diff pair .target :=
      ⟨_, List.mem_singleton_self _, _, member, .target was is⟩
    exact finds.1.changesOnly_of_contributes listed contributes
  · intro retargets
    obtain ⟨old, was⟩ := retargets.old
    obtain ⟨new, is⟩ := retargets.new
    refine ⟨old, new, was, is, ?_⟩
    rw [ActionSet.actions, finds.get?_eq replaces]
    exact Detection.mem_replaceCallTarget.mpr ⟨pair, listed, retargets, old, new, was, is, rfl⟩

theorem Finds.mem_modifyCallArgs_iff (finds : Finds diff script kinds set)
    (reargues : .modifyCallArgs ∈ kinds) (listed : pair ∈ set.modifiedCalls) :
    .modifyCallArgs pair.1 pair.2 ∈ set.actions .modifyCallArgs ↔ diff.Reargues script pair := by
  constructor
  · intro member
    exact (finds.1.reargues_of_mem (ActionSet.mem_rearguedCalls_iff.mpr member)).2
  · intro changes
    rw [ActionSet.actions, finds.get?_eq reargues]
    exact Detection.mem_modifyCallArgs.mpr ⟨pair, listed, changes, rfl⟩

/-- Calls are refined exclusively. Of a changed call the replacement of its target is reported if it
has a target before and after the fix, these differ and the arguments are equivalent, and a change
of its arguments if the targets are equivalent or both missing and the arguments differ. No call is
refined in both ways, and one that changed in both parts in neither. Whatever is told of a target or
of arguments comes from exactly one changed call, which lies in a modified statement. -/
theorem mine_calls {registry : Registry} (accepted : Registry.ofKinds kinds = .ok registry)
    (storage : Storage (StateM σ)) (diff : Diff) (state : σ) :
    ∃ outcome, ((Miner.mk registry none).mine storage diff).run state = (.ok outcome, state) ∧
      outcome.isAnalyzed = diff.edits.isSome ∧
      ∀ set, outcome.actions? = some set →
        ∃ script, diff.edits = some script ∧
          (∀ pair ∈ set.modifiedCalls,
            (.replaceCallTarget ∈ kinds →
              ((∃ old new, diff.before.callTarget? pair.1 = some old ∧
                  diff.after.callTarget? pair.2 = some new ∧
                  .replaceCallTarget old new ∈ set.actions .replaceCallTarget) ↔
                diff.Retargets script pair)) ∧
            (.modifyCallArgs ∈ kinds →
              (.modifyCallArgs pair.1 pair.2 ∈ set.actions .modifyCallArgs ↔
                diff.Reargues script pair)) ∧
            ¬ (set.Contributes diff pair .target ∧ set.Contributes diff pair .arguments) ∧
            (Detection.sameTarget (.make diff script) pair = false →
              Detection.sameArguments (.make diff script) pair = false →
              ∀ part, ¬ set.Contributes diff pair part)) ∧
          ∀ part : CallPart, ∀ kind ∈ part.categories, ∀ action ∈ set.actions kind,
            ∃ pair ∈ set.modifiedCalls, diff.AboutCall action pair ∧
              diff.ChangesOnly script pair part ∧ set.WithinModified diff pair.1 ∧
              ∀ other ∈ set.modifiedCalls, diff.AboutCall action other → other = pair := by
  obtain ⟨outcome, mined, analyzed, found⟩ := mine_accepted accepted storage diff state
  refine ⟨outcome, mined, analyzed, ?_⟩
  intro set there
  obtain ⟨script, scripted, finds, _⟩ := found set there
  refine ⟨script, scripted, ?_, ?_⟩
  · intro pair listed
    have changes {part : CallPart} (contributes : set.Contributes diff pair part) :
        diff.ChangesOnly script pair part :=
      finds.1.changesOnly_of_contributes listed contributes
    refine ⟨fun replaces => finds.mem_replaceCallTarget_iff replaces listed,
      fun reargues => finds.mem_modifyCallArgs_iff reargues listed, ?_, ?_⟩
    · rintro ⟨target, arguments⟩
      exact (changes target).not_reargues (changes arguments)
    · intro target arguments part contributes
      have same := (changes contributes).sameArguments target
      rw [arguments] at same
      cases same
  · intro part kind tells action listed
    obtain ⟨pair, member, about, changes⟩ := finds.1.exists_call tells listed
    exact ⟨pair, member, about, changes, (finds.1.alters_of_mem member).2,
      fun other alsoMember also => finds.1.call_unique member about alsoMember also⟩

end Miner

/-- A call without arguments stands in those of a call without target, and its target changes. -/
def Diff.renamedInner : Diff where
  id := ⟨"r", "f", "a.c"⟩
  before := .ofTree (.node ⟨.translationUnit, none, none, none⟩
    [.node ⟨.exprStatement, none, none, none⟩
      [.node ⟨.functionCall, none, none, none⟩
        [.node ⟨.exprList, none, some .args, none⟩
          [.node ⟨.functionCall, none, none, none⟩
            [.node ⟨.identity, some "f", some .target, none⟩ []]]]]])
  after := .ofTree (.node ⟨.translationUnit, none, none, none⟩
    [.node ⟨.exprStatement, none, none, none⟩
      [.node ⟨.functionCall, none, none, none⟩
        [.node ⟨.exprList, none, some .args, none⟩
          [.node ⟨.functionCall, none, none, none⟩
            [.node ⟨.identity, some "g", some .target, none⟩ []]]]]])
  correspondence := ⟨[(0, 0), (1, 1), (2, 2), (3, 3), (4, 4), (5, 5)], by decide, by decide⟩
  edits := some [.update 5 5]
  fixFiles := ["a.c"]
  in_trees := by decide

theorem Diff.alters_renamedInner :
    Diff.renamedInner.Alters [.update 5 5] .functionCall (2, 2) ∧
      Diff.renamedInner.Alters [.update 5 5] .functionCall (4, 4) := by
  constructor
  · exact ⟨by decide, by decide, by decide, by decide +kernel⟩
  · exact ⟨by decide, by decide, by decide, by decide +kernel⟩

theorem Diff.retargets_renamedInner : Diff.renamedInner.Retargets [.update 5 5] (4, 4) where
  old := ⟨5, by decide⟩
  new := ⟨5, by decide⟩
  differs := by decide +kernel
  arguments := by decide

theorem Diff.reargues_renamedInner : Diff.renamedInner.Reargues [.update 5 5] (2, 2) where
  target := by decide
  differs := by decide +kernel

namespace Miner

theorem mine_calls_renamedInner :
    ∃ (registry : Registry) (outcome : MiningOutcome) (set : ActionSet),
      Registry.ofKinds [.modifyStatement, .modifyCall, .replaceCallTarget, .modifyCallArgs] =
        .ok registry ∧
      ((Miner.mk registry none).mine Disk.storage .renamedInner).run .empty =
        (.ok outcome, .empty) ∧
      outcome.actions? = some set ∧ (2, 2) ∈ set.modifiedCalls ∧ (4, 4) ∈ set.modifiedCalls ∧
      .replaceCallTarget 5 5 ∈ set.actions .replaceCallTarget ∧
      ¬ set.Contributes .renamedInner (4, 4) .arguments ∧
      .modifyCallArgs 2 2 ∈ set.actions .modifyCallArgs ∧
      ¬ set.Contributes .renamedInner (2, 2) .target := by
  have accepted :
      Registry.ofKinds [.modifyStatement, .modifyCall, .replaceCallTarget, .modifyCallArgs] =
        .ok (.builtin [.modifyStatement, .modifyCall, .replaceCallTarget, .modifyCallArgs]) :=
    Registry.ofKinds_ok_iff.mpr ⟨by decide, by unfold Pipeline.Closed; decide, rfl⟩
  obtain ⟨outcome, mined, analyzed, found⟩ :=
    mine_calls accepted Disk.storage .renamedInner .empty
  cases outcome with
  | notAnalyzable reason => cases analyzed
  | analyzed set stats =>
    obtain ⟨script, scripted, split, _⟩ := found set rfl
    obtain rfl := Option.some.inj scripted
    have finds := finds_of_mined accepted mined rfl rfl
    have modifies : Diff.renamedInner.Modifies [.update 5 5] 1 1 :=
      ⟨by decide, .update 5 5, by decide, Detection.touches_of_subjects (by decide) (by decide)⟩
    have call {pair : Nat × Nat} (above : 1 ∈ Diff.renamedInner.before.chain pair.1)
        (alters : Diff.renamedInner.Alters [.update 5 5] .functionCall pair) :
        pair ∈ set.modifiedCalls :=
      finds.mem_modifiedCalls (by decide) (by decide) modifies above alters
    have outer := call (by decide) Diff.alters_renamedInner.1
    have inner := call (by decide) Diff.alters_renamedInner.2
    obtain ⟨_, reargued, outerOnce, _⟩ := split (2, 2) outer
    obtain ⟨retargeted, _, innerOnce, _⟩ := split (4, 4) inner
    have arguments := (reargued (by decide)).mpr Diff.reargues_renamedInner
    obtain ⟨old, new, was, is, target⟩ :=
      (retargeted (by decide)).mpr Diff.retargets_renamedInner
    obtain rfl : 5 = old := Option.some.inj was
    obtain rfl : 5 = new := Option.some.inj is
    refine ⟨_, _, set, accepted, mined, rfl, outer, inner, target, ?_, arguments, ?_⟩
    · intro also
      exact innerOnce ⟨⟨_, List.mem_singleton_self _, _, target, .target was is⟩, also⟩
    · intro also
      exact outerOnce ⟨also, _, List.mem_cons_self, _, arguments, .arguments⟩

end Miner

end RepairMining
