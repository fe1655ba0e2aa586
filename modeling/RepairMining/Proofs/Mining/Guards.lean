import RepairMining.Proofs.Mining.Branches
import RepairMining.Proofs.Mining.LoopGuards

namespace RepairMining

inductive Guarded where
  | ifElse
  | switch
  | loop
  deriving DecidableEq, Repr

namespace Guarded

def category : Guarded → ActionKind
  | ifElse => .replaceIfCondition
  | switch => .replaceSwitchExpression
  | loop => .replaceLoopGuard

def role : Guarded → Role
  | ifElse | loop => .condition
  | switch => .switchExpr

/-- A statement of this sort. A loop that guards another one does not count, because a change of it
is reported for the other one. -/
def Fits (arena : Arena) (stmt : Nat) : Guarded → Prop
  | ifElse => arena.hasKind stmt .ifElse = true
  | switch => arena.hasKind stmt .switch = true
  | loop => arena.isLoop stmt = true ∧ ¬ arena.GuardsLoop stmt

def report (before after guard newGuard : Nat) : Guarded → RepairAction
  | ifElse => .replaceIfCondition before after guard newGuard
  | switch => .replaceSwitchExpression before after guard newGuard
  | loop => .replaceLoopGuard before after (some guard) (some newGuard)

end Guarded

def RepairAction.guardPair? : RepairAction → Option (Nat × Nat)
  | .replaceIfCondition before after _ _ | .replaceSwitchExpression before after _ _
  | .replaceLoopGuard before after _ _ => some (before, after)
  | _ => none

/-- A statement with a guard that has no statement in it. -/
structure Arena.HasGuard (arena : Arena) (construct : Guarded) (stmt guard : Nat) : Prop where
  fits : construct.Fits arena stmt
  part : arena.part? stmt construct.role = some guard
  plain : ∀ node ∈ arena.subtree guard, arena.isStatement node = false

namespace Diff

inductive EditsWithin (diff : Diff) (guard newGuard : Nat) : EditOp → Prop
  | insert {node : Nat} (within : node ∈ diff.after.subtree newGuard) :
      EditsWithin diff guard newGuard (.insert node)
  | delete {node : Nat} (within : node ∈ diff.before.subtree guard) :
      EditsWithin diff guard newGuard (.delete node)
  | update {node after : Nat} (within : node ∈ diff.before.subtree guard) :
      EditsWithin diff guard newGuard (.update node after)
  | leave {source target : Nat} (within : source ∈ diff.before.subtree guard) :
      EditsWithin diff guard newGuard (.move source target)
  | reach {source target : Nat} (within : target ∈ diff.after.subtree newGuard) :
      EditsWithin diff guard newGuard (.move source target)

/-- A statement and its counterpart with guards that differ, and an edit in one of the guards. -/
structure EditsGuard (diff : Diff) (script : List EditOp) (construct : Guarded)
    (before after guard newGuard : Nat) : Prop where
  counterpart : (before, after) ∈ diff.correspondence.pairs
  old : diff.before.HasGuard construct before guard
  new : diff.after.HasGuard construct after newGuard
  differs : (Context.make diff script).equivalent (some guard) (some newGuard) = false
  edited : ∃ op ∈ script, diff.EditsWithin guard newGuard op

end Diff

namespace Arena

variable {arena : Arena} {construct : Guarded} {stmt guard node : Nat} {fits : Nat → Prop}

theorem isStatement_of_fits (here : construct.Fits arena stmt) :
    arena.isStatement stmt = true := by
  rw [isStatement_iff]
  cases construct with
  | ifElse => exact ⟨.ifElse, hasKind_iff.mp here, rfl⟩
  | switch => exact ⟨.switch, hasKind_iff.mp here, rfl⟩
  | loop =>
    obtain ⟨kind, known, loops⟩ := Option.any_eq_true _ _ |>.mp here.1
    refine ⟨kind, known, ?_⟩
    cases kind <;> first | rfl | cases loops

namespace HasGuard

theorem parent? (has : arena.HasGuard construct stmt guard) :
    arena.parent? guard = some stmt :=
  parent?_part has.part

theorem isStatement (has : arena.HasGuard construct stmt guard) :
    arena.isStatement stmt = true :=
  isStatement_of_fits has.fits

theorem nearest (has : arena.HasGuard construct stmt guard)
    (within : node ∈ arena.subtree guard) (here : fits stmt)
    (statements : ∀ other, fits other → arena.isStatement other = true) :
    arena.Nearest fits node stmt := by
  apply nearest_of_parent has.parent? here _ within
  intro other inside alsoFits
  have plain := has.plain other inside
  rw [statements other alsoFits] at plain
  cases plain

theorem properAncestor (has : arena.HasGuard construct stmt guard)
    (within : node ∈ arena.subtree guard) : arena.ProperAncestor stmt node := by
  have above := mem_subtree.mp within
  refine ⟨mem_chain_trans (parent_mem_chain has.parent?) above, ?_⟩
  have lower := parent?_lt has.parent?
  have least := le_of_mem_chain above
  omega

end HasGuard

end Arena

namespace Diff.EditsGuard

variable {diff : Diff} {script : List EditOp} {construct : Guarded}
  {before after guard newGuard : Nat}

/-- The edit counts for the statement, whatever it does to the guard. -/
theorem touches (edits : diff.EditsGuard script construct before after guard newGuard) :
    ∃ op ∈ script, diff.Touches op before := by
  have kept : diff.KeptBefore before := ⟨edits.old.isStatement, after, edits.counterpart⟩
  have alsoKept : diff.KeptAfter after := ⟨edits.new.isStatement, before, edits.counterpart⟩
  obtain ⟨op, listed, within⟩ := edits.edited
  refine ⟨op, listed, ?_⟩
  cases within with
  | insert within =>
    exact .insert (edits.new.nearest within alsoKept fun _ => And.left) edits.counterpart
  | delete within => exact .delete (edits.old.nearest within kept fun _ => And.left)
  | update within => exact .update (edits.old.nearest within kept.1 fun _ => id) kept.2
  | leave within =>
    apply Touches.leave
    exact edits.old.nearest within ⟨edits.old.properAncestor within, kept⟩ fun _ both => both.2.1
  | reach within =>
    apply Touches.reach _ edits.counterpart
    exact edits.new.nearest within ⟨edits.new.properAncestor within, alsoKept⟩
      fun _ both => both.2.1

theorem modifies (edits : diff.EditsGuard script construct before after guard newGuard) :
    diff.Modifies script before after :=
  ⟨edits.counterpart, edits.touches⟩

theorem changedPart? (edits : diff.EditsGuard script construct before after guard newGuard) :
    Detection.changedPart? (.make diff script) construct.role (before, after) =
      some (guard, newGuard) := by
  have old := edits.old.part
  have new := edits.new.part
  calc
    _ = (diff.before.part? before construct.role).bind fun first =>
        (diff.after.part? after construct.role).bind fun second =>
          if (Context.make diff script).equivalent (some first) (some second) then none
          else some (first, second) := Detection.changedPart?_eq _ _ _
    _ = some (guard, newGuard) := by simp [old, new, edits.differs]

end Diff.EditsGuard

namespace Miner

variable {σ : Type} {kinds : List ActionKind} {diff : Diff} {script : List EditOp}
  {set : ActionSet} {construct : Guarded} {before after guard newGuard : Nat}

theorem Finds.guard_of_part (finds : Finds diff script kinds set) {kind : NodeKind}
    (listed : construct.category ∈ kinds)
    (needs : .modifyStatement ∈ (Detection.rule construct.category).needs)
    (scan : (Detection.rule construct.category).finds (.make diff script) set =
      (Detection.modifiedOfKind (.make diff script) set kind).filterMap fun pair =>
        (Detection.changedPart? (.make diff script) construct.role pair).map
          fun (guard, newGuard) => construct.report pair.1 pair.2 guard newGuard)
    (about : ∀ first second guard newGuard,
      (construct.report first second guard newGuard).guardPair? = some (first, second))
    (was : diff.before.hasKind before kind = true) (is : diff.after.hasKind after kind = true)
    (edits : diff.EditsGuard script construct before after guard newGuard) :
    (set.actions construct.category).filter (fun action =>
      action.guardPair? = some (before, after)) =
        [construct.report before after guard newGuard] := by
  have modified := (Detection.mem_modifiedStatements (finds.get?_needed listed needs)).mpr
    edits.modifies
  have member : (before, after) ∈ Detection.modifiedOfKind (.make diff script) set kind :=
    List.mem_filter.mpr ⟨modified, Bool.and_eq_true_iff.mpr ⟨was, is⟩⟩
  have once := Detection.nodup_modifiedOfKind (.make diff script) finds.1.ordered kind
  rw [ActionSet.actions, finds.get?_eq listed, Option.getD_some, scan,
    Detection.filter_scan once member, edits.changedPart?]
  · rfl
  · intro other action shape
    obtain ⟨parts, _, rfl⟩ := Option.map_eq_some_iff.mp shape
    exact about _ _ _ _

theorem Finds.guard_of_loop (finds : Finds diff script kinds set)
    (listed : .replaceLoopGuard ∈ kinds)
    (edits : diff.EditsGuard script .loop before after guard newGuard) :
    (set.actions .replaceLoopGuard).filter (fun action =>
      action.guardPair? = some (before, after)) =
        [.replaceLoopGuard before after (some guard) (some newGuard)] := by
  have old : diff.before.condition? before = some guard := edits.old.part
  have new : diff.after.condition? after = some newGuard := edits.new.part
  obtain ⟨loops, present, once, member⟩ := finds.reguardedLoops listed
  have reguards : diff.Reguards script (before, after) := by
    refine ⟨edits.old.fits.1, edits.new.fits.1, ⟨before, after, edits.modifies,
      .itself edits.old.fits.2, .itself edits.new.fits.2⟩, ?_⟩
    rw [old, new]
    exact edits.differs
  have scan : loops.map diff.guardAction = loops.filterMap fun pair =>
      some (diff.guardAction pair) := (congrFun List.filterMap_eq_map _).symm
  rw [ActionSet.actions, present, Option.getD_some, scan,
    Detection.filter_scan once ((member _).mpr reguards), Diff.guardAction, old, new]
  · rfl
  · intro other action shape
    obtain rfl := Option.some.inj shape
    rfl

theorem Finds.guarded (finds : Finds diff script kinds set) (listed : construct.category ∈ kinds)
    (edits : diff.EditsGuard script construct before after guard newGuard) :
    (set.actions construct.category).filter (fun action =>
      action.guardPair? = some (before, after)) =
        [construct.report before after guard newGuard] := by
  cases construct with
  | ifElse =>
    exact finds.guard_of_part listed (by decide) rfl (fun _ _ _ _ => rfl) edits.old.fits
      edits.new.fits edits
  | switch =>
    exact finds.guard_of_part listed (by decide) rfl (fun _ _ _ _ => rfl) edits.old.fits
      edits.new.fits edits
  | loop => exact finds.guard_of_loop listed edits

/-- An edited guard is never missed. Take an if-statement, a switch or a loop and its counterpart of
the same sort, both with a guard in which there is no statement. If the two guards differ and some
edit takes place in one of them, at whatever depth and of whatever kind, exactly one action is about
the two statements, and it names the two guards. -/
theorem mine_guards {registry : Registry} (accepted : Registry.ofKinds kinds = .ok registry)
    (storage : Storage (StateM σ)) (diff : Diff) (state : σ) :
    ∃ outcome, ((Miner.mk registry none).mine storage diff).run state = (.ok outcome, state) ∧
      outcome.isAnalyzed = diff.edits.isSome ∧
      ∀ set, outcome.actions? = some set →
        ∃ script, diff.edits = some script ∧
          ∀ construct : Guarded, construct.category ∈ kinds →
            ∀ before after guard newGuard,
              diff.EditsGuard script construct before after guard newGuard →
              (set.actions construct.category).filter (fun action =>
                action.guardPair? = some (before, after)) =
                  [construct.report before after guard newGuard] := by
  obtain ⟨outcome, mined, analyzed, found⟩ := mine_accepted accepted storage diff state
  refine ⟨outcome, mined, analyzed, ?_⟩
  intro set there
  obtain ⟨script, scripted, finds, _⟩ := found set there
  refine ⟨script, scripted, ?_⟩
  intro construct listed before after guard newGuard edits
  exact finds.guarded listed edits

end Miner

/-- A name moves from the body of a loop into the guard of the loop. -/
def Diff.hoisted : Diff where
  id := ⟨"r", "f", "a.c"⟩
  before := .ofTree (.node ⟨.translationUnit, none, none, none⟩
    [.node ⟨.whileLoop, none, none, none⟩
      [.node ⟨.binary, none, some .condition, none⟩ [.node ⟨.identity, some "a", none, none⟩ []],
        .node ⟨.block, none, some .body, none⟩
          [.node ⟨.exprStatement, none, none, none⟩ [.node ⟨.identity, some "b", none, none⟩ []]]]])
  after := .ofTree (.node ⟨.translationUnit, none, none, none⟩
    [.node ⟨.whileLoop, none, none, none⟩
      [.node ⟨.binary, none, some .condition, none⟩
          [.node ⟨.identity, some "a", none, none⟩ [], .node ⟨.identity, some "b", none, none⟩ []],
        .node ⟨.block, none, some .body, none⟩ [.node ⟨.exprStatement, none, none, none⟩ []]]])
  correspondence := ⟨[(0, 0), (1, 1), (2, 2), (3, 3), (4, 5), (5, 6), (6, 4)], by decide,
    by decide⟩
  edits := some [.move 6 4]
  fixFiles := ["a.c"]
  in_trees := by decide

theorem Diff.editsGuard_hoisted : Diff.hoisted.EditsGuard [.move 6 4] .loop 1 1 2 2 where
  counterpart := by decide
  old := ⟨⟨by decide, fun guards => absurd guards.1 (by decide)⟩, by decide, by decide⟩
  new := ⟨⟨by decide, fun guards => absurd guards.1 (by decide)⟩, by decide, by decide⟩
  differs := by decide +kernel
  edited := ⟨.move 6 4, by decide, .reach (by decide)⟩

namespace Miner

theorem mine_guards_hoisted :
    ∃ (registry : Registry) (outcome : MiningOutcome) (set : ActionSet),
      Registry.ofKinds [.modifyStatement, .replaceLoopGuard] = .ok registry ∧
      ((Miner.mk registry none).mine Disk.storage .hoisted).run .empty = (.ok outcome, .empty) ∧
      outcome.actions? = some set ∧ Diff.hoisted.EditsGuard [.move 6 4] .loop 1 1 2 2 ∧
      (set.actions .replaceLoopGuard).filter (fun action => action.guardPair? = some (1, 1)) =
        [.replaceLoopGuard 1 1 (some 2) (some 2)] := by
  obtain ⟨outcome, mined, analyzed, found⟩ :=
    mine_guards accepted_replaceLoopGuard Disk.storage .hoisted .empty
  cases outcome with
  | notAnalyzable reason => cases analyzed
  | analyzed set stats =>
    obtain ⟨script, scripted, law⟩ := found set rfl
    obtain rfl := Option.some.inj scripted
    exact ⟨_, _, set, accepted_replaceLoopGuard, mined, rfl, Diff.editsGuard_hoisted,
      law .loop (by decide) 1 1 2 2 Diff.editsGuard_hoisted⟩

end Miner

end RepairMining
