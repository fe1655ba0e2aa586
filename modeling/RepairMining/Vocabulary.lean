namespace RepairMining

/-- `all` lists every value once, in the order in which reports and documents put them. -/
class Vocabulary (α : Type) where
  all : List α
  name : α → String
  mem_all : ∀ x, x ∈ all
  nodup_all : all.Nodup
  name_injective : ∀ x y, name x = name y → x = y

namespace Vocabulary

variable {α : Type} [Vocabulary α]

def ofName? (written : String) : Option α :=
  (all : List α).find? (fun x => name x == written)

def names (α : Type) [Vocabulary α] : List String := (all : List α).map name

def rank [BEq α] (x : α) : Nat := (all : List α).idxOf x

theorem ofName?_name (x : α) : ofName? (name x) = some x := by
  unfold ofName?
  rcases found : (all : List α).find? (fun y => name y == name x) with _ | y
  · have refused := List.find?_eq_none.mp found x (mem_all x)
    simp at refused
  · have same := List.find?_some found
    simp only [beq_iff_eq] at same
    rw [name_injective y x same]

theorem name_of_ofName? {written : String} {x : α} (found : ofName? written = some x) :
    name x = written := by
  simpa using List.find?_some found

end Vocabulary

end RepairMining
