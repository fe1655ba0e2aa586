import RepairMining.Vocabulary

namespace RepairMining

structure Table (κ α : Type) where
  get? : κ → Option α

namespace Table

variable {κ α : Type}

@[ext]
theorem ext {first second : Table κ α} (same : ∀ key, first.get? key = second.get? key) :
    first = second := by
  cases first
  cases second
  congr
  exact funext same

def empty : Table κ α := ⟨fun _ => none⟩

def contains (table : Table κ α) (key : κ) : Bool := (table.get? key).isSome

def insert [DecidableEq κ] (table : Table κ α) (key : κ) (value : α) : Table κ α :=
  ⟨fun other => if other = key then some value else table.get? other⟩

def restrict [DecidableEq κ] (table : Table κ α) (keys : List κ) : Table κ α :=
  ⟨fun key => if key ∈ keys then table.get? key else none⟩

def entries [Vocabulary κ] (table : Table κ α) : List (κ × α) :=
  (Vocabulary.all : List κ).filterMap fun key => (table.get? key).map fun value => (key, value)

def keys [Vocabulary κ] (table : Table κ α) : List κ :=
  (Vocabulary.all : List κ).filter table.contains

theorem get?_insert_self [DecidableEq κ] (table : Table κ α) (key : κ) (value : α) :
    (table.insert key value).get? key = some value := by
  simp [insert]

theorem get?_insert_ne [DecidableEq κ] (table : Table κ α) {key other : κ} (value : α)
    (apart : other ≠ key) : (table.insert key value).get? other = table.get? other := by
  simp [insert, apart]

theorem get?_restrict [DecidableEq κ] (table : Table κ α) (keys : List κ) (key : κ) :
    (table.restrict keys).get? key = if key ∈ keys then table.get? key else none := rfl

theorem restrict_insert_of_mem [DecidableEq κ] (table : Table κ α) {keys : List κ} {key : κ}
    (value : α) (listed : key ∈ keys) :
    (table.insert key value).restrict keys = (table.restrict keys).insert key value := by
  ext1 other
  by_cases self : other = key
  · rw [self, get?_restrict, if_pos listed, get?_insert_self, get?_insert_self]
  · rw [get?_insert_ne _ _ self, get?_restrict, get?_restrict, get?_insert_ne _ _ self]

theorem restrict_insert_of_notMem [DecidableEq κ] (table : Table κ α) {keys : List κ} {key : κ}
    (value : α) (unlisted : key ∉ keys) :
    (table.insert key value).restrict keys = table.restrict keys := by
  ext1 other
  rw [get?_restrict, get?_restrict]
  split
  · rename_i member
    exact get?_insert_ne _ _ fun self => unlisted (self ▸ member)
  · rfl

end Table

end RepairMining
