/-! Finite maps as lists of entries in the order in which their keys were first set. -/

namespace QueryMigration

/-- Entries of a finite map. The first entry of a key counts. -/
abbrev Entries (κ α : Type) := List (κ × α)

namespace Entries

variable {κ α : Type} [DecidableEq κ]

def get? (key : κ) : Entries κ α → Option α
  | [] => none
  | (k, v) :: rest => if key = k then some v else get? key rest

def set (key : κ) (value : α) : Entries κ α → Entries κ α
  | [] => [(key, value)]
  | (k, v) :: rest => if key = k then (k, value) :: rest else (k, v) :: set key value rest

def remove (key : κ) (entries : Entries κ α) : Entries κ α := entries.filter (·.1 ≠ key)

theorem get?_set (key other : κ) (value : α) (entries : Entries κ α) :
    get? other (set key value entries) =
      if other = key then some value else get? other entries := by
  induction entries with
  | nil => rfl
  | cons entry rest ih =>
    obtain ⟨k, v⟩ := entry
    by_cases hk : key = k <;> by_cases ho : other = key <;> simp_all [set, get?]

end Entries

end QueryMigration
