import QueryMigration.Placeholder.Numbering
import QueryMigration.BooleanLiteral
import QueryMigration.DataCall
import QueryMigration.Declaration

/-! Passes over a text, one on the output of the other, and how many lines each changes. -/

namespace QueryMigration

open Text

/-- The number of places at which two lists of lines differ. A line without a counterpart differs. -/
def differing : List Text → List Text → Nat
  | [], after => after.length
  | before, [] => before.length
  | a :: before, b :: after => (if a = b then 0 else 1) + differing before after

def changedLines (before after : Text) : Nat := differing (lines before) (lines after)

structure Pass where
  name : String
  apply : Text → Text

namespace Pass

def placeholders : Pass := ⟨"placeholders", Placeholder.number⟩

def booleans : Pass := ⟨"booleans", BooleanLiteral.normalize⟩

def await : Pass := ⟨"await", DataCall.await⟩

def async : Pass := ⟨"async", Declaration.promote⟩

def migration : List Pass := [placeholders, booleans, await, async]

def named? (name : String) : Option Pass := migration.find? (·.name == name)

structure Stage where
  name : String
  changed : Nat
  text : Text

def output (passes : List Pass) (t : Text) : Text := passes.foldl (fun t p => p.apply t) t

def stages : List Pass → Text → List Stage
  | [], _ => []
  | p :: passes, t =>
    let out := p.apply t
    ⟨p.name, changedLines t out, out⟩ :: stages passes out

def rounds (passes : List Pass) : Nat → Text → List (List Stage × Text)
  | 0, _ => []
  | n + 1, t =>
    let out := output passes t
    (stages passes t, out) :: rounds passes n out

theorem length_stages (passes : List Pass) (t : Text) :
    (stages passes t).length = passes.length := by
  induction passes generalizing t with
  | nil => rfl
  | cons p passes ih => simp [stages, ih]

end Pass

end QueryMigration
