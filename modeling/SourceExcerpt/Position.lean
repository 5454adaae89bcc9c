import SourceExcerpt.Text.Decimal
/-! Zero-based line and column of an offset. The column counts from the start of the line, and
with that a carriage return at its end, which is not shown. -/
namespace SourceExcerpt
open Text

structure Position where
  line : Int
  column : Int
  deriving DecidableEq, Repr

namespace Position

instance : LT Position := ⟨fun a b => a.line < b.line ∨ a.line = b.line ∧ a.column < b.column⟩
instance : LE Position := ⟨fun a b => a.line < b.line ∨ a.line = b.line ∧ a.column ≤ b.column⟩
instance (a b : Position) : Decidable (a < b) := inferInstanceAs (Decidable (_ ∨ _))
instance (a b : Position) : Decidable (a ≤ b) := inferInstanceAs (Decidable (_ ∨ _))

theorem ltDef (a b : Position) :
    a < b ↔ a.line < b.line ∨ a.line = b.line ∧ a.column < b.column := Iff.rfl

theorem ltIrrefl (p : Position) : ¬ p < p := by
  rw [ltDef]
  omega

theorem ltAsymm {a b : Position} (less : a < b) : ¬ b < a := by
  rw [ltDef] at *
  omega

def relations (a b : Position) : List Bool := [a = b, a < b, a ≤ b, b < a, b ≤ a]

def sorted (points : List Position) : List Position :=
  points.mergeSort fun a b => decide (a ≤ b)

def greatest : List Position → Option Position
  | [] => none
  | first :: rest => some (rest.foldl (fun best p => if best < p then p else best) first)

def render (p : Position) : Text :=
  "LineColumn(line=".toList ++ Decimal.render p.line ++ ", column=".toList ++
    Decimal.render p.column ++ ")".toList

end Position
end SourceExcerpt
