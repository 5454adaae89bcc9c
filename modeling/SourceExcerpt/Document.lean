import SourceExcerpt.Position
import SourceExcerpt.Query
import SourceExcerpt.Span
import SourceExcerpt.Text.Lines
/-! A named text with an index of its lines. The index is taken of the text once, by the first
query that needs it, and is not taken again when the text changes. Offsets are checked against
the text as it is; an offset that fails the check does not make the index. -/
namespace SourceExcerpt
open Text

structure Document where
  name : Text
  text : Text
  index : Option (List Nat)
  deriving DecidableEq, Repr

namespace Document

def ofText (name text : Text) : Document := ⟨name, text, none⟩

def hasText (d : Document) : Bool := !d.text.isEmpty

def same (a b : Document) : Bool := a.name = b.name ∧ a.text = b.text

def render (d : Document) : Text :=
  "SourceText(name=".toList ++ Quoted.quoted d.name ++ ", text=".toList ++
    Quoted.quoted d.text ++ ")".toList

def starts (d : Document) : List Nat := d.index.getD (Lines.starts d.text)

def indexed (d : Document) : Document := { d with index := some d.starts }

@[simp] theorem ofTextText (name text : Text) : (ofText name text).text = text := rfl

@[simp] theorem ofTextStarts (name text : Text) : (ofText name text).starts = Lines.starts text :=
  rfl

theorem indexedTwice (d : Document) : d.indexed.indexed = d.indexed := rfl

def locate (starts : List Nat) (offset : Int) : Position :=
  let line := starts.countP (fun start : Nat => (start : Int) ≤ offset) - 1
  ⟨line, offset - starts.getD line 0⟩

def lineExtent (starts : List Nat) (size : Nat) (line : Nat) : Except Fault Span :=
  Span.ofBounds (starts.getD line 0)
    (match starts[line + 1]? with
      | some next => next - 1
      | none => size)

def checkOffset (offset : Int) : Query Document Unit := do
  let d ← Query.current
  if 0 ≤ offset ∧ offset ≤ d.text.length then return ()
  else Query.fail (.offsetOutside offset d.name d.text.length)

def lineStarts : Query Document (List Nat) := ⟨fun d => (.ok d.starts, d.indexed)⟩

def lineCount : Query Document Nat := do
  return (← lineStarts).length

def lineRange (line : Int) : Query Document Span := do
  let starts ← lineStarts
  let d ← Query.current
  if 0 ≤ line ∧ line < starts.length then
    Query.ofExcept (lineExtent starts d.text.length line.toNat)
  else Query.fail (.lineOutside line d.name starts.length)

def lineColumn (offset : Int) : Query Document Position := do
  checkOffset offset
  return locate (← lineStarts) offset

/- The line of an offset, without its end. The offset of a newline is on the line that the
newline ends. -/
def lineAt (offset : Int) : Query Document Text := do
  let position ← lineColumn offset
  let extent ← lineRange position.line
  return Lines.dropReturn (extent.sliceOf (← Query.current).text)

theorem checkOffsetRun (offset : Int) (d : Document) :
    (checkOffset offset).run d =
      (if 0 ≤ offset ∧ offset ≤ d.text.length then .ok ()
       else .error (.offsetOutside offset d.name d.text.length), d) := by
  rw [checkOffset, Query.bindOk (Query.currentRun d)]
  split <;> rfl

theorem lineStartsRun (d : Document) : lineStarts.run d = (.ok d.starts, d.indexed) := rfl

theorem lineColumnRun (offset : Int) (d : Document) :
    (lineColumn offset).run d =
      if 0 ≤ offset ∧ offset ≤ d.text.length then (.ok (locate d.starts offset), d.indexed)
      else (.error (.offsetOutside offset d.name d.text.length), d) := by
  have checked := checkOffsetRun offset d
  unfold lineColumn
  split
  · rename_i inside
    rw [if_pos inside] at checked
    rw [Query.bindOk checked, Query.bindOk (lineStartsRun d)]; rfl
  · rename_i outside
    rw [if_neg outside] at checked
    exact Query.bindError checked

theorem lineRangeRun (line : Int) (d : Document) :
    (lineRange line).run d =
      (if 0 ≤ line ∧ line < d.starts.length then lineExtent d.starts d.text.length line.toNat
       else .error (.lineOutside line d.name d.starts.length), d.indexed) := by
  rw [lineRange, Query.bindOk (lineStartsRun d), Query.bindOk (Query.currentRun _)]
  split <;> rfl

end Document
end SourceExcerpt
