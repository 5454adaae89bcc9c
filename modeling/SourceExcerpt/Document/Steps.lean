import SourceExcerpt.Document
/-! Runs of queries and assignments on one document. -/
namespace SourceExcerpt.Document
open Text

inductive Step where
  | hasText
  | lineStarts
  | lineCount
  | lineRange (line : Int)
  | lineColumn (offset : Int)
  | lineAt (offset : Int)
  | setText (text : Text)
  | setName (name : Text)
  | same (name text : Text)
  | render
  deriving DecidableEq, Repr

inductive Answer where
  | done
  | verdict (b : Bool)
  | number (n : Nat)
  | offsets (starts : List Nat)
  | span (s : Span)
  | position (p : Position)
  | text (t : Text)
  deriving DecidableEq, Repr

def step : Step → Query Document Answer
  | .hasText => do return .verdict (← Query.current).hasText
  | .lineStarts => do return .offsets (← Document.lineStarts)
  | .lineCount => do return .number (← Document.lineCount)
  | .lineRange line => do return .span (← Document.lineRange line)
  | .lineColumn offset => do return .position (← Document.lineColumn offset)
  | .lineAt offset => do return .text (← Document.lineAt offset)
  | .setText text => ⟨fun d => (.ok .done, { d with text := text })⟩
  | .setName name => ⟨fun d => (.ok .done, { d with name := name })⟩
  | .same name text => do return .verdict ((← Query.current).same (ofText name text))
  | .render => do return .text (← Query.current).render

def run : List Step → Document → List (Except Fault Answer) × Document
  | [], d => ([], d)
  | s :: rest, d =>
    let (outcome, d) := (step s).run d
    let (outcomes, d) := run rest d
    (outcome :: outcomes, d)

theorem runAppend (first second : List Step) (d : Document) :
    run (first ++ second) d =
      ((run first d).1 ++ (run second (run first d).2).1, (run second (run first d).2).2) := by
  induction first generalizing d with
  | nil => rfl
  | cons s rest ih => simp [run, ih]

theorem runLength (steps : List Step) (d : Document) : (run steps d).1.length = steps.length := by
  induction steps generalizing d with
  | nil => rfl
  | cons s rest ih => simp [run, ih]

theorem outcomeAt (before : List Step) (s : Step) (after : List Step) (d : Document) :
    (run (before ++ s :: after) d).1[before.length]? =
      some ((step s).run (run before d).2).1 := by
  rw [runAppend]
  simp [runLength, run]

def Reachable (d : Document) : Prop :=
  ∃ name text steps, (run steps (ofText name text)).2 = d

end SourceExcerpt.Document
