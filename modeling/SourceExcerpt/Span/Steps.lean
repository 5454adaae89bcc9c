import SourceExcerpt.Span
/-! Runs of span operations on one current span. A step that fails leaves the current span as
it was. -/
namespace SourceExcerpt.Span
open Text

inductive Step where
  | new (start stop : Int)
  | ofLength (offset length : Int)
  | emptyAt (offset : Int)
  | shift (delta : Int)
  | cover (start stop : Int)
  | compare (start stop : Int)
  | length
  | isEmpty
  | bounds
  | contains (offset : Int)
  | containsInclusive (offset : Int)
  | render
  deriving DecidableEq, Repr

inductive Answer where
  | done
  | number (n : Int)
  | verdict (b : Bool)
  | pair (start stop : Int)
  | relations (answers : List Bool)
  | text (t : Text)
  deriving DecidableEq, Repr

inductive Refusal where
  | noSpan
  | fault (f : Fault)
  deriving DecidableEq, Repr

abbrev Outcome := Except Refusal Answer

def replace (current : Option Span) : Except Fault Span → Outcome × Option Span
  | .ok span => (.ok .done, some span)
  | .error f => (.error (.fault f), current)

def withCurrent (current : Option Span) (use : Span → Outcome × Option Span) :
    Outcome × Option Span :=
  match current with
  | none => (.error .noSpan, none)
  | some span => use span

def tell (current : Option Span) (answer : Span → Answer) : Outcome × Option Span :=
  withCurrent current fun span => (.ok (answer span), current)

def step (current : Option Span) : Step → Outcome × Option Span
  | .new start stop => replace current (ofBounds start stop)
  | .ofLength offset length => replace current (ofLength offset length)
  | .emptyAt offset => replace current (emptyAt offset)
  | .shift delta => withCurrent current fun span => replace current (span.shift delta)
  | .cover start stop => withCurrent current fun span =>
      replace current ((ofBounds start stop).map span.cover)
  | .compare start stop => withCurrent current fun span =>
      match ofBounds start stop with
      | .ok other => (.ok (.relations (span.relations other)), current)
      | .error f => (.error (.fault f), current)
  | .length => tell current fun span => .number span.length
  | .isEmpty => tell current fun span => .verdict span.isEmpty
  | .bounds => tell current fun span => .pair span.start span.stop
  | .contains offset => tell current fun span => .verdict (span.contains offset)
  | .containsInclusive offset => tell current fun span => .verdict (span.containsInclusive offset)
  | .render => tell current fun span => .text span.render

theorem stepError {current : Option Span} {s : Step} {r : Refusal} {next : Option Span}
    (h : step current s = (.error r, next)) : next = current := by
  have replaced : ∀ result, replace current result = (.error r, next) → next = current := by
    intro result he
    cases result <;> simp [replace] at he
    exact he.2.symm
  cases current with
  | none => cases s <;> first | exact replaced _ h | (cases h; rfl)
  | some span =>
    cases s with
    | compare start stop =>
      simp only [step, withCurrent] at h
      split at h <;> cases h
      rfl
    | _ => first | exact replaced _ h | cases h

def run (current : Option Span) : List Step → List (Outcome × Option Span)
  | [] => []
  | s :: rest => step current s :: run (step current s).2 rest

end SourceExcerpt.Span
