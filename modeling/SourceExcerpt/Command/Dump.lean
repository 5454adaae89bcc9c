import SourceExcerpt.Command.FileTree
import SourceExcerpt.Command.Outcome
import SourceExcerpt.Extraction
/-! The command that prints the reference for a range of a file. The file is looked for first,
then read as UTF-8 with its line ends made newlines, then the range is checked, then the
offsets. -/
namespace SourceExcerpt.Command
open Text

namespace Dump

def program : Text := "dump_reference.py".toList

def grammar : Grammar where
  operand := "path".toList
  switches := [helpSwitch,
    { names := ["--start".toList], demand := .integer, required := true },
    { names := ["--end".toList], demand := .integer },
    { names := ["--message".toList], demand := .text },
    { names := ["--max-width".toList], demand := .integer },
    { names := ["--context".toList], demand := .integer },
    { names := ["-v".toList, "--verbose".toList], demand := .nothing }]

/-- A number or text that was given blank is none. -/
structure Request where
  path : Path
  start : Option Int
  stop : Option Int
  message : Option Text
  maxWidth : Option Int
  context : Option Int
  verbose : Bool
  deriving DecidableEq, Repr

def request (arguments : List Text) : Except Halt Request := do
  let (operand, settings) ← grammar.parse arguments
  let start := settings.integer "--start".toList none
  return {
    path := Path.ofText operand
    start
    stop := settings.integer "--end".toList start
    message := settings.text "--message".toList []
    maxWidth := settings.integer "--max-width".toList (some Limits.standard.maxWidth)
    context := settings.integer "--context".toList (some Limits.standard.context)
    verbose := settings.isPresent "--verbose".toList }

def channel : Text := "DEBUG:sourceref.reference.extractor:".toList

def logLines (events : List Event) : Text :=
  events.flatMap fun event => Outcome.line (channel ++ event.render)

/- A bound below zero is found before a second bound that is blank is asked for. -/
def span (r : Request) : Except Trouble Span :=
  match r.start, r.stop with
  | some start, some stop => (Span.ofBounds start stop).mapError .fault
  | some start, none => if start < 0 then .error (.fault .negativeBound) else .error (.blank .below)
  | none, _ => .error (.blank .below)

def wanted (r : Request) (s : Sighting) : Option Use :=
  match r.maxWidth, r.context with
  | none, _ => some .atMost
  | some _, some _ => none
  | some maxWidth, none =>
    if maxWidth < s.marked.stop - s.marked.start then some .added
    else if maxWidth < s.marked.text.length then some .below
    else none

def limits (r : Request) : Limits :=
  { maxWidth := r.maxWidth.getD 0, context := r.context.getD 0 }

def extraction (r : Request) (text : Text) : Except Trouble Extraction := do
  let span ← span r
  let document := Document.ofText r.path.render text
  if document.hasText then
    match wanted r (← ((sight span).run document).1.mapError .fault) with
    | some use => throw (.blank use)
    | none => pure ()
  ((extractFrom (limits r) (r.message.getD []) span).run document).1.mapError .fault

def listing (r : Request) (reference : Reference) : Text :=
  match r.message with
  | some _ => reference.listing
  | none => List.intercalate ['\n'] (("message=".toList ++ Outcome.blank) :: reference.fields.tail)

/- A column may have more digits than any bound or limit it was made from, and then there is no
listing. -/
def listed (r : Request) (reference : Reference) : Outcome :=
  if Decimal.isShort reference.start ∧ Decimal.isShort reference.stop then
    Outcome.success (Outcome.line (listing r reference))
  else Outcome.troubled .numberTooLong

def report (r : Request) (bytes : Utf8.Bytes) : Outcome :=
  match Utf8.decode bytes with
  | .error f => Outcome.troubled (.undecodable f)
  | .ok text =>
    match extraction r (Lines.unify text) with
    | .error t => Outcome.troubled t
    | .ok e =>
      { listed r e.reference with errors := if r.verbose then logLines e.log else [] }

def unread (r : Request) : DeadEnd → Outcome
  | .nothing => Outcome.refused ("Not a file: ".toList ++ r.path.render)
  | .tooLong => Outcome.troubled (.pathTooLong r.path)

def run (tree : FileTree) (arguments : List Text) : Outcome :=
  match request arguments with
  | .error halt => Outcome.halted program halt
  | .ok r =>
    match tree.read r.path with
    | .error e => unread r e
    | .ok bytes => report r bytes

end Dump
end SourceExcerpt.Command
