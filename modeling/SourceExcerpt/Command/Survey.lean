import SourceExcerpt.Census
import SourceExcerpt.Command.Outcome
import SourceExcerpt.Command.Search
/-! The command that counts the references of every line of the files below a directory. Files
are read as UTF-8 with a replacement character for each bad part, and their line ends made
newlines. Counting again over the same documents gives the same counts, so the number of runs
is read and one run is made. -/
namespace SourceExcerpt.Command
open Text

namespace Survey

def program : Text := "time_extract.py".toList

def grammar : Grammar where
  operand := "root".toList
  switches := [helpSwitch,
    { names := ["--glob".toList], demand := .text },
    { names := ["--runs".toList], demand := .integer },
    { names := ["--no-progress".toList], demand := .nothing }]

structure Request where
  root : Path
  glob : Option Text
  runs : Option Int
  deriving DecidableEq, Repr

def request (arguments : List Text) : Except Halt Request := do
  let (operand, settings) ← grammar.parse arguments
  return {
    root := Path.ofText operand
    glob := settings.text "--glob".toList "*.sol".toList
    runs := settings.integer "--runs".toList (some 5) }

def climbs (r : Request) : Nat := ((Path.ofText (r.glob.getD [])).names).count ['.', '.']

def documentOf (name : Text) (bytes : Utf8.Bytes) : Document :=
  Document.ofText name (Lines.unify (Utf8.decodeLenient bytes))

def summary (files : Nat) (census : Census) : Text :=
  Outcome.line ("Files: ".toList ++ Decimal.digits files) ++
    Outcome.line ("References: ".toList ++ Decimal.digits census.references ++ " (".toList ++
      Decimal.digits census.truncated ++ " truncated)".toList)

def count (r : Request) (files : List (Path × Utf8.Bytes)) : Outcome :=
  let documents := files.map fun (path, bytes) => documentOf path.render bytes
  match r.runs, (Census.ofDocuments documents).1 with
  | none, _ => Outcome.troubled (.blank .above)
  | some _, .error f => Outcome.troubled (.fault f)
  | some _, .ok census => Outcome.success (summary files.length census)

def noFiles (r : Request) : Outcome :=
  Outcome.refused ("No ".toList ++ r.glob.getD Outcome.blank ++ " files found under ".toList ++
    r.root.render)

def report (r : Request) (tree : FileTree) (place : List Text) : Outcome :=
  match Pattern.ofText (r.glob.getD []) with
  | .error f => Outcome.troubled (.pattern f)
  | .ok pattern =>
    match tree.found r.root place pattern with
    | .error path => Outcome.troubled (.pathTooLong path)
    | .ok [] => noFiles r
    | .ok files => count r files

def unopened (r : Request) : DeadEnd → Outcome
  | .nothing => Outcome.refused ("Invalid root: ".toList ++ r.root.render)
  | .tooLong => Outcome.troubled (.pathTooLong r.root)

def run (tree : FileTree) (arguments : List Text) : Outcome :=
  match request arguments with
  | .error halt => Outcome.halted program halt
  | .ok r =>
    match tree.directory r.root with
    | .error e => unopened r e
    | .ok place => report r tree place

end Survey
end SourceExcerpt.Command
