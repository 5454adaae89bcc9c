import SourceExcerpt.Command.Dump
import SourceExcerpt.Command.Survey
/-! The two commands on the files of this machine. The first argument names the command. All
that is decided is decided by the commands; here files are read and texts are printed. -/
namespace SourceExcerpt.Command

def shown (t : Text) : String := String.ofList t

def onDisk (place : List Text) : String := shown (Path.render ⟨['/'], place⟩)

partial def gather (place : List Text) : IO (List Entry) := do
  let mut entries := []
  for entry in ← ((← IO.currentDir) / onDisk place).readDir do
    let inner := place ++ [entry.fileName.toList]
    if ← entry.path.isDir then
      entries := entries ++ [⟨inner, none⟩] ++ (← gather inner)
    else
      entries := entries ++ [⟨inner, some (← IO.FS.readBinFile entry.path).toList⟩]
  return entries

def kindAt (path : Path) : IO (Except DeadEnd IO.FS.FileType) := do
  match ← ((← IO.currentDir) / shown path.render).metadata.toBaseIO with
  | .ok found => return .ok found.type
  | .error (.invalidArgument _ _ "name too long") => return .error .tooLong
  | .error _ => return .error .nothing

def dumpOutcome (arguments : List Text) : IO Outcome := do
  match Dump.request arguments with
  | .error halt => return Outcome.halted Dump.program halt
  | .ok r =>
    match ← kindAt r.path with
    | .ok .file =>
      return Dump.report r (← IO.FS.readBinFile ((← IO.currentDir) / shown r.path.render)).toList
    | .ok _ => return Dump.unread r .nothing
    | .error e => return Dump.unread r e

def surveyOutcome (arguments : List Text) : IO Outcome := do
  match Survey.request arguments with
  | .error halt => return Outcome.halted Survey.program halt
  | .ok r =>
    match ← kindAt r.root with
    | .ok .dir =>
      let working := (Path.ofText (← IO.currentDir).toString.toList).names
      let root ← IO.FS.realPath ((← IO.currentDir) / shown r.root.render)
      let place := (Path.ofText root.toString.toList).names
      let entries ← gather (place.take (place.length - Survey.climbs r))
      return Survey.report r ⟨working, entries⟩ place
    | .ok _ => return Survey.unopened r .nothing
    | .error e => return Survey.unopened r e

def finish (o : Outcome) : IO UInt32 := do
  IO.print (shown o.output)
  IO.eprint (shown o.errors)
  match o.ending with
  | .exit code => return UInt32.ofNat code
  | .trouble t =>
    IO.eprintln (shown t.message)
    return 1

end SourceExcerpt.Command

def main (args : List String) : IO UInt32 := do
  match args with
  | "dump" :: rest =>
    SourceExcerpt.Command.finish (← SourceExcerpt.Command.dumpOutcome (rest.map String.toList))
  | "survey" :: rest =>
    SourceExcerpt.Command.finish (← SourceExcerpt.Command.surveyOutcome (rest.map String.toList))
  | _ =>
    IO.eprintln "expected dump or survey, and its arguments"
    return 2
