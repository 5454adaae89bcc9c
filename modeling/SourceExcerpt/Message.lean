import SourceExcerpt.Diagnostic
import SourceExcerpt.Extraction
/-! Failures and diagnostics made ready for printing: a category, the reference for the place
of the failure, and one for every note. -/
namespace SourceExcerpt
open Text

structure Message where
  primary : Reference
  category : Text
  secondary : List Reference := []
  id : Option Text := none
  deriving DecidableEq, Repr

namespace Message

def referenceTo [Buffer σ] (limits : Limits) (message : Text) (location : Option Location) :
    Query (Store σ) Reference := do
  return (← extract limits message location).reference

def ofFailure [Buffer σ] (limits : Limits) (category : Text) (f : Failure) :
    Query (Store σ) Message := do
  let primary ← referenceTo limits f.message f.location
  let secondary ← Query.each (fun (note : Note) => referenceTo limits note.message note.location)
    (f.notes.getD [])
  return { primary, category, secondary }

def categoryOf (d : Diagnostic) : Text :=
  if d.isWarning then "Warning".toList else "Error".toList

def ofDiagnostic [Buffer σ] (limits : Limits) (d : Diagnostic) : Query (Store σ) Message := do
  let message ← ofFailure limits (categoryOf d) d.toFailure
  return { message with id := some d.id }

def ofDiagnostics [Buffer σ] (limits : Limits) (ds : List Diagnostic) :
    Query (Store σ) (List Message) :=
  Query.each (ofDiagnostic limits) ds

def render (m : Message) : Text :=
  "Message(primary=".toList ++ m.primary.render ++ ", category=".toList ++
    Quoted.quoted m.category ++ ", secondary=".toList ++ secondaryText m.secondary ++
    ", error_id=".toList ++ Quoted.quotedOr "None".toList m.id ++ ")".toList
where
  secondaryText : List Reference → Text
    | [] => "()".toList
    | [r] => "(".toList ++ r.render ++ ",)".toList
    | rs => "(".toList ++ List.intercalate ", ".toList (rs.map Reference.render) ++ ")".toList

end Message
end SourceExcerpt
