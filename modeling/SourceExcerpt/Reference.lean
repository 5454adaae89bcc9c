import SourceExcerpt.Position
import SourceExcerpt.Text.Quoted
/-! The record that is shown for a location: a message, and as much of the source as is
known. -/
namespace SourceExcerpt
open Text

/-- Extraction keeps `start` and `stop` from lying past the end of `text`; it does not bound them
from below, nor put them in order. Without a source name only the message means something; with a
name and no text there is nothing to show. -/
structure Reference where
  message : Text
  sourceName : Option Text := none
  position : Option Position := none
  multiline : Bool := false
  text : Text := []
  start : Int := 0
  stop : Int := 0
  deriving DecidableEq, Repr

namespace Reference

def messageOnly (message : Text) (sourceName : Option Text) : Reference :=
  { message, sourceName }

def isMessageOnly (r : Reference) : Bool := r = messageOnly r.message r.sourceName

def hasExcerpt (r : Reference) : Bool := !r.text.isEmpty

def flagged (r : Reference) : Text := r.text.slice r.start r.stop

def nameText (r : Reference) : Text := Quoted.quotedOr "None".toList r.sourceName

def positionText (r : Reference) : Text :=
  match r.position with
  | none => "None".toList
  | some p => p.render

def truthText (b : Bool) : Text := if b then "True".toList else "False".toList

def columnsText (r : Reference) : Text :=
  "(".toList ++ Decimal.render r.start ++ ",".toList ++ Decimal.render r.stop ++ ")".toList

def fields (r : Reference) : List Text :=
  ["message=".toList ++ Quoted.quoted r.message,
    "source_name=".toList ++ r.nameText,
    "position=".toList ++ r.positionText,
    "multiline=".toList ++ truthText r.multiline,
    "text=".toList ++ Quoted.quoted r.text,
    "columns=".toList ++ r.columnsText] ++
  if r.hasExcerpt then ["flagged=".toList ++ Quoted.quoted r.flagged] else []

theorem fieldsLength (r : Reference) : r.fields.length = if r.hasExcerpt then 7 else 6 := by
  unfold fields; split <;> rfl

def listing (r : Reference) : Text := List.intercalate ['\n'] r.fields

def render (r : Reference) : Text :=
  "SourceReference(message=".toList ++ Quoted.quoted r.message ++
    ", source_name=".toList ++ r.nameText ++
    ", position=".toList ++ r.positionText ++
    ", multiline=".toList ++ truthText r.multiline ++
    ", text=".toList ++ Quoted.quoted r.text ++
    ", start_column=".toList ++ Decimal.render r.start ++
    ", end_column=".toList ++ Decimal.render r.stop ++ ")".toList

end Reference
end SourceExcerpt
