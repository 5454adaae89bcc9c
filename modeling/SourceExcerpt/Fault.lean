import SourceExcerpt.Text.Decimal
import SourceExcerpt.Text.Quoted
/-! Everything that can be wrong with a request to the library, and how it is worded. What a
buffer that is no document has to say is passed on as it is. -/
namespace SourceExcerpt
open Text

inductive Fault where
  | negativeBound
  | crossedBounds
  | offsetOutside (offset : Int) (name : Text) (length : Nat)
  | lineOutside (line : Int) (name : Text) (count : Nat)
  | unknownKind (value : Text)
  | ofBuffer (message : Text)
  deriving DecidableEq, Repr

def outOfRange (what : Text) (value : Int) (name extent : Text) : Text :=
  what ++ " ".toList ++ Decimal.render value ++ " out of range for ".toList ++
    Quoted.quoted name ++ " (".toList ++ extent ++ ")".toList

def Fault.message : Fault → Text
  | .negativeBound => "TextRange positions cannot be negative".toList
  | .crossedBounds => "TextRange invariant violated: start > end".toList
  | .offsetOutside offset name length =>
    outOfRange "Offset".toList offset name ("length ".toList ++ Decimal.digits length)
  | .lineOutside line name count =>
    outOfRange "Line".toList line name (Decimal.digits count ++ " lines".toList)
  | .unknownKind value => Quoted.quoted value ++ " is not a valid ErrorType".toList
  | .ofBuffer message => message

end SourceExcerpt
