import SourceExcerpt.Text.Utf8
/-! Paths with slashes. A path is written without empty and `.` components, and with `..` where
it was given, since what `..` leads to depends on the directories. Names and paths have a limit
on their bytes. -/
namespace SourceExcerpt.Command
open Text

def splitAt (separator : Char) : Text → List Text
  | [] => [[]]
  | c :: rest =>
    if c = separator then [] :: splitAt separator rest
    else match splitAt separator rest with
      | [] => [[c]]
      | piece :: pieces => (c :: piece) :: pieces

/-- `lead` holds the slashes of an absolute path: two are kept, any other number is one. -/
structure Path where
  lead : Text
  names : List Text
  deriving DecidableEq, Repr

namespace Path

def ofText (text : Text) : Path where
  lead := match (text.takeWhile (· = '/')).length with
    | 0 => []
    | 2 => ['/', '/']
    | _ => ['/']
  names := (splitAt '/' text).filter fun name => name ≠ [] ∧ name ≠ ['.']

def render (p : Path) : Text :=
  if p.lead = [] ∧ p.names = [] then ['.']
  else p.lead ++ List.intercalate ['/'] p.names

def onward (p : Path) (names : List Text) : Path := { p with names := p.names ++ names }

def nameLimit : Nat := 255

def lengthLimit : Nat := 4095

def nameTooLong (name : Text) : Bool := nameLimit < Utf8.size name

def isTooLong (p : Path) : Bool := lengthLimit < Utf8.size p.render

end Path
end SourceExcerpt.Command
