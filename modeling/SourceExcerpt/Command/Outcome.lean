import SourceExcerpt.Command.Pattern
import SourceExcerpt.Command.Settings
import SourceExcerpt.Fault
import SourceExcerpt.Text.Utf8
/-! How a command ends, and what it prints on the way. -/
namespace SourceExcerpt.Command
open Text

/-- What was to be done with a number that was given blank: ask whether it is below another,
or above one, or whether another is at most it, or add it. -/
inductive Use where
  | below
  | above
  | atMost
  | added
  deriving DecidableEq, Repr

def Use.message : Use → Text
  | below => "'<' not supported between instances of 'list' and 'int'".toList
  | above => "'>' not supported between instances of 'int' and 'list'".toList
  | atMost => "'<=' not supported between instances of 'int' and 'list'".toList
  | added => "unsupported operand type(s) for +: 'int' and 'list'".toList

inductive Trouble where
  | fault (f : Fault)
  | undecodable (f : Utf8.DecodeFault)
  | pattern (f : PatternFault)
  | blank (use : Use)
  | numberTooLong
  | pathTooLong (path : Path)
  deriving DecidableEq, Repr

def Trouble.message : Trouble → Text
  | .fault f => f.message
  | .undecodable f => f.message
  | .pattern f => f.message
  | .blank use => use.message
  | .numberTooLong =>
    "Exceeds the limit (".toList ++ Decimal.digits Decimal.digitLimit ++
      " digits) for integer string conversion; ".toList ++
      "use sys.set_int_max_str_digits() to increase the limit".toList
  | .pathTooLong path => "[Errno 36] File name too long: ".toList ++ Quoted.quoted path.render

inductive Ending where
  | exit (code : Nat)
  | trouble (t : Trouble)
  deriving DecidableEq, Repr

structure Outcome where
  ending : Ending
  output : Text := []
  errors : Text := []
  deriving DecidableEq, Repr

namespace Outcome

def line (text : Text) : Text := text ++ ['\n']

def blank : Text := "[]".toList

def success (output : Text) : Outcome := { ending := .exit 0, output }

def refused (reason : Text) : Outcome := { ending := .exit 1, errors := line reason }

def troubled (t : Trouble) : Outcome := { ending := .trouble t }

/- The arguments were not understood, or help was asked for. What the help says is not part of
an outcome. -/
def halted (program : Text) : Halt → Outcome
  | .help => success []
  | .fault f =>
    { ending := .exit 2, errors := line (program ++ ": error: ".toList ++ f.message) }

end Outcome
end SourceExcerpt.Command
