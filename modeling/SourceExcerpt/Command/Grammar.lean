import SourceExcerpt.Text.Quoted
/-! What arguments a command understands, one operand and any number of options, and what each
argument of a command line is, told on its own: `--` makes operands of all that follow it, an
option may be abbreviated as far as one long name starts with it, and what is written like a
negative number or holds a blank is an operand unless it names an option. -/
namespace SourceExcerpt.Command
open Text

inductive Demand where
  | nothing
  | text
  | integer
  | help
  deriving DecidableEq, Repr

structure Switch where
  names : List Text
  demand : Demand
  required : Bool := false
  deriving DecidableEq, Repr

namespace Switch

def takesValue (s : Switch) : Bool := s.demand = .text || s.demand = .integer

def title (s : Switch) : Text := List.intercalate ['/'] s.names

end Switch

inductive ArgumentFault where
  | ambiguous (given : Text) (candidates : List Text)
  | valueExpected (switch : Switch)
  | valueIgnored (switch : Switch) (value : Text)
  | notInteger (switch : Switch) (value : Text)
  | missing (titles : List Text)
  | leftOver (arguments : List Text)
  deriving DecidableEq, Repr

namespace ArgumentFault

def aboutSwitch (s : Switch) (what : Text) : Text :=
  "argument ".toList ++ s.title ++ ": ".toList ++ what

def commas (names : List Text) : Text := List.intercalate ", ".toList names

def message : ArgumentFault → Text
  | ambiguous given candidates =>
    "ambiguous option: ".toList ++ given ++ " could match ".toList ++ commas candidates
  | valueExpected s => aboutSwitch s "expected one argument".toList
  | valueIgnored s value =>
    aboutSwitch s ("ignored explicit argument ".toList ++ Quoted.quoted value)
  | notInteger s value => aboutSwitch s ("invalid int value: ".toList ++ Quoted.quoted value)
  | missing titles => "the following arguments are required: ".toList ++ commas titles
  | leftOver arguments =>
    "unrecognized arguments: ".toList ++ List.intercalate [' '] arguments

end ArgumentFault

inductive Halt where
  | help
  | fault (f : ArgumentFault)
  deriving DecidableEq, Repr

structure Grammar where
  operand : Text
  switches : List Switch
  deriving DecidableEq, Repr

def helpSwitch : Switch := ⟨["-h".toList, "--help".toList], .help, false⟩

/-- An option as it was found. `attached` is what was written with it, after an equals sign or
after its one letter. -/
structure Found where
  switch : Switch
  short : Bool
  attached : Option Text
  deriving DecidableEq, Repr

inductive Token where
  | operand (t : Text)
  | separator
  | option (given : Text) (found : Option Found)
  deriving DecidableEq, Repr

namespace Grammar

def named (g : Grammar) : List (Text × Switch) :=
  g.switches.flatMap fun s => s.names.map fun name => (name, s)

def switch? (g : Grammar) (name : Text) : Option Switch :=
  g.named.lookup name

def splitValue (text : Text) : Text × Option Text :=
  match text.dropWhile (· ≠ '=') with
  | [] => (text, none)
  | _ :: value => (text.takeWhile (· ≠ '='), some value)

def isShort : Text → Bool
  | '-' :: '-' :: _ => false
  | _ => true

def candidates (g : Grammar) (text : Text) : List (Text × Found) :=
  if isShort text then
    g.named.filterMap fun (name, s) =>
      if name = text.take 2 then some (name, ⟨s, true, some (text.drop 2)⟩)
      else if text.isPrefixOf name then some (name, ⟨s, isShort name, none⟩)
      else none
  else
    let (lead, value) := splitValue text
    g.named.filterMap fun (name, s) =>
      if lead.isPrefixOf name then some (name, ⟨s, isShort name, value⟩) else none

def isDigit (c : Char) : Bool := '0' ≤ c && c ≤ '9'

/-- A minus sign and digits, with at most one point that digits follow; one newline may end
it. -/
def looksNegative : Text → Bool
  | '-' :: rest =>
    let body := if rest.getLast? = some '\n' then rest.dropLast else rest
    match body.dropWhile isDigit with
    | [] => !body.isEmpty
    | '.' :: fraction => !fraction.isEmpty && fraction.all isDigit
    | _ => false
  | _ => false

def tell (g : Grammar) (text : Text) : Except ArgumentFault Token :=
  match text with
  | [] | ['-'] => .ok (.operand text)
  | '-' :: _ =>
    match g.switch? text with
    | some s => .ok (.option text (some ⟨s, isShort text, none⟩))
    | none =>
      let (name, value) := splitValue text
      match value.bind fun v => (g.switch? name).map fun s => (s, v) with
      | some (s, v) => .ok (.option text (some ⟨s, isShort name, some v⟩))
      | none =>
        match g.candidates text with
        | [(_, found)] => .ok (.option text (some found))
        | [] =>
          if looksNegative text || text.contains ' ' then .ok (.operand text)
          else .ok (.option text none)
        | many => .error (.ambiguous text (many.map Prod.fst))
  | _ => .ok (.operand text)

def tokens (g : Grammar) : List Text → Except ArgumentFault (List Token)
  | [] => .ok []
  | text :: rest =>
    if text = ['-', '-'] then .ok (.separator :: rest.map .operand)
    else do
      let token ← g.tell text
      let others ← tokens g rest
      return token :: others

end Grammar

end SourceExcerpt.Command
