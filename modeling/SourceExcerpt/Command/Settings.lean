import SourceExcerpt.Command.Grammar
import SourceExcerpt.Text.Decimal
/-! The settings that the arguments of a command line make. Arguments are taken from left to
right, an option with its value; a later setting of an option wins. What is missing is reported
before what is left over, and a fault met on the way before both. -/
namespace SourceExcerpt.Command
open Text

/-- A value written `--` is blank: the option counts as given, and has neither text nor number. -/
inductive Value where
  | present
  | blank
  | text (t : Text)
  | integer (n : Int)
  deriving DecidableEq, Repr

structure Settings where
  operand : Option Text := none
  values : List (Switch × Value) := []
  left : List Text := []
  deriving DecidableEq, Repr

namespace Settings

def value? (s : Settings) (name : Text) : Option Value :=
  (s.values.reverse.find? fun (switch, _) => name ∈ switch.names).map Prod.snd

def integer (s : Settings) (name : Text) (default : Option Int) : Option Int :=
  match s.value? name with
  | some (.integer n) => some n
  | some .blank => none
  | _ => default

def text (s : Settings) (name : Text) (default : Text) : Option Text :=
  match s.value? name with
  | some (.text t) => some t
  | some .blank => none
  | _ => some default

def isPresent (s : Settings) (name : Text) : Bool := (s.value? name).isSome

def put (s : Settings) (switch : Switch) (value : Value) : Settings :=
  { s with values := s.values ++ [(switch, value)] }

def setAside (s : Settings) (arguments : List Text) : Settings :=
  { s with left := s.left ++ arguments }

def assign (s : Settings) (switch : Switch) (value : Text) : Except Halt Settings :=
  if value = ['-', '-'] then .ok (s.put switch .blank)
  else match switch.demand with
    | .integer =>
      match Decimal.read value with
      | some n => .ok (s.put switch (.integer n))
      | none => .error (.fault (.notInteger switch value))
    | _ => .ok (s.put switch (.text value))

def turnOn (s : Settings) (switch : Switch) : Except Halt Settings :=
  if switch.demand = .help then .error .help else .ok (s.put switch .present)

def turnOnAll (s : Settings) : List Switch → Except Halt Settings
  | [] => .ok s
  | switch :: rest => do turnOnAll (← s.turnOn switch) rest

end Settings

/-- The options of one argument: those in front take no value, and the last has what is left of
the argument attached to it. -/
structure Cluster where
  front : List Switch
  last : Switch
  attached : Option Text
  deriving DecidableEq, Repr

/- Takes the text attached to an option apart. One that takes a value has all of it; one of a
single letter that takes none is followed by others. What is no option then, and any text that
is attached to an option written out, is ignored, which is a fault. -/
def Grammar.cluster (g : Grammar) (switch : Switch) (short : Bool) (attached : Text) :
    Except ArgumentFault Cluster :=
  if switch.takesValue then .ok ⟨[], switch, some attached⟩
  else match attached with
    | [] => .error (.valueIgnored switch [])
    | c :: rest =>
      match if short then g.switch? ['-', c] else none with
      | none => .error (.valueIgnored switch (c :: rest))
      | some next =>
        if rest = [] then .ok ⟨[switch], next, none⟩
        else do
          let more ← g.cluster next true rest
          return { more with front := switch :: more.front }

def Grammar.unfold (g : Grammar) (found : Found) : Except ArgumentFault Cluster :=
  match found.attached with
  | none => .ok ⟨[], found.switch, none⟩
  | some attached => g.cluster found.switch found.short attached

namespace Settings

/- Takes the tokens from left to right. A separator next to the operand goes with it; any other
is left over. A fault in a cluster, or in its last option's want of a value, comes before any of
it takes effect. -/
def take (g : Grammar) (s : Settings) : List Token → Except Halt Settings
  | [] => .ok s
  | .operand t :: rest =>
    if s.operand.isSome then take g (s.setAside [t]) rest
    else match rest with
      | .separator :: more => take g { s with operand := some t } more
      | more => take g { s with operand := some t } more
  | .separator :: rest =>
    if s.operand.isSome then take g (s.setAside [['-', '-']]) rest
    else match rest with
      | .operand t :: more => take g { s with operand := some t } more
      | more => take g (s.setAside [['-', '-']]) more
  | .option given none :: rest => take g (s.setAside [given]) rest
  | .option _ (some found) :: rest =>
    match g.unfold found with
    | .error f => .error (.fault f)
    | .ok ⟨front, last, some value⟩ => do
      take g (← (← s.turnOnAll front).assign last value) rest
    | .ok ⟨front, last, none⟩ =>
      if last.takesValue then
        match rest with
        | .operand value :: more => do take g (← (← s.turnOnAll front).assign last value) more
        | _ => .error (.fault (.valueExpected last))
      else do take g (← s.turnOnAll (front ++ [last])) rest

def missing (g : Grammar) (s : Settings) : List Text :=
  (if s.operand.isNone then [g.operand] else []) ++
    (g.switches.filter fun switch =>
      switch.required && s.values.all fun (set, _) => set ≠ switch).map Switch.title

end Settings

def Grammar.parse (g : Grammar) (arguments : List Text) : Except Halt (Text × Settings) := do
  let tokens ← match g.tokens arguments with
    | .ok tokens => pure tokens
    | .error f => throw (.fault f)
  let settings ← Settings.take g {} tokens
  match settings.operand, settings.missing g with
  | some operand, [] =>
    if settings.left = [] then return (operand, settings)
    else throw (.fault (.leftOver settings.left))
  | _, titles => throw (.fault (.missing titles))

end SourceExcerpt.Command
