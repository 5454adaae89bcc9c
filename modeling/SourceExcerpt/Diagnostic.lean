import SourceExcerpt.Location
/-! Errors and warnings of a compiler, with the places in source that they are about. -/
namespace SourceExcerpt
open Text

inductive Kind where
  | codeGenerationError
  | declarationError
  | docstringParsingError
  | parserError
  | typeError
  | syntaxError
  | warning
  deriving DecidableEq, Repr

inductive Severity where
  | error
  | warning
  deriving DecidableEq, Repr

namespace Kind

def all : List Kind :=
  [codeGenerationError, declarationError, docstringParsingError, parserError, typeError,
    syntaxError, warning]

def display : Kind → Text
  | codeGenerationError => "CodeGenerationError".toList
  | declarationError => "DeclarationError".toList
  | docstringParsingError => "DocstringParsingError".toList
  | parserError => "ParserError".toList
  | typeError => "TypeError".toList
  | syntaxError => "SyntaxError".toList
  | warning => "Warning".toList

def constantName : Kind → Text
  | codeGenerationError => "CODE_GENERATION_ERROR".toList
  | declarationError => "DECLARATION_ERROR".toList
  | docstringParsingError => "DOCSTRING_PARSING_ERROR".toList
  | parserError => "PARSER_ERROR".toList
  | typeError => "TYPE_ERROR".toList
  | syntaxError => "SYNTAX_ERROR".toList
  | warning => "WARNING".toList

def ofDisplay (value : Text) : Except Fault Kind :=
  match all.find? fun k => k.display = value with
  | some k => .ok k
  | none => .error (.unknownKind value)

theorem ofDisplayExact {value : Text} {k : Kind} : ofDisplay value = .ok k ↔ value = k.display := by
  constructor
  · intro found
    unfold ofDisplay at found
    split at found
    · rename_i other among
      cases found
      have shown := List.find?_some among
      exact (of_decide_eq_true shown).symm
    · cases found
  · rintro rfl
    cases k <;> rfl

def isWarning (k : Kind) : Bool := k = warning

def severity (k : Kind) : Severity := if k.isWarning then .warning else .error

end Kind

def Severity.display : Severity → Text
  | .error => "error".toList
  | .warning => "warning".toList

structure Note where
  message : Text
  location : Option Location
  deriving DecidableEq, Repr

namespace Note

def append (notes : List Note) (messages : List Text) (location : Option Location) :
    List Note :=
  notes ++ messages.map fun message => ⟨message, location⟩

def appendEach (notes : List Note) (location : Option Location) :
    List (List Text) → List (List Note)
  | [] => []
  | messages :: rest =>
    let notes := append notes messages location
    notes :: appendEach notes location rest

end Note

/-- What went wrong in a stage of a compiler. Everything about it is optional, and no notes at
all differ from an empty list of them only in how they are counted. -/
structure Failure where
  comment : Option Text
  location : Option Location
  notes : Option (List Note)
  deriving DecidableEq, Repr

namespace Failure

def message (f : Failure) : Text := f.comment.getD []

def display (f : Failure) : Text := f.comment.getD "CompilerException".toList

def render (f : Failure) : Text :=
  "CompilerException(".toList ++ (f.comment.map Quoted.quoted).getD [] ++ ")".toList

end Failure

structure Diagnostic extends Failure where
  id : Text
  kind : Kind
  deriving DecidableEq, Repr

namespace Diagnostic

def isWarning (d : Diagnostic) : Bool := d.kind.isWarning

def severity (d : Diagnostic) : Severity := d.kind.severity

def display (d : Diagnostic) : Text := d.comment.getD "CompilerError".toList

def render (d : Diagnostic) : Text :=
  "CompilerError(".toList ++ Quoted.quoted d.id ++ ", ".toList ++ d.kind.display ++
    ", ".toList ++ Quoted.quotedOr "None".toList d.comment ++ ")".toList

def collect (groups : List (List Diagnostic)) : List Diagnostic := groups.flatten

def containErrors (ds : List Diagnostic) : Bool := ds.any fun d => !d.isWarning

def onlyWarnings (ds : List Diagnostic) : Bool := ds.all isWarning

theorem containErrorsCollect (groups : List (List Diagnostic)) :
    containErrors (collect groups) = groups.any containErrors := by
  simp only [collect, containErrors, List.any_flatten]; rfl

theorem onlyWarningsCollect (groups : List (List Diagnostic)) :
    onlyWarnings (collect groups) = groups.all onlyWarnings := by
  simp only [collect, onlyWarnings, List.all_flatten]; rfl

end Diagnostic
end SourceExcerpt
