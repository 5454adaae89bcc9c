import SourceExcerpt.Command.Path
/-! Patterns for the names of files at any depth. In one name a star stands for any run of
characters, a question mark for one character and brackets for one of a set; case counts, and a
leading dot is a character like any other. Slashes separate the names of nested directories,
and a name of two stars stands for any number of them. -/
namespace SourceExcerpt.Command

inductive Glyph where
  | exactly (c : Char)
  | one
  | run
  | oneOf (negated : Bool) (ranges : List (Char × Char))
  deriving DecidableEq, Repr

/-- The pieces of a bracketed text around the hyphens that make ranges. A hyphen makes one if at
least so many characters stand before it, which is two after another range; at the very end it
is a character. -/
def pieces : Nat → Text → List Text
  | _, [] => [[]]
  | 0, ['-'] => [['-']]
  | 0, '-' :: rest => [] :: pieces 2 rest
  | before, c :: rest =>
    match pieces (before - 1) rest with
    | [] => [[c]]
    | piece :: others => (c :: piece) :: others

def ordered : List Text → List Text
  | [] => []
  | piece :: rest =>
    match ordered rest with
    | [] => [piece]
    | next :: others =>
      match piece.getLast?, next.head? with
      | some low, some high =>
        if high < low then (piece.dropLast ++ next.drop 1) :: others else piece :: next :: others
      | _, _ => piece :: next :: others

inductive SetMark where
  | member (c : Char)
  | upTo
  deriving DecidableEq, Repr

def setMarks (body : Text) : List SetMark :=
  let first := if body.head? = some '!' then 2 else 1
  List.intercalate [.upTo] ((ordered (pieces first body)).map fun piece => piece.map .member)

def ranges : List SetMark → List (Char × Char)
  | [] => []
  | .member low :: .upTo :: .member high :: rest => (low, high) :: ranges rest
  | .member c :: rest => (c, c) :: ranges rest
  | .upTo :: rest => ('-', '-') :: ranges rest

/- An exclamation mark in front negates the set. It may have come there by the loss of a range,
and may be all that is left; any character is meant then. -/
def setGlyph (body : Text) : Glyph :=
  match setMarks body with
  | [.member '!'] => .one
  | .member '!' :: rest => .oneOf true (ranges rest)
  | marks => .oneOf false (ranges marks)

/- The set after an opening bracket and what follows it. A closing bracket that comes first
is a member. -/
def bracketed (text : Text) : Option (Glyph × Text) :=
  let lead := if text.head? = some '!' then 1 else 0
  let lead := if (text.drop lead).head? = some ']' then lead + 1 else lead
  let rest := text.drop lead
  match rest.dropWhile (· ≠ ']') with
  | [] => none
  | _ :: after => some (setGlyph (text.take lead ++ rest.takeWhile (· ≠ ']')), after)

/- `fuel` bounds the number of glyphs; the length of the text is enough. -/
def glyphsWithin : Nat → Text → List Glyph
  | 0, _ => []
  | _, [] => []
  | fuel + 1, c :: rest =>
    if c = '*' then .run :: glyphsWithin fuel rest
    else if c = '?' then .one :: glyphsWithin fuel rest
    else if c = '[' then
      match bracketed rest with
      | some (set, after) => set :: glyphsWithin fuel after
      | none => .exactly c :: glyphsWithin fuel rest
    else .exactly c :: glyphsWithin fuel rest

def glyphs (text : Text) : List Glyph := glyphsWithin text.length text

def Glyph.accepts : Glyph → Char → Bool
  | .exactly c, d => c = d
  | .one, _ => true
  | .run, _ => true
  | .oneOf negated ranges, d =>
    negated != ranges.any fun range => range.1.toNat ≤ d.toNat && d.toNat ≤ range.2.toNat

def anyLater : List Bool → List Bool
  | [] => []
  | here :: rest =>
    let later := anyLater rest
    (here || later.headD false) :: later

theorem anyLaterLength (answers : List Bool) : (anyLater answers).length = answers.length := by
  induction answers with
  | nil => rfl
  | cons here rest ih => simp [anyLater, ih]

theorem anyLaterHead (answers : List Bool) : (anyLater answers).headD false = answers.any id := by
  induction answers with
  | nil => rfl
  | cons here rest ih => rw [anyLater, List.headD_cons, ih]; rfl

/-- For every tail of a name, the name itself first, whether the glyphs match it. -/
def tailMatches : List Glyph → Text → List Bool
  | [], name => name.map (fun _ => false) ++ [true]
  | .run :: rest, name => anyLater (tailMatches rest name)
  | g :: rest, name =>
    let onward := (tailMatches rest name).tail
    List.zipWith (fun c matched => g.accepts c && matched) name onward ++ [false]

def matchesName (glyphs : List Glyph) (name : Text) : Bool := (tailMatches glyphs name).headD false

theorem tailMatchesLength (glyphs : List Glyph) (name : Text) :
    (tailMatches glyphs name).length = name.length + 1 := by
  induction glyphs with
  | nil => simp [tailMatches]
  | cons g rest ih =>
    cases g <;> simp [tailMatches, anyLaterLength, ih]

theorem tailMatchesTail (glyphs : List Glyph) (c : Char) (name : Text) :
    (tailMatches glyphs (c :: name)).tail = tailMatches glyphs name := by
  induction glyphs with
  | nil => rfl
  | cons g rest ih =>
    have whole := tailMatchesLength rest (c :: name)
    have tails := tailMatchesLength rest name
    rcases long : tailMatches rest (c :: name) with _ | ⟨matched, others⟩
    · simp [long] at whole
    · rw [long, List.tail_cons] at ih
      subst ih
      rcases short : tailMatches rest name with _ | ⟨next, others⟩
      · simp [short] at tails
      · cases g <;> simp [tailMatches, anyLater, long, short]

theorem matchesNothing (name : Text) : matchesName [] name = name.isEmpty := by
  cases name <;> rfl

theorem matchesRun (rest : List Glyph) (name : Text) :
    matchesName (.run :: rest) name = (tailMatches rest name).any id :=
  anyLaterHead _

theorem matchesOne {g : Glyph} (h : g ≠ .run) (rest : List Glyph) (c : Char) (name : Text) :
    matchesName (g :: rest) (c :: name) = (g.accepts c && matchesName rest name) := by
  have whole := tailMatchesLength rest name
  have tails := tailMatchesTail rest c name
  rcases short : tailMatches rest name with _ | ⟨matched, others⟩
  · simp [short] at whole
  · cases g <;> simp_all [matchesName, tailMatches]

/-- One name of a pattern. What holds no star, question mark or bracket is a name as it is
written; of these `..` leads to the directory above. `here` leads nowhere else, but what comes
before it has to be a directory. -/
inductive Level where
  | here
  | anyDepth
  | exactly (name : Text)
  | like (glyphs : List Glyph)
  deriving DecidableEq, Repr

inductive PatternFault where
  | absolute
  | starsInName
  deriving DecidableEq, Repr

def PatternFault.message : PatternFault → Text
  | .absolute => "Non-relative patterns are unsupported".toList
  | .starsInName => "Invalid pattern: '**' can only be an entire path component".toList

structure Pattern where
  levels : List Level
  deriving DecidableEq, Repr

namespace Pattern

def twoStars : Text → Bool
  | '*' :: '*' :: _ => true
  | _ :: rest => twoStars rest
  | [] => false

def isWild (c : Char) : Bool := c = '*' || c = '?' || c = '['

def level (text : Text) : Except PatternFault Level :=
  if text = ['*', '*'] then .ok .anyDepth
  else if twoStars text then .error .starsInName
  else if text.any isWild then .ok (.like (glyphs text))
  else .ok (.exactly text)

def ofText (text : Text) : Except PatternFault Pattern := do
  let path := Path.ofText text
  if path.lead ≠ [] then throw .absolute
  let levels ← path.names.mapM level
  return ⟨if text.getLast? = some '/' then levels ++ [.here] else levels⟩

end Pattern
end SourceExcerpt.Command
