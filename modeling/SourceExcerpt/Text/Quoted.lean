import SourceExcerpt.Text.Printable
/-! Text in quotes, on one line. The quote is an apostrophe, or a double quote when the text
holds an apostrophe and no double quote. A backslash and the quote in use are escaped by a
backslash, tab, newline and carriage return by letter, and every other code point without a
printed form by its number in hexadecimal digits of fixed width. -/
namespace SourceExcerpt.Text.Quoted

def apostrophe : Char := '\x27'
def doubleQuote : Char := '\x22'
def backslash : Char := '\x5c'

def quoteFor (text : Text) : Char :=
  if apostrophe ∈ text ∧ doubleQuote ∉ text then doubleQuote else apostrophe

def hexDigit (n : Nat) : Char :=
  if n < 10 then Char.ofNat (48 + n) else Char.ofNat (87 + n)

def hex : Nat → Nat → Text
  | 0, _ => []
  | width + 1, n => hex width (n / 16) ++ [hexDigit (n % 16)]

theorem hexLength (width n : Nat) : (hex width n).length = width := by
  induction width generalizing n with
  | zero => rfl
  | succ width ih => simp [hex, ih]

def byNumber (c : Char) : Text :=
  if c.toNat < 0x100 then 'x' :: hex 2 c.toNat
  else if c.toNat < 0x10000 then 'u' :: hex 4 c.toNat
  else 'U' :: hex 8 c.toNat

def escape (quote c : Char) : Text :=
  if c = backslash ∨ c = quote then [backslash, c]
  else if c = '\t' then [backslash, 't']
  else if c = '\n' then [backslash, 'n']
  else if c = '\r' then [backslash, 'r']
  else if Printable.isPrintable c then [c]
  else backslash :: byNumber c

theorem escapeCases (quote c : Char) :
    (c = backslash ∨ c = quote) ∧ escape quote c = [backslash, c] ∨
    c = '\t' ∧ escape quote c = [backslash, 't'] ∨
    c = '\n' ∧ escape quote c = [backslash, 'n'] ∨
    c = '\r' ∧ escape quote c = [backslash, 'r'] ∨
    c ≠ backslash ∧ c ≠ '\n' ∧ escape quote c = [c] ∨
    escape quote c = backslash :: byNumber c := by
  unfold escape
  repeat' split
  all_goals simp_all

def enclose (quote : Char) (text : Text) : Text :=
  quote :: text.flatMap (escape quote) ++ [quote]

def quoted (text : Text) : Text := enclose (quoteFor text) text

def quotedOr (absent : Text) : Option Text → Text
  | none => absent
  | some text => quoted text

end SourceExcerpt.Text.Quoted
