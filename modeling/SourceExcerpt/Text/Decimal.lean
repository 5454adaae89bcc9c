import SourceExcerpt.Text.Slice
/-! Integers as decimal text. Writing gives the shortest form. Reading also takes blanks
around the number, a plus sign, leading zeros and single underscores between digits. -/
namespace SourceExcerpt.Text.Decimal

def digit (n : Nat) : Char := Char.ofNat (48 + n % 10)

def digits (n : Nat) : Text :=
  if n < 10 then [digit n] else digits (n / 10) ++ [digit n]

def render : Int → Text
  | .ofNat n => digits n
  | .negSucc n => '-' :: digits (n + 1)

def digitValue? (c : Char) : Option Nat :=
  if 48 ≤ c.toNat ∧ c.toNat ≤ 57 then some (c.toNat - 48) else none

theorem digitValue (n : Nat) : digitValue? (digit n) = some (n % 10) := by
  have every : ∀ m < 10, digitValue? (Char.ofNat (48 + m)) = some m := by decide
  exact every (n % 10) (Nat.mod_lt _ (by decide))

def readDigits : Text → Option (List Nat)
  | [] => none
  | [c] => (digitValue? c).map ([·])
  | c :: '_' :: rest => do
      let d ← digitValue? c
      let ds ← readDigits rest
      some (d :: ds)
  | c :: rest => do
      let d ← digitValue? c
      let ds ← readDigits rest
      some (d :: ds)

def value (ds : List Nat) : Nat := ds.foldl (fun n d => 10 * n + d) 0

theorem valueAppend (ds : List Nat) (d : Nat) : value (ds ++ [d]) = 10 * value ds + d := by
  simp [value]

/- More digits than this are neither read nor listed, as a guard against quadratic work. A sign
is no digit. -/
def digitLimit : Nat := 4300

def isShort (n : Int) : Bool := (digits n.natAbs).length ≤ digitLimit

def magnitude (text : Text) : Option Nat := do
  let ds ← readDigits text
  if ds.length ≤ digitLimit then some (value ds) else none

/- White space that may stand around a number. The information separators U+001C to
U+001F do not count. -/
def isBlank (c : Char) : Bool :=
  let n := c.toNat
  (9 ≤ n && n ≤ 13) || n == 0x20 || n == 0x85 || n == 0xA0 || n == 0x1680 ||
    (0x2000 ≤ n && n ≤ 0x200A) || n == 0x2028 || n == 0x2029 || n == 0x202F ||
    n == 0x205F || n == 0x3000

def trim (text : Text) : Text :=
  ((text.dropWhile isBlank).reverse.dropWhile isBlank).reverse

def read (text : Text) : Option Int :=
  match trim text with
  | '-' :: rest => (magnitude rest).map fun n => -(n : Int)
  | '+' :: rest => (magnitude rest).map fun n => (n : Int)
  | rest => (magnitude rest).map fun n => (n : Int)

end SourceExcerpt.Text.Decimal
