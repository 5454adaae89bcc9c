import Mathlib.Algebra.Group.Nat.Defs
import SourceExcerpt.Text.Decimal
import SourceExcerpt.Text.Quoted
/-! Quoted text and decimal integers can be read back. An escape says itself where it ends: after one
code point, or after as many digits as its letter stands for. So no two texts are quoted alike, and
what is quoted stays on one line. -/
namespace SourceExcerpt.Text

namespace Quoted

/-! Digits of fixed width. -/
def hexValue (c : Char) : Nat := if c.toNat < 58 then c.toNat - 48 else c.toNat - 87

def hexNumber (digits : Text) : Nat := digits.foldl (fun n c => 16 * n + hexValue c) 0

theorem hexDigitValue : ∀ n < 16, hexValue (hexDigit n) = n := by decide

theorem hexDigitPlain : ∀ n < 16, hexDigit n ≠ '\n' := by decide

theorem hexNumberOf {width n : Nat} (fits : n < 16 ^ width) : hexNumber (hex width n) = n := by
  induction width generalizing n with
  | zero =>
    rw [Nat.pow_zero, Nat.lt_one_iff] at fits
    rw [fits]
    rfl
  | succ width ih =>
    have last := hexDigitValue (n % 16) (Nat.mod_lt _ (by decide))
    have front := ih (n := n / 16) (by rw [Nat.pow_succ] at fits; omega)
    rw [hexNumber] at front
    rw [hexNumber, hex, List.foldl_append, front, List.foldl_cons, List.foldl_nil, last]
    omega

theorem hexPlain (width n : Nat) : '\n' ∉ hex width n := by
  induction width generalizing n with
  | zero => exact List.not_mem_nil
  | succ width ih =>
    rw [hex, List.mem_append, List.mem_singleton, not_or]
    exact ⟨ih (n / 16), (hexDigitPlain _ (Nat.mod_lt _ (by decide))).symm⟩

/-! The code point that is written first, and what is left. -/
def readNumber (width : Nat) (text : Text) : Char × Text :=
  (Char.ofNat (hexNumber (text.take width)), text.drop width)

def readMarked : Text → Option (Char × Text)
  | [] => none
  | 't' :: rest => some ('\t', rest)
  | 'n' :: rest => some ('\n', rest)
  | 'r' :: rest => some ('\r', rest)
  | 'x' :: rest => some (readNumber 2 rest)
  | 'u' :: rest => some (readNumber 4 rest)
  | 'U' :: rest => some (readNumber 8 rest)
  | c :: rest => some (c, rest)

def readEscaped : Text → Option (Char × Text)
  | [] => none
  | c :: rest => if c = backslash then readMarked rest else some (c, rest)

theorem numberRead (width : Nat) {c : Char} (fits : c.toNat < 16 ^ width) (rest : Text) :
    readNumber width (hex width c.toNat ++ rest) = (c, rest) := by
  have size := hexLength width c.toNat
  rw [readNumber, List.take_left' size, List.drop_left' size, hexNumberOf fits, Char.ofNat_toNat]

theorem byNumberRead (c : Char) (rest : Text) : readMarked (byNumber c ++ rest) = some (c, rest) := by
  have known : c.toNat < 16 ^ 8 := by
    have := c.valid
    simp only [UInt32.isValidChar, Nat.isValidChar] at this
    simp only [Char.toNat]
    omega
  unfold byNumber
  split
  · rename_i small
    exact congrArg some (numberRead 2 small rest)
  · split
    · rename_i middle
      exact congrArg some (numberRead 4 middle rest)
    · exact congrArg some (numberRead 8 known rest)

theorem byNumberPlain (c : Char) : '\n' ∉ byNumber c := by
  unfold byNumber
  repeat' split
  all_goals simp [hexPlain]

variable {quote : Char} (used : quote = apostrophe ∨ quote = doubleQuote)
include used

theorem escapeRead (c : Char) (rest : Text) :
    readEscaped (escape quote c ++ rest) = some (c, rest) := by
  rcases escapeCases quote c with ⟨marked, same⟩ | ⟨rfl, same⟩ | ⟨rfl, same⟩ | ⟨rfl, same⟩ |
    ⟨plain, _, same⟩ | same <;> rw [same]
  · rcases marked with rfl | rfl
    · rfl
    · rcases used with rfl | rfl <;> rfl
  · rfl
  · rfl
  · rfl
  · exact if_neg plain
  · exact byNumberRead c rest

theorem escapeLine (c : Char) : '\n' ∉ escape quote c := by
  rcases escapeCases quote c with ⟨marked, same⟩ | ⟨rfl, same⟩ | ⟨rfl, same⟩ | ⟨rfl, same⟩ |
    ⟨_, other, same⟩ | same <;> rw [same]
  · rcases marked with rfl | rfl
    · decide
    · rcases used with rfl | rfl <;> decide
  · decide
  · decide
  · decide
  · exact fun member => other (List.mem_singleton.mp member).symm
  · rw [List.mem_cons, not_or]
    exact ⟨by decide, byNumberPlain c⟩

theorem escapedInjective {a b : Text}
    (same : a.flatMap (escape quote) = b.flatMap (escape quote)) : a = b := by
  -- one code point is read from both at a time, and what is left of both is alike
  induction a generalizing b with
  | nil =>
    cases b with
    | nil => rfl
    | cons d others =>
      have read := congrArg readEscaped same
      rw [List.flatMap_cons, escapeRead used] at read
      cases read
  | cons c rest ih =>
    have read := congrArg readEscaped same
    rw [List.flatMap_cons, escapeRead used] at read
    cases b with
    | nil => cases read
    | cons d others =>
      rw [List.flatMap_cons, escapeRead used] at read
      obtain ⟨first, later⟩ := Prod.mk.inj (Option.some.inj read)
      rw [first, ih later]

omit used

theorem quoteForUsed (text : Text) : quoteFor text = apostrophe ∨ quoteFor text = doubleQuote := by
  unfold quoteFor
  split
  · exact .inr rfl
  · exact .inl rfl

theorem quotedInjective : Function.Injective quoted := by
  intro a b same
  obtain ⟨quote, rest⟩ := List.cons.inj same
  rw [quote] at rest
  exact escapedInjective (quoteForUsed b) (List.append_cancel_right rest)

theorem quotedLine (text : Text) : '\n' ∉ quoted text := by
  have used := quoteForUsed text
  have outside : '\n' ≠ quoteFor text := by
    rcases used with same | same <;> rw [same] <;> decide
  simp only [quoted, enclose, List.mem_cons, List.mem_append, List.mem_flatMap, List.not_mem_nil,
    or_false, not_or]
  exact ⟨⟨outside, fun ⟨c, _, member⟩ => escapeLine used c member⟩, outside⟩

end Quoted

namespace Decimal

theorem digitsMember {n : Nat} {c : Char} (member : c ∈ digits n) : digitValue? c ≠ none := by
  have digitKnown (m : Nat) : digitValue? (digit m) ≠ none := by
    rw [digitValue]
    exact Option.some_ne_none _
  fun_induction digits n with
  | case1 n small =>
    rw [List.mem_singleton.mp member]
    exact digitKnown n
  | case2 n large ih =>
    rcases List.mem_append.mp member with front | last
    · exact ih front
    · rw [List.mem_singleton.mp last]
      exact digitKnown n

theorem digitsValue (n : Nat) : value ((digits n).filterMap digitValue?) = n := by
  fun_induction digits n with
  | case1 n small =>
    rw [List.filterMap_cons_some (digitValue n)]
    simp only [List.filterMap_nil, value, List.foldl_cons, List.foldl_nil]
    omega
  | case2 n large ih =>
    rw [List.filterMap_append, List.filterMap_cons_some (digitValue n), List.filterMap_nil,
      valueAppend, ih]
    omega

theorem digitsInjective : Function.Injective digits := by
  intro a b same
  rw [← digitsValue a, same, digitsValue]

theorem renderOutside {c : Char} (unsigned : c ≠ '-') (other : digitValue? c = none) (n : Int) :
    c ∉ render n := by
  cases n with
  | ofNat n => exact fun member => digitsMember member other
  | negSucc n =>
    rw [render, List.mem_cons, not_or]
    exact ⟨unsigned, fun member => digitsMember member other⟩

theorem unsignedDigits {n : Nat} {rest : Text} (same : digits n = '-' :: rest) : False :=
  digitsMember (same ▸ List.mem_cons_self) rfl

theorem renderInjective : Function.Injective render := by
  intro a b same
  cases a with
  | ofNat a =>
    cases b with
    | ofNat b => exact congrArg Int.ofNat (digitsInjective same)
    | negSucc b => exact (unsignedDigits same).elim
  | negSucc a =>
    cases b with
    | ofNat b => exact (unsignedDigits same.symm).elim
    | negSucc b => exact congrArg Int.negSucc (Nat.succ.inj (digitsInjective (List.cons.inj same).2))

end Decimal
end SourceExcerpt.Text
