import SourceExcerpt.Proofs.LineCut
/-! Positions by scanning. Without an index, the line of an offset is the number of newlines
before it and its column the distance to the last of them. The index gives the same, and brings
offsets into the order of their positions, also when it is out of date. -/
namespace SourceExcerpt
open Text

def lastBreak (text : Text) : Nat → Option Nat
  | 0 => none
  | offset + 1 => if text[offset]? = some '\n' then some offset else lastBreak text offset

def lineBegin (text : Text) (offset : Nat) : Nat :=
  match lastBreak text offset with
  | some i => i + 1
  | none => 0

def scanned (text : Text) (offset : Nat) : Position :=
  ⟨(text.before offset).count '\n', offset - lineBegin text offset⟩

namespace LineCut
variable {text : Text}

/- Inside a line the scan goes back to where the line begins. -/
theorem lastBreakInside (cut : LineCut text) {column : Nat} (inside : column ≤ cut.line.length) :
    lastBreak text (cut.lead.length + column) = lastBreak text cut.lead.length := by
  induction column with
  | zero => rfl
  | succ column ih =>
    have unbroken : text[cut.lead.length + column]? ≠ some '\n' := by
      rw [cut.memberOf inside]
      exact fun broken => cut.unbroken (List.mem_of_getElem? broken)
    exact (if_neg unbroken).trans (ih (Nat.le_of_succ_le inside))

theorem lineBeginFirst (cut : LineCut text) : lineBegin text cut.lead.length = cut.lead.length := by
  rcases cut.begun with nothing | broken
  · rw [nothing]
    rfl
  · obtain ⟨before, lead⟩ := List.getLast?_eq_some_iff.mp broken
    have newline : text[before.length]? = some '\n' := by
      rw [← cut.joined, lead]
      simp
    have found : lastBreak text (before.length + 1) = some before.length := if_pos newline
    rw [lead, List.length_append, List.length_singleton, lineBegin, found]

theorem lineBeginOf (cut : LineCut text) {offset : Nat} (around : cut.Around offset) :
    lineBegin text offset = cut.lead.length := by
  obtain ⟨first, last⟩ := around
  obtain ⟨column, rfl⟩ := Nat.exists_eq_add_of_le (Int.ofNat_le.mp first)
  rw [lineBegin, cut.lastBreakInside (by omega)]
  exact cut.lineBeginFirst

theorem scannedOf (cut : LineCut text) {offset : Nat} (around : cut.Around offset) :
    scanned text offset = ⟨cut.number, offset - cut.lead.length⟩ := by
  rw [scanned, cut.countBefore around, cut.lineBeginOf around]

end LineCut

namespace LineIndex
variable {starts : List Nat} {a b : Int}

theorem locateLater (index : LineIndex starts) (low : 0 ≤ a) (less : a < b) :
    Document.locate starts a < Document.locate starts b := by
  obtain ⟨la, sa, first, atA⟩ := index.located low
  obtain ⟨lb, sb, last, atB⟩ := index.located (Int.le_trans low (Int.le_of_lt less))
  rw [atA, atB, Position.ltDef]
  rcases index.lineOfOrder (Int.le_of_lt less) first last with ⟨rfl, rfl⟩ | ⟨later, _⟩
  · exact .inr ⟨rfl, by simp only; omega⟩
  · exact .inl (Int.ofNat_lt.mpr later)

theorem locateOrder (index : LineIndex starts) (lowA : 0 ≤ a) (lowB : 0 ≤ b) :
    (a < b ↔ Document.locate starts a < Document.locate starts b) ∧
      (a = b ↔ Document.locate starts a = Document.locate starts b) := by
  rcases Int.lt_trichotomy a b with less | rfl | greater
  · have later := index.locateLater lowA less
    have apart : Document.locate starts a ≠ Document.locate starts b :=
      fun same => Position.ltIrrefl _ (same ▸ later)
    exact ⟨iff_of_true less later, iff_of_false (Int.ne_of_lt less) apart⟩
  · exact ⟨iff_of_false (Int.lt_irrefl a) (Position.ltIrrefl _), iff_of_true rfl rfl⟩
  · have later := index.locateLater lowB greater
    have apart : Document.locate starts a ≠ Document.locate starts b :=
      fun same => Position.ltIrrefl _ (same ▸ later)
    exact ⟨iff_of_false (Int.not_lt.mpr (Int.le_of_lt greater)) (Position.ltAsymm later),
      iff_of_false (Int.ne_of_gt greater) apart⟩

end LineIndex

theorem positionsScanned (name text : Text) :
    (∀ offset : Nat, offset ≤ text.length → ∃ p starts start,
      ((Document.lineColumn offset).run (Document.ofText name text)).1 = .ok p ∧
      p = scanned text offset ∧
      (Document.lineStarts.run (Document.ofText name text)).1 = .ok starts ∧
      starts[p.line.toNat]? = some start ∧ start + p.column = offset) ∧
    (∀ a b : Nat, a ≤ text.length → b ≤ text.length → ∃ p q,
      ((Document.lineColumn a).run (Document.ofText name text)).1 = .ok p ∧
      ((Document.lineColumn b).run (Document.ofText name text)).1 = .ok q ∧
      (a < b ↔ p < q) ∧ (a = b ↔ p = q)) := by
  have located (offset : Nat) (inside : offset ≤ text.length) :
      ((Document.lineColumn offset).run (Document.ofText name text)).1 =
        .ok (Document.locate (Lines.starts text) offset) := by
    rw [Document.lineColumnRun, Document.ofTextText, Document.ofTextStarts,
      if_pos ⟨Int.natCast_nonneg _, Int.ofNat_le.mpr inside⟩]
  refine ⟨?_, ?_⟩
  · intro offset inside
    obtain ⟨cut, around⟩ := LineCut.cutAround (Int.natCast_nonneg offset) (Int.ofNat_le.mpr inside)
    refine ⟨_, Lines.starts text, cut.lead.length,
      congrArg Prod.fst (cut.answersColumn name around), (cut.scannedOf around).symm, rfl,
      cut.startFound, ?_⟩
    simp only
    omega
  · intro a b insideA insideB
    obtain ⟨less, same⟩ := (LineIndex.ofText text).locateOrder (Int.natCast_nonneg a)
      (Int.natCast_nonneg b)
    exact ⟨_, _, located a insideA, located b insideB, Int.ofNat_lt.symm.trans less,
      Int.ofNat_inj.symm.trans same⟩

theorem positionsScannedBreaks :
    ((Document.lineColumn (2 : Nat)).run (Document.ofText ['a'] ['\n', '\n'])).1 = .ok ⟨2, 0⟩ ∧
    ∃ p q, ((Document.lineColumn (1 : Nat)).run (Document.ofText ['a'] ['\n', '\n'])).1 = .ok p ∧
      ((Document.lineColumn (2 : Nat)).run (Document.ofText ['a'] ['\n', '\n'])).1 = .ok q ∧
      p < q ∧ p ≠ q := by
  obtain ⟨scans, orders⟩ := positionsScanned ['a'] ['\n', '\n']
  obtain ⟨last, _, _, answered, same, _⟩ := scans 2 (by decide)
  obtain ⟨p, q, first, second, less, apart⟩ := orders 1 2 (by decide) (by decide)
  rw [same] at answered
  exact ⟨answered, p, q, first, second, less.mp (by decide), mt apart.mpr (by decide)⟩

end SourceExcerpt
