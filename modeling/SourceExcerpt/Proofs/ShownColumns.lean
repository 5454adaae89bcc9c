import SourceExcerpt.Proofs.LineCut
/-! Columns against the text shown of their line. A column counts the carriage return that ends a
line, and the text shown is without it, so the offset after such a carriage return has a column one
past the text. Every other column indexes it. -/
namespace SourceExcerpt
open Text

/-! An offset behind a carriage return with which its line ends. -/
def AfterReturn (text : Text) (offset : Nat) : Prop :=
  (text.take offset).getLast? = some '\r' ∧ (text[offset]? = none ∨ text[offset]? = some '\n')

instance (text : Text) (offset : Nat) : Decidable (AfterReturn text offset) :=
  inferInstanceAs (Decidable (_ ∧ _))

namespace LineCut
variable {text : Text} {offset : Nat}

theorem memberShown (cut : LineCut text) {column : Nat}
    (inside : column < (Lines.dropReturn cut.line).length) :
    text[cut.lead.length + column]? = (Lines.dropReturn cut.line)[column]? := by
  rw [cut.memberOf (Nat.lt_of_lt_of_le inside (Lines.dropReturnLength cut.line))]
  rcases Lines.dropReturnOnce cut.line with returned | ⟨same, _⟩
  · exact (congrArg (·[column]?) returned).trans (List.getElem?_append_left inside)
  · rw [← same]

/- What stands before the line ends in a newline and not in a carriage return. -/
theorem returnedOwn (cut : LineCut text) :
    (cut.lead ++ cut.line).getLast? = some '\r' ↔ cut.line.getLast? = some '\r' := by
  rw [List.getLast?_append]
  cases cut.line.getLast? with
  | some c => rfl
  | none =>
    rcases cut.begun with nothing | newline
    · simp [nothing]
    · simp [newline]

theorem columnWithin (cut : LineCut text) (around : cut.Around offset) :
    (offset : Int) - cut.lead.length ≤ (Lines.dropReturn cut.line).length ↔
      ¬ AfterReturn text offset := by
  have shorter := Lines.dropReturnShorter cut.line
  have loses := Lines.dropReturnLoses cut.line
  have ends := cut.endedAt around
  rw [Int.toNat_natCast] at ends
  by_cases atEnd : (offset : Int) = cut.lead.length + cut.line.length
  · have size : offset = (cut.lead ++ cut.line).length := by
      rw [List.length_append]
      omega
    have before := congrArg (List.take offset) cut.joined
    rw [List.take_left' size.symm] at before
    rw [AfterReturn, ← before, cut.returnedOwn, ← shorter, ← ends]
    omega
  · have last := around.2
    rw [AfterReturn, ← ends]
    omega

end LineCut

theorem columnsIndexLine (name text : Text) {offset : Nat} (inside : offset ≤ text.length) :
    ∃ p shown, ((Document.lineColumn offset).run (Document.ofText name text)).1 = .ok p ∧
      ((Document.lineAt offset).run (Document.ofText name text)).1 = .ok shown ∧
      0 ≤ p.column ∧ p.column ≤ shown.length + 1 ∧
      (p.column ≤ shown.length ↔ ¬ AfterReturn text offset) ∧
      (p.column < shown.length →
        ∃ c, text[offset]? = some c ∧ shown[p.column.toNat]? = some c) := by
  obtain ⟨cut, around⟩ := LineCut.cutAround (Int.natCast_nonneg offset) (Int.ofNat_le.mpr inside)
  have loses := Lines.dropReturnLoses cut.line
  have ⟨first, last⟩ := around
  refine ⟨_, _, congrArg Prod.fst (cut.answersColumn name around),
    congrArg Prod.fst (cut.answersLine name around), Int.sub_nonneg.mpr first,
    by simp only; omega, cut.columnWithin around, ?_⟩
  intro inText
  obtain ⟨column, rfl⟩ := Nat.exists_eq_add_of_le (Int.ofNat_le.mp first)
  have own : ((cut.lead.length + column : Nat) : Int) - cut.lead.length = column := by omega
  simp only [own, Int.ofNat_lt] at inText
  simp only [own, Int.toNat_natCast, cut.memberShown inText]
  exact ⟨_, List.getElem?_eq_getElem inText, List.getElem?_eq_getElem inText⟩

/- A carriage return inside a line is shown like any other code point. -/
theorem columnsIndexLineLone :
    ∃ p shown, ((Document.lineColumn (3 : Nat)).run
        (Document.ofText ['a'] ['\n', 'b', '\r', 'c', '\r', '\n'])).1 = .ok p ∧
      ((Document.lineAt (3 : Nat)).run
        (Document.ofText ['a'] ['\n', 'b', '\r', 'c', '\r', '\n'])).1 = .ok shown ∧
      p.column ≤ shown.length ∧ shown[p.column.toNat]? = some 'c' := by
  obtain ⟨p, shown, located, answered, _, _, within, indexed⟩ :=
    @columnsIndexLine ['a'] ['\n', 'b', '\r', 'c', '\r', '\n'] 3 (by decide)
  cases located
  cases answered
  obtain ⟨c, member, same⟩ := indexed (by decide)
  cases member
  exact ⟨_, _, rfl, rfl, within.mpr (by decide), same⟩

/- The newline behind a carriage return has a column past the text shown. -/
theorem columnsIndexLineNot :
    ∃ p shown, ((Document.lineColumn (2 : Nat)).run
        (Document.ofText ['a'] ['b', '\r', '\n'])).1 = .ok p ∧
      ((Document.lineAt (2 : Nat)).run (Document.ofText ['a'] ['b', '\r', '\n'])).1 = .ok shown ∧
      2 ≤ ['b', '\r', '\n'].length ∧ shown.length < p.column :=
  ⟨_, _, rfl, rfl, by decide, by decide⟩

end SourceExcerpt
