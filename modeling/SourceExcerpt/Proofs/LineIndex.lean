import SourceExcerpt.Document
/-! Line starts in order, and what is found by them. An index begins at 0 and increases; that
it was taken of the present text is nowhere assumed, so all of this holds of an index that is
out of date. -/
namespace SourceExcerpt
open Text

structure LineIndex (starts : List Nat) : Prop where
  first : starts[0]? = some 0
  increasing : starts.Pairwise (· < ·)

namespace LineIndex

theorem breaksMember {offset text start} : start ∈ Lines.breaks offset text ↔
    ∃ i, text[i]? = some '\n' ∧ start = offset + i + 1 := by
  induction text generalizing offset with
  | nil => simp [Lines.breaks]
  | cons c rest ih =>
    have later : start ∈ Lines.breaks (offset + 1) rest ↔
        ∃ i, (c :: rest)[i + 1]? = some '\n' ∧ start = offset + (i + 1) + 1 := by
      simp only [ih, List.getElem?_cons_succ, Nat.add_assoc, Nat.add_comm 1]
    rw [← Nat.or_exists_add_one, ← later, Lines.breaks]
    by_cases broken : c = '\n'
    · simp [broken]
    · simp [broken]

theorem breaksAfter {offset text start} (member : start ∈ Lines.breaks offset text) :
    offset < start := by
  obtain ⟨i, _, rfl⟩ := breaksMember.mp member
  omega

theorem breaksIncreasing (offset : Nat) (text : Text) :
    (Lines.breaks offset text).Pairwise (· < ·) := by
  induction text generalizing offset with
  | nil => exact List.Pairwise.nil
  | cons c rest ih =>
    simp only [Lines.breaks]
    split
    · exact List.pairwise_cons.mpr ⟨fun start member => breaksAfter member, ih (offset + 1)⟩
    · exact ih (offset + 1)

theorem ofText (text : Text) : LineIndex (Lines.starts text) :=
  ⟨rfl, List.pairwise_cons.mpr ⟨fun _ member => breaksAfter member, breaksIncreasing 0 text⟩⟩

theorem startsMember {text : Text} {start : Nat} : start ∈ Lines.starts text ↔
    start = 0 ∨ ∃ i, text[i]? = some '\n' ∧ start = i + 1 := by
  simp only [Lines.starts, List.mem_cons, breaksMember, Nat.zero_add]

theorem startsInside {text : Text} {start : Nat} (member : start ∈ Lines.starts text) :
    start ≤ text.length := by
  rcases startsMember.mp member with rfl | ⟨i, broken, rfl⟩
  · exact Nat.zero_le _
  · exact (List.getElem?_eq_some_iff.mp broken).1

variable {starts : List Nat} {offset : Int}

theorem nonempty (index : LineIndex starts) : 0 < starts.length :=
  (List.getElem?_eq_some_iff.mp index.first).1

theorem ordered (index : LineIndex starts) {i j a b : Nat} (less : i < j)
    (atI : starts[i]? = some a) (atJ : starts[j]? = some b) : a < b := by
  obtain ⟨hi, rfl⟩ := List.getElem?_eq_some_iff.mp atI
  obtain ⟨hj, rfl⟩ := List.getElem?_eq_some_iff.mp atJ
  exact List.pairwise_iff_getElem.mp index.increasing i j hi hj less

/- In increasing order the starts that are not after an offset are the first ones, so their
number says which they are. -/
theorem countedFirst (increasing : starts.Pairwise (· < ·)) {i start : Nat}
    (found : starts[i]? = some start) :
    (start : Int) ≤ offset ↔ i < starts.countP (fun s : Nat => (s : Int) ≤ offset) := by
  induction starts generalizing i with
  | nil => simp at found
  | cons head rest ih =>
    obtain ⟨least, increasing⟩ := List.pairwise_cons.mp increasing
    by_cases reached : (head : Int) ≤ offset
    · rw [List.countP_cons_of_pos (by simpa using reached)]
      cases i with
      | zero => cases Option.some.inj found; simp [reached]
      | succ i =>
        have := ih increasing (by simpa using found)
        omega
    · have noMore : rest.countP (fun s : Nat => (s : Int) ≤ offset) = 0 := by
        refine List.countP_eq_zero.mpr fun s member => ?_
        have := least s member
        simp only [decide_eq_true_eq]; omega
      rw [List.countP_cons_of_neg (by simpa using reached), noMore]
      have past : offset < start := by
        cases i with
        | zero => cases Option.some.inj found; omega
        | succ i =>
          have := least start (List.mem_of_getElem? (by simpa using found))
          omega
      omega

/-! The line of an offset: the one that starts at or before it with the next one after it. -/
structure LineOf (starts : List Nat) (offset : Int) (line start : Nat) : Prop where
  found : starts[line]? = some start
  begun : (start : Int) ≤ offset
  unfinished : ∀ next, starts[line + 1]? = some next → offset < next

theorem located (index : LineIndex starts) (low : 0 ≤ offset) :
    ∃ line start, LineOf starts offset line start ∧
      Document.locate starts offset = ⟨line, offset - start⟩ := by
  have counted := @countedFirst starts offset index.increasing
  have counts := (counted index.first).mp low
  have most : starts.countP (fun s : Nat => (s : Int) ≤ offset) ≤ starts.length :=
    List.countP_le_length
  let line := starts.countP (fun s : Nat => (s : Int) ≤ offset) - 1
  have within : line < starts.length := by omega
  have found : starts[line]? = some starts[line] := List.getElem?_eq_getElem within
  refine ⟨line, starts[line], ⟨found, (counted found).mpr (by omega), ?_⟩, ?_⟩
  · intro next atNext
    have := counted atNext
    omega
  · simp only [Document.locate, List.getD, found, Option.getD_some, line]

theorem nextReached (index : LineIndex starts) {i j b : Nat} (less : i < j)
    (atJ : starts[j]? = some b) : ∃ next, starts[i + 1]? = some next ∧ next ≤ b := by
  have within : i + 1 < starts.length := by
    have := (List.getElem?_eq_some_iff.mp atJ).1
    omega
  have atNext : starts[i + 1]? = some starts[i + 1] := List.getElem?_eq_getElem within
  refine ⟨starts[i + 1], atNext, ?_⟩
  rcases Nat.lt_or_eq_of_le (show i + 1 ≤ j from less) with before | same
  · exact Nat.le_of_lt (index.ordered before atNext atJ)
  · subst same
    exact Nat.le_of_eq (Option.some.inj (atNext.symm.trans atJ))

theorem lineOfOrder (index : LineIndex starts) {a b : Int} (le : a ≤ b) {la sa lb sb : Nat}
    (first : LineOf starts a la sa) (second : LineOf starts b lb sb) :
    (la = lb ∧ sa = sb) ∨ (la < lb ∧ ∃ next, starts[la + 1]? = some next ∧ (next : Int) ≤ b) := by
  have begunA := first.begun
  have begunB := second.begun
  rcases Nat.lt_trichotomy la lb with before | same | after
  · obtain ⟨next, atNext, reached⟩ := index.nextReached before second.found
    exact .inr ⟨before, next, atNext, by omega⟩
  · subst same
    exact .inl ⟨rfl, Option.some.inj (first.found.symm.trans second.found)⟩
  · obtain ⟨next, atNext, reached⟩ := index.nextReached after first.found
    have unfinished := second.unfinished next atNext
    omega

theorem locateOf (index : LineIndex starts) {line start : Nat}
    (lineOf : LineOf starts offset line start) :
    Document.locate starts offset = ⟨line, offset - start⟩ := by
  have begun := lineOf.begun
  obtain ⟨l, s, other, same⟩ := @located starts offset index (by omega)
  rcases index.lineOfOrder (Int.le_refl offset) lineOf other with ⟨rfl, rfl⟩ | ⟨_, next, atNext, le⟩
  · exact same
  · have := lineOf.unfinished next atNext
    omega

/-! The extent of a line in a text of a given size, which need not be the one indexed. -/
def lineStop (starts : List Nat) (size line : Nat) : Int :=
  match starts[line + 1]? with
  | some next => next - 1
  | none => size

theorem columnSliced {line start : Nat} (lineOf : LineOf starts offset line start) {text : Text}
    (inside : offset ≤ text.length) :
    offset - start ≤ (text.slice start (lineStop starts text.length line)).length := by
  have begun := lineOf.begun
  have reached : offset ≤ cut text.length (lineStop starts text.length line) := by
    unfold lineStop
    split
    · rename_i next atNext
      have unfinished := lineOf.unfinished next atNext
      rw [cutLow (by omega)]
      omega
    · rw [cutBeyond (Int.le_refl _)]
      exact inside
  have whole := sliceLength text start (lineStop starts text.length line)
  rw [cutInside (Int.natCast_nonneg start) (by omega)] at whole
  omega

/- A column can run past what is shown of its line by no more than a carriage return. -/
theorem columnShown {line start : Nat} (lineOf : LineOf starts offset line start) {text : Text}
    (inside : offset ≤ text.length) :
    offset - start ≤
      (Lines.dropReturn (text.slice start (lineStop starts text.length line))).length + 1 := by
  have sliced := columnSliced lineOf inside
  have kept := Lines.dropReturnLoses (text.slice start (lineStop starts text.length line))
  omega

/- The end of what is shown of a line is on that line still. -/
theorem shownStop {line start : Nat} (lineOf : LineOf starts offset line start) {text : Text}
    (inside : offset ≤ text.length) {shown : Text}
    (same : shown = Lines.dropReturn (text.slice start (lineStop starts text.length line))) :
    LineOf starts (start + shown.length) line start ∧ (start : Int) + shown.length ≤ text.length := by
  have begun := lineOf.begun
  have kept := Lines.dropReturnLength (text.slice start (lineStop starts text.length line))
  have last := cutWithin text.length (lineStop starts text.length line)
  rw [← same, sliceLength, cutInside (Int.natCast_nonneg start) (by omega)] at kept
  refine ⟨⟨lineOf.found, by omega, ?_⟩, by omega⟩
  intro next atNext
  have unfinished := lineOf.unfinished next atNext
  have stop : lineStop starts text.length line = next - 1 := by simp only [lineStop, atNext]
  rw [stop, cutLow (by omega)] at kept
  omega

theorem extentOf {size line start : Nat} (found : starts[line]? = some start) :
    Document.lineExtent starts size line = Span.ofBounds start (lineStop starts size line) := by
  have begins : starts.getD line 0 = start := by simp only [List.getD, found, Option.getD_some]
  rw [Document.lineExtent, begins]
  rfl

theorem extentBuilt (index : LineIndex starts) {size line start : Nat}
    (found : starts[line]? = some start) (fits : starts[line + 1]? = none → start ≤ size) :
    ∃ extent : Span, Document.lineExtent starts size line = .ok extent ∧
      extent.start = start ∧ extent.stop = lineStop starts size line := by
  have ordered : (start : Int) ≤ lineStop starts size line := by
    unfold lineStop
    split
    · rename_i next atNext
      have := index.ordered (Nat.lt_succ_self line) found atNext
      omega
    · rename_i last
      exact Int.ofNat_le.mpr (fits last)
  let extent : Span := ⟨start, lineStop starts size line, Int.natCast_nonneg start, ordered⟩
  exact ⟨extent, (extentOf found).trans (Span.ofBoundsSelf extent), rfl, rfl⟩

/- Only the last line can begin past the end of the text. -/
theorem extentCrossed {size line start : Nat} (found : starts[line]? = some start)
    (last : starts[line + 1]? = none) (past : size < start) :
    Document.lineExtent starts size line = .error .crossedBounds := by
  have stop : lineStop starts size line = size := by simp only [lineStop, last]
  rw [extentOf found, stop]
  exact Span.ofBoundsCrossed.mpr ⟨by omega, by omega⟩

/-! What a document answers about an offset of its text. -/
theorem lineColumnInside {d : Document} (index : LineIndex d.starts) {line start : Nat}
    (lineOf : LineOf d.starts offset line start) (high : offset ≤ d.text.length) :
    (Document.lineColumn offset).run d = (.ok ⟨line, offset - start⟩, d.indexed) := by
  have begun := lineOf.begun
  rw [Document.lineColumnRun, if_pos ⟨by omega, high⟩, index.locateOf lineOf]

theorem lineRangeInside {d : Document} (index : LineIndex d.starts) {line start : Nat}
    (lineOf : LineOf d.starts offset line start) (high : offset ≤ d.text.length) :
    ∃ extent : Span, extent.start = start ∧
      extent.stop = lineStop d.starts d.text.length line ∧
      (Document.lineRange line).run d = (.ok extent, d.indexed) := by
  have begun := lineOf.begun
  have fits : d.starts[line + 1]? = none → start ≤ d.text.length := fun _ => by omega
  obtain ⟨extent, built, start, stop⟩ := index.extentBuilt lineOf.found fits
  have within : line < d.starts.length := (List.getElem?_eq_some_iff.mp lineOf.found).1
  refine ⟨extent, start, stop, ?_⟩
  rw [Document.lineRangeRun, if_pos ⟨Int.natCast_nonneg line, by omega⟩, Int.toNat_natCast, built]

theorem lineAtInside {d : Document} (index : LineIndex d.starts) {line start : Nat}
    (lineOf : LineOf d.starts offset line start) (high : offset ≤ d.text.length) :
    (Document.lineAt offset).run d =
      (.ok (Lines.dropReturn (d.text.slice start (lineStop d.starts d.text.length line))),
        d.indexed) := by
  obtain ⟨extent, atStart, atStop, range⟩ :=
    lineRangeInside (d := d.indexed) index lineOf high
  rw [Document.lineAt, Query.bindOk (index.lineColumnInside lineOf high), Query.bindOk range,
    Query.bindOk (Query.currentRun _)]
  simp only [Query.pureRun, Span.sliceOf, atStart, atStop]
  rfl

theorem lineAtOutside {d : Document} (outside : ¬ (0 ≤ offset ∧ offset ≤ d.text.length)) :
    (Document.lineAt offset).run d =
      (.error (.offsetOutside offset d.name d.text.length), d) := by
  have column := Document.lineColumnRun offset d
  rw [if_neg outside] at column
  exact Query.bindError column

end LineIndex
end SourceExcerpt
