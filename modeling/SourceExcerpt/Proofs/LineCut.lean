import SourceExcerpt.Proofs.Lookup
/-! A line cut out of its text. What stands before it is nothing or ends a line, and what stands
after it is nothing or begins with a newline; so its number and both of its ends can be read off
the cut, and the index of the text has the line there. Every offset lies in such a cut. -/
namespace SourceExcerpt
open Text

structure LineCut (text : Text) where
  lead : Text
  line : Text
  rest : Text
  joined : lead ++ line ++ rest = text
  begun : lead = [] ∨ lead.getLast? = some '\n'
  unbroken : '\n' ∉ line
  ended : rest = [] ∨ rest.head? = some '\n'

namespace LineCut
open LineIndex (LineOf lineStop)
variable {text : Text} {offset : Int}

def number (cut : LineCut text) : Nat := cut.lead.count '\n'

def Around (cut : LineCut text) (offset : Int) : Prop :=
  cut.lead.length ≤ offset ∧ offset ≤ cut.lead.length + cut.line.length

theorem textLength (cut : LineCut text) :
    text.length = cut.lead.length + cut.line.length + cut.rest.length := by
  have size := congrArg List.length cut.joined
  rw [List.length_append, List.length_append] at size
  exact size.symm

theorem aroundInside (cut : LineCut text) (around : cut.Around offset) : offset ≤ text.length := by
  have size := cut.textLength
  have last := around.2
  omega

theorem memberOnward (cut : LineCut text) (column : Nat) :
    text[cut.lead.length + column]? = (cut.line ++ cut.rest)[column]? := by
  have member := congrArg (·[cut.lead.length + column]?) cut.joined
  rw [List.append_assoc, List.getElem?_append_right (Nat.le_add_right _ _),
    Nat.add_sub_cancel_left] at member
  exact member.symm

theorem memberOf (cut : LineCut text) {column : Nat} (inside : column < cut.line.length) :
    text[cut.lead.length + column]? = cut.line[column]? := by
  rw [cut.memberOnward, List.getElem?_append_left inside]

theorem memberAfter (cut : LineCut text) :
    text[cut.lead.length + cut.line.length]? = cut.rest.head? := by
  rw [cut.memberOnward, List.getElem?_append_right (Nat.le_refl _), Nat.sub_self,
    List.head?_eq_getElem?]

/- An offset is at the end of its line where a newline follows or nothing does. -/
theorem endedAt (cut : LineCut text) (around : cut.Around offset) :
    offset = cut.lead.length + cut.line.length ↔
      text[offset.toNat]? = none ∨ text[offset.toNat]? = some '\n' := by
  obtain ⟨first, last⟩ := around
  obtain ⟨column, same⟩ := Nat.exists_eq_add_of_le (show cut.lead.length ≤ offset.toNat by omega)
  rw [same]
  rcases Nat.lt_or_eq_of_le (show column ≤ cut.line.length by omega) with within | atEnd
  · rw [cut.memberOf within, List.getElem?_eq_getElem within]
    refine iff_of_false (by omega) ?_
    rintro (nothing | newline)
    · cases nothing
    · exact cut.unbroken (List.mem_of_getElem (Option.some.inj newline))
  · rw [atEnd, cut.memberAfter]
    refine iff_of_true (by omega) ?_
    rcases cut.ended with nothing | newline
    · exact .inl (by rw [nothing]; rfl)
    · exact .inr newline

/-! Lines of a text around which more text is put. -/
def within (cut : LineCut text) {before after : Text}
    (begun : before = [] ∨ before.getLast? = some '\n')
    (ended : after = [] ∨ after.head? = some '\n') : LineCut (before ++ text ++ after) where
  lead := before ++ cut.lead
  line := cut.line
  rest := cut.rest ++ after
  joined := by simp only [← cut.joined, List.append_assoc]
  begun := by
    rcases cut.begun with nothing | broken
    · simpa [nothing] using begun
    · exact .inr (by simp [List.getLast?_append, broken])
  unbroken := cut.unbroken
  ended := by
    rcases cut.ended with nothing | broken
    · simpa [nothing] using ended
    · exact .inr (by simp [List.head?_append, broken])

theorem withinNumber (cut : LineCut text) {before after : Text}
    (begun : before = [] ∨ before.getLast? = some '\n')
    (ended : after = [] ∨ after.head? = some '\n') :
    (cut.within begun ended).number = before.count '\n' + cut.number := List.count_append

theorem firstLine (text : Text) : ∃ line rest, text = line ++ rest ∧ '\n' ∉ line ∧
    (rest = [] ∨ rest.head? = some '\n') := by
  induction text with
  | nil => exact ⟨[], [], rfl, List.not_mem_nil, .inl rfl⟩
  | cons c more ih =>
    by_cases broken : c = '\n'
    · exact ⟨[], c :: more, rfl, List.not_mem_nil, .inr (congrArg some broken)⟩
    · obtain ⟨line, rest, joined, unbroken, ended⟩ := ih
      refine ⟨c :: line, rest, congrArg (c :: ·) joined, ?_, ended⟩
      simp only [List.mem_cons, not_or]
      exact ⟨Ne.symm broken, unbroken⟩

theorem lastLine (text : Text) : ∃ lead line, text = lead ++ line ∧ '\n' ∉ line ∧
    (lead = [] ∨ lead.getLast? = some '\n') := by
  obtain ⟨line, rest, joined, unbroken, ended⟩ := firstLine text.reverse
  refine ⟨rest.reverse, line.reverse, ?_, by simpa using unbroken, by simpa using ended⟩
  rw [← List.reverse_append, ← joined, List.reverse_reverse]

theorem cutAround (low : 0 ≤ offset) (high : offset ≤ text.length) :
    ∃ cut : LineCut text, cut.Around offset := by
  obtain ⟨n, rfl⟩ := Int.eq_ofNat_of_zero_le low
  obtain ⟨lead, head, front, headUnbroken, begun⟩ := lastLine (text.take n)
  obtain ⟨tail, rest, back, tailUnbroken, ended⟩ := firstLine (text.drop n)
  have joined : lead ++ (head ++ tail) ++ rest = text := by
    rw [← List.append_assoc, ← front, List.append_assoc, ← back, List.take_append_drop]
  have unbroken : '\n' ∉ head ++ tail := by
    simp only [List.mem_append, not_or]
    exact ⟨headUnbroken, tailUnbroken⟩
  have size : lead.length + head.length = n := by
    rw [← List.length_append, ← front, List.length_take]
    omega
  refine ⟨⟨lead, head ++ tail, rest, joined, begun, unbroken, ended⟩, ?_⟩
  simp only [Around, List.length_append]
  omega

theorem cutsAround {span : Span} (inside : span.stop ≤ text.length) :
    ∃ first last : LineCut text, first.Around span.start ∧ last.Around span.stop := by
  have low := span.nonnegative
  have ordered := span.ordered
  obtain ⟨first, atStart⟩ := cutAround low (Int.le_trans ordered inside)
  obtain ⟨last, atStop⟩ := cutAround (Int.le_trans low ordered) inside
  exact ⟨first, last, atStart, atStop⟩

/-! Where the index has the line. -/
theorem lastStart {lead : Text} (begun : lead = [] ∨ lead.getLast? = some '\n') :
    (Lines.starts lead)[lead.count '\n']? = some lead.length := by
  rcases begun with rfl | broken
  · rfl
  · obtain ⟨before, rfl⟩ := List.getLast?_eq_some_iff.mp broken
    have number : (before ++ ['\n']).count '\n' = (Lines.starts before).length := by
      rw [Lines.startsLength, List.count_append]
      rfl
    rw [Lines.startsAppend, number, List.getElem?_append_right (Nat.le_refl _), Nat.sub_self,
      List.length_append]
    rfl

theorem startsOf (cut : LineCut text) : Lines.starts text =
    Lines.starts cut.lead ++ Lines.breaks (cut.lead.length + cut.line.length) cut.rest := by
  have whole := congrArg Lines.starts cut.joined
  rw [Lines.startsAppend, Lines.startsAppend, Lines.breaksUnbroken _ cut.unbroken,
    List.append_nil, List.length_append] at whole
  exact whole.symm

theorem startFound (cut : LineCut text) :
    (Lines.starts text)[cut.number]? = some cut.lead.length := by
  have known : cut.number < (Lines.starts cut.lead).length := by
    rw [Lines.startsLength, number]
    exact Nat.lt_succ_self _
  rw [cut.startsOf, List.getElem?_append_left known]
  exact lastStart cut.begun

theorem nextStart (cut : LineCut text) : (Lines.starts text)[cut.number + 1]? =
    if cut.rest = [] then none else some (cut.lead.length + cut.line.length + 1) := by
  have beyond : (Lines.starts cut.lead).length = cut.number + 1 := Lines.startsLength cut.lead
  rw [cut.startsOf, ← beyond, List.getElem?_append_right (Nat.le_refl _), Nat.sub_self]
  rcases cut.ended with nothing | broken
  · simp [nothing, Lines.breaks]
  · obtain ⟨after, rest⟩ := List.head?_eq_some_iff.mp broken
    simp [rest, Lines.breaks]

theorem lineStopOf (cut : LineCut text) : lineStop (Lines.starts text) text.length cut.number =
    cut.lead.length + cut.line.length := by
  rw [lineStop, cut.nextStart]
  by_cases nothing : cut.rest = []
  · have size := cut.textLength
    rw [nothing, List.length_nil] at size
    simp only [nothing, if_true]
    omega
  · simp only [nothing, if_false]
    omega

theorem lineOf (cut : LineCut text) (around : cut.Around offset) :
    LineOf (Lines.starts text) offset cut.number cut.lead.length := by
  refine ⟨cut.startFound, around.1, ?_⟩
  intro next atNext
  have last := around.2
  rw [cut.nextStart] at atNext
  split at atNext
  · cases atNext
  · cases Option.some.inj atNext
    omega

theorem countBefore (cut : LineCut text) (around : cut.Around offset) :
    (text.before offset).count '\n' = cut.number := by
  obtain ⟨first, last⟩ := around
  obtain ⟨n, rfl⟩ := Int.eq_ofNat_of_zero_le (show 0 ≤ offset by omega)
  have shown := congrArg (List.take n) cut.joined
  rw [List.append_assoc, List.take_append, List.take_of_length_le (by omega),
    List.take_append_of_le_length (by omega)] at shown
  have unbroken : '\n' ∉ cut.line.take (n - cut.lead.length) :=
    fun member => cut.unbroken (List.mem_of_mem_take member)
  rw [beforeNat, ← shown, List.count_append, List.count_eq_zero.mpr unbroken]
  rfl

theorem sliceOf (cut : LineCut text) :
    text.slice cut.lead.length (cut.lead.length + cut.line.length) = cut.line := by
  have middle := sliceMiddle cut.lead cut.line cut.rest
  rwa [cut.joined] at middle

/-! Where the line stands. -/
def extent (cut : LineCut text) : Span where
  start := cut.lead.length
  stop := cut.lead.length + cut.line.length
  nonnegative := by omega
  ordered := by omega

theorem extentLength (cut : LineCut text) : cut.extent.length = cut.line.length := by
  simp only [Span.length, extent]
  omega

theorem extentAround (cut : LineCut text) :
    cut.Around cut.extent.start ∧ cut.Around cut.extent.stop := by
  simp only [Around, extent]
  omega

theorem extentHolds (cut : LineCut text) :
    cut.extent.containsInclusive offset = true ↔ cut.Around offset :=
  decide_eq_true_iff

theorem extentSlice (cut : LineCut text) : cut.extent.sliceOf text = cut.line := cut.sliceOf

theorem shownLine (cut : LineCut text) :
    text.slice cut.lead.length (lineStop (Lines.starts text) text.length cut.number) = cut.line := by
  rw [cut.lineStopOf, cut.sliceOf]

/-! The sighting of a range that begins on one line and stops on another or the same. -/
def sighting (first last : LineCut text) (span : Span) : Sighting :=
  ⟨⟨first.number, span.start - first.lead.length⟩, ⟨last.number, span.stop - last.lead.length⟩,
    Lines.dropReturn first.line⟩

/-! What a document answers about the line if its line starts are those of the text it has: it was not
asked before, or not before it got this text. -/
section
variable {d : Document} (upToDate : d.starts = Lines.starts d.text)
include upToDate

theorem extentUpToDate (cut : LineCut d.text) :
    (Document.lineRange cut.number).run d = (.ok cut.extent, d.indexed) := by
  have known : cut.number < (Lines.starts d.text).length :=
    (List.getElem?_eq_some_iff.mp cut.startFound).1
  have built : Document.lineExtent (Lines.starts d.text) d.text.length cut.number =
      .ok cut.extent := by
    rw [LineIndex.extentOf cut.startFound, cut.lineStopOf]
    exact Span.ofBoundsSelf cut.extent
  rw [Document.lineRangeRun, upToDate, if_pos ⟨Int.natCast_nonneg _, Int.ofNat_lt.mpr known⟩,
    Int.toNat_natCast, built]

theorem sightUpToDate (first last : LineCut d.text) {span : Span}
    (atStart : first.Around span.start) (atStop : last.Around span.stop) :
    (sight span).run d = (.ok (first.sighting last span), d.indexed) := by
  have begins := first.lineOf atStart
  have stops := last.lineOf atStop
  have index := LineIndex.ofText d.text
  rw [← upToDate] at begins stops index
  have seen := Lookup.sightOf index begins stops (last.aroundInside atStop)
  rw [upToDate, first.shownLine] at seen
  exact seen

end

variable (name : Text)

theorem answersColumn (cut : LineCut text) (around : cut.Around offset) :
    (Document.lineColumn offset).run (Document.ofText name text) =
      (.ok ⟨cut.number, offset - cut.lead.length⟩, (Document.ofText name text).indexed) :=
  (LineIndex.ofText text).lineColumnInside (d := Document.ofText name text)
    (cut.lineOf around) (cut.aroundInside around)

theorem answersLine (cut : LineCut text) (around : cut.Around offset) :
    (Document.lineAt offset).run (Document.ofText name text) =
      (.ok (Lines.dropReturn cut.line), (Document.ofText name text).indexed) := by
  have answer := (LineIndex.ofText text).lineAtInside (d := Document.ofText name text)
    (cut.lineOf around) (cut.aroundInside around)
  rw [Document.ofTextStarts, Document.ofTextText, cut.shownLine] at answer
  exact answer

theorem answersExtent (cut : LineCut text) :
    (Document.lineRange cut.number).run (Document.ofText name text) =
      (.ok cut.extent, (Document.ofText name text).indexed) :=
  extentUpToDate (d := Document.ofText name text) rfl cut

theorem answersSight (first last : LineCut text) {span : Span} (atStart : first.Around span.start)
    (atStop : last.Around span.stop) :
    (sight span).run (Document.ofText name text) =
      (.ok (first.sighting last span), (Document.ofText name text).indexed) :=
  sightUpToDate (d := Document.ofText name text) rfl first last atStart atStop

theorem answersExtract (first last : LineCut text) (span : Span) (held : text ≠ [])
    (atStart : first.Around span.start) (atStop : last.Around span.stop) (limits : Limits)
    (message : Text) {store : Store Document} {place : Nat}
    (here : store[place]? = some (Document.ofText name text)) :
    ((extract limits message (some ⟨some place, span⟩)).run store).1 =
      .ok ⟨(first.sighting last span).reference limits name message,
        (first.sighting last span).log limits name⟩ :=
  Lookup.extractHeld (d := Document.ofText name text) held
    (first.answersSight name last atStart atStop) limits message here

end LineCut
end SourceExcerpt
