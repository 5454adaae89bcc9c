import SourceExcerpt.Proofs.Columns
/-! Ranges that go on on a later line. Of such a range the rest of its first line is flagged, up to the
end of what is shown of that line, and where on the later lines it stops is not seen. -/
namespace SourceExcerpt
open Text

/-! A range that stops on a later line than it starts on. -/
def Span.Leaves (span : Span) (d : Document) : Prop :=
  ∃ p q, ((Document.lineColumn span.start).run d).1 = .ok p ∧
    ((Document.lineColumn span.stop).run d).1 = .ok q ∧ p.line < q.line

theorem leavesHeld {d : Document} {span : Span} (leaves : span.Leaves d) :
    span.stop ≤ d.text.length ∧ d.text ≠ [] := by
  obtain ⟨p, q, atStart, atStop, later⟩ := leaves
  have low := span.nonnegative
  have ordered := span.ordered
  have inside := (Lookup.columnAnswered atStop).2
  refine ⟨inside, fun empty => ?_⟩
  rw [empty, List.length_nil] at inside
  have same : span.start = span.stop := by omega
  rw [same] at atStart
  cases atStart.symm.trans atStop
  exact Int.lt_irrefl _ later

theorem leavesLater {d : Document} {span : Span} (leaves : span.Leaves d) {s : Sighting}
    (atStart : ((Document.lineColumn span.start).run d).1 = .ok s.start)
    (atStop : ((Document.lineColumn span.stop).run d).1 = .ok s.stop) :
    s.start.line ≠ s.stop.line := by
  obtain ⟨p, q, first, last, later⟩ := leaves
  cases first.symm.trans atStart
  cases last.symm.trans atStop
  exact Int.ne_of_lt later

/-! The end of a line stays the end of the text shown, also where its tail is kept by collapsing. -/
namespace Limits

theorem collapseToEnd (limits : Limits) (low : 0 ≤ limits.context) {m : Marked}
    (start : 0 ≤ m.start) (atEnd : m.stop = m.text.length) :
    (limits.collapse m).text.length ≤ (limits.collapse m).stop := by
  rcases Int.lt_or_le limits.maxWidth (m.stop - m.start) with wide | narrow
  · have head := cutMost m.text.length (show 0 ≤ m.start + limits.context by omega)
    have tail := cutBack m.text.length low
    rw [collapseStop wide, collapseLength wide, collapsedWidth, atEnd]
    omega
  · rw [collapseNarrow narrow]
    exact Int.le_of_eq atEnd.symm

theorem shortenToEnd (limits : Limits) (low : 0 ≤ limits.context) {m : Marked}
    (start : 0 ≤ m.start) (near : m.start ≤ m.text.length + limits.context)
    (atEnd : m.stop = m.text.length) :
    (limits.shorten m).text.length ≤ (limits.shorten m).stop := by
  refine limits.windowStop low ?_ ?_ (limits.collapseToEnd low start atEnd)
  · rwa [collapseStart]
  · rw [collapseStart]
    -- a start past the end of the line may stay past the end of what is kept of it
    rcases Int.lt_or_le limits.maxWidth (m.stop - m.start) with wide | narrow
    · have head : min (m.text.length : Int) (m.start + limits.context) ≤
          cut m.text.length (m.start + limits.context) := by
        rw [cutLow (by omega)]
        omega
      rw [collapseLength wide]
      omega
    · rwa [collapseNarrow narrow]

end Limits

/-! Two sightings that begin alike and stop on a later line. -/
theorem referenceLater {s t : Sighting} (start : s.start = t.start) (line : s.line = t.line)
    (first : s.start.line ≠ s.stop.line) (second : t.start.line ≠ t.stop.line) (limits : Limits)
    (name message : Text) : s.reference limits name message = t.reference limits name message := by
  have marked : s.marked = t.marked := by
    rw [Sighting.markedMultiline first, Sighting.markedMultiline second, start, line]
  have multiline : s.multiline = t.multiline :=
    (decide_eq_true first).trans (decide_eq_true second).symm
  simp only [Sighting.reference, marked, multiline, start]

theorem referenceEnded {s : Sighting} (later : s.start.line ≠ s.stop.line) (limits : Limits)
    (name message : Text) :
    (⟨s.start, ⟨s.start.line, s.line.length⟩, s.line⟩ : Sighting).reference limits name message =
      { s.reference limits name message with multiline := false } := by
  have marked := Sighting.markedMultiline later
  simp only [Sighting.reference, marked, Sighting.markedSingle, Sighting.multiline, ne_eq,
    not_true_eq_false, decide_false]

theorem multilineStop {limits : Limits} (context : 1 ≤ limits.context) {s : Sighting}
    (near : s.marked.Near) (later : s.start.line ≠ s.stop.line) (name message : Text) :
    (s.reference limits name message).stop = (s.reference limits name message).text.length := by
  have begins := near.begins
  have atEnd : s.marked.stop = s.marked.text.length := by
    rw [Sighting.markedMultiline later]
  exact Int.min_eq_right
    (limits.shortenToEnd (by omega) near.low (by omega) atEnd)

/- A range that stops at the end of what is shown of the line another one begins on is sighted as if
that one stopped there. -/
theorem sightedEnded {d : Document} (index : LineIndex d.starts) {span single : Span} {s : Sighting}
    {asked : Document} (seen : (sight span).run d = (.ok s, asked)) {begin : Nat}
    (begins : d.starts[s.start.line.toNat]? = some begin) (start : single.start = span.start)
    (stop : single.stop = begin + s.line.length) :
    (sight single).run d =
      (.ok ⟨s.start, ⟨s.start.line, s.line.length⟩, s.line⟩, d.indexed) := by
  obtain ⟨inside, _, la, sa, lb, sb, first, last, rfl⟩ := Lookup.sightSource index seen
  cases Option.some.inj (first.found.symm.trans begins)
  obtain ⟨ended, high⟩ :=
    LineIndex.shownStop first (Int.le_trans span.ordered inside) rfl
  rw [← start] at first
  rw [← stop] at ended high
  have whole := Lookup.sightOf index first ended high
  rwa [start, stop, Int.add_comm, Int.add_sub_cancel] at whole

theorem multilineToEnd {d : Document} (reached : d.Reachable) {limits : Limits}
    (context : 1 ≤ limits.context) {first second : Span} (begins : second.start = first.start)
    (firstLeaves : first.Leaves d) (secondLeaves : second.Leaves d) (message : Text)
    {store : Store Document} {place : Nat} (here : store[place]? = some d) :
    ∃ own other,
      ((extract limits message (some ⟨some place, first⟩)).run store).1 = .ok own ∧
      ((extract limits message (some ⟨some place, second⟩)).run store).1 = .ok other ∧
      own.reference = other.reference ∧ own.reference.multiline = true ∧
      own.reference.stop = own.reference.text.length ∧
      ∃ start line starts begin,
        ((Document.lineColumn first.start).run d).1 = .ok start ∧
        ((Document.lineAt first.start).run d).1 = .ok line ∧
        (Document.lineStarts.run d).1 = .ok starts ∧
        starts[start.line.toNat]? = some begin ∧
        (start.column ≤ line.length → ∃ single alone,
          Span.ofBounds first.start (begin + line.length) = .ok single ∧
          ((extract limits message (some ⟨some place, single⟩)).run store).1 = .ok alone ∧
          alone.reference = { own.reference with multiline := false }) := by
  have index := reached.index
  obtain ⟨firstInside, held⟩ := leavesHeld firstLeaves
  obtain ⟨secondInside, _⟩ := leavesHeld secondLeaves
  obtain ⟨s, atStart, atStop, atLine, seen⟩ := Lookup.answersInside index first firstInside
  obtain ⟨t, otherStart, otherStop, otherLine, otherSeen⟩ :=
    Lookup.answersInside index second secondInside
  have later := leavesLater firstLeaves atStart atStop
  have otherLater := leavesLater secondLeaves otherStart otherStop
  have start : s.start = t.start := by
    rw [begins] at otherStart
    exact Except.ok.inj (atStart.symm.trans otherStart)
  have line : s.line = t.line := by
    rw [begins] at otherLine
    exact Except.ok.inj (atLine.symm.trans otherLine)
  have near := sightedNear index seen
  obtain ⟨begin, found, column⟩ : ∃ begin, d.starts[s.start.line.toNat]? = some begin ∧
      s.start.column = first.start - begin := by
    obtain ⟨_, _, la, sa, lb, sb, lineOf, _, rfl⟩ := Lookup.sightSource index seen
    exact ⟨sa, lineOf.found, rfl⟩
  refine ⟨_, _, Lookup.extractHeld held seen limits message here,
    Lookup.extractHeld held otherSeen limits message here,
    referenceLater start line later otherLater limits d.name message, decide_eq_true later,
    multilineStop context near later d.name message, s.start, s.line, d.starts, begin, atStart,
    atLine, rfl, found, ?_⟩
  intro within
  let single : Span := ⟨first.start, begin + s.line.length, first.nonnegative, by omega⟩
  have alone := sightedEnded index seen found (show single.start = first.start from rfl) rfl
  exact ⟨single, _, Span.ofBoundsSelf single, Lookup.extractHeld held alone limits message here,
    referenceEnded later limits d.name message⟩

/- The line ends in a carriage return, before which the single-line range stops. -/
theorem multilineToEndReturn :
    (Document.ofText ['a'] "bcd\r\ne\nf".toList).Reachable ∧
    ∃ own other alone,
      ((extract ⟨0, 1, ['.'], ['>']⟩ [] (some ⟨some 0, ⟨1, 6, by decide, by decide⟩⟩)).run
        [Document.ofText ['a'] "bcd\r\ne\nf".toList]).1 = .ok own ∧
      ((extract ⟨0, 1, ['.'], ['>']⟩ [] (some ⟨some 0, ⟨1, 8, by decide, by decide⟩⟩)).run
        [Document.ofText ['a'] "bcd\r\ne\nf".toList]).1 = .ok other ∧
      own.reference = other.reference ∧ own.reference.multiline = true ∧
      own.reference.stop = own.reference.text.length ∧
      ((extract ⟨0, 1, ['.'], ['>']⟩ [] (some ⟨some 0, ⟨1, 3, by decide, by decide⟩⟩)).run
        [Document.ofText ['a'] "bcd\r\ne\nf".toList]).1 = .ok alone ∧
      alone.reference = { own.reference with multiline := false } := by
  have reached : (Document.ofText ['a'] "bcd\r\ne\nf".toList).Reachable := ⟨_, _, [], rfl⟩
  obtain ⟨own, other, first, second, same, multiline, stop, start, line, starts, begin, atStart,
      atLine, atStarts, found, ends⟩ :=
    @multilineToEnd _ reached ⟨0, 1, ['.'], ['>']⟩ (by decide) ⟨1, 6, by decide, by decide⟩
      ⟨1, 8, by decide, by decide⟩ rfl ⟨_, _, rfl, rfl, by decide⟩ ⟨_, _, rfl, rfl, by decide⟩ []
      [Document.ofText ['a'] "bcd\r\ne\nf".toList] 0 rfl
  cases atStart
  cases atLine
  cases atStarts
  cases found
  obtain ⟨single, alone, built, third, ended⟩ := ends (by decide)
  cases built
  exact ⟨reached, own, other, alone, first, second, same, multiline, stop, third, ended⟩

end SourceExcerpt
