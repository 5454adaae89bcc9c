import SourceExcerpt.Proofs.Lookup
import SourceExcerpt.Proofs.Width
/-! Where the columns of a reference point. Neither way of shortening brings them into the text,
and a range that runs over the end of its line may even stop before it starts; cut off at the
end of the text, they are in order and index it all the same. Some context is needed for that:
without any, a range that crosses its stop still does so in the window of a long line. -/
namespace SourceExcerpt
open Text

/-! A range of a shown line, which may run past it by a carriage return that is not shown. Where the
range goes on on another line, it stops at the end of this one, even if it starts later. -/
structure Marked.Near (m : Marked) : Prop where
  low : 0 ≤ m.start
  begins : m.start ≤ m.text.length + 1
  reaches : m.start ≤ m.stop ∨ m.stop = m.text.length
  ends : m.stop ≤ m.text.length + 1

theorem sightedNear {d : Document} (index : LineIndex d.starts) {span : Span} {s : Sighting}
    {after : Document} (seen : (sight span).run d = (.ok s, after)) : s.marked.Near := by
  obtain ⟨inside, _, la, sa, lb, sb, first, last, rfl⟩ := Lookup.sightSource index seen
  have ordered := span.ordered
  have begun := first.begun
  have begins := LineIndex.columnShown first (Int.le_trans ordered inside)
  have ends := LineIndex.columnShown last inside
  rcases index.lineOfOrder ordered first last with ⟨rfl, rfl⟩ | ⟨later, _⟩
  · rw [Sighting.markedSingle rfl]
    exact ⟨by simp only; omega, begins, .inl (by simp only; omega), ends⟩
  · rw [Sighting.markedMultiline (by simp only; omega)]
    exact ⟨by simp only; omega, begins, .inr rfl, by simp only; omega⟩

/-! What has to hold of the range that is marked, and of the range that is shown. -/
structure Marked.Begins (m : Marked) (context : Int) : Prop where
  low : 0 ≤ m.start
  reaches : m.start ≤ m.stop ∨ m.stop = m.text.length ∧ m.start ≤ m.text.length + context

structure Marked.Shows (m : Marked) : Prop where
  low : 0 ≤ m.start
  reaches : m.start ≤ m.stop ∨ m.text.length ≤ m.stop

theorem collapseBegins {limits : Limits} {m : Marked} (context : 0 ≤ limits.context)
    (begins : m.Begins limits.context) : (limits.collapse m).Begins limits.context := by
  rcases Int.lt_or_le limits.maxWidth (m.stop - m.start) with wide | narrow
  · rw [Limits.collapseWide wide]
    refine ⟨begins.low, .inl ?_⟩
    simp only [Limits.collapsedWidth]
    omega
  · rw [Limits.collapseNarrow narrow]
    exact begins

theorem windowShows {limits : Limits} {m : Marked} (context : 0 ≤ limits.context)
    (begins : m.Begins limits.context) : (limits.window m).Shows := by
  have low := begins.low
  rcases Int.lt_or_le limits.maxWidth m.text.length with wide | narrow
  · have start : 0 ≤ (limits.window m).start := by
      rw [Limits.windowWide wide]
      simp only [Limits.markerColumn]
      split <;> omega
    refine ⟨start, ?_⟩
    rcases begins.reaches with ordered | ⟨atEnd, near⟩
    · rw [Limits.windowWide wide]
      exact .inl (by simp only; omega)
    · exact .inr (limits.windowStop context low near (Int.le_of_eq atEnd.symm))
  · rw [Limits.windowNarrow narrow]
    refine ⟨low, ?_⟩
    rcases begins.reaches with ordered | ⟨atEnd, _⟩
    · exact .inl ordered
    · exact .inr (Int.le_of_eq atEnd.symm)

/-! What a source has to answer for its columns to be good. -/
structure Sighting.Ordered (s : Sighting) (context : Int) : Prop where
  start : 0 ≤ s.start.column
  stop : 0 ≤ s.stop.column
  sameLine : s.start.line = s.stop.line → s.start.column ≤ s.stop.column
  laterLine : s.start.line ≠ s.stop.line → s.start.column ≤ s.line.length + context

theorem markedBegins {s : Sighting} {context : Int} (ordered : s.Ordered context) :
    s.marked.Begins context := by
  refine ⟨ordered.start, ?_⟩
  by_cases same : s.start.line = s.stop.line
  · rw [Sighting.markedSingle same]
    exact .inl (ordered.sameLine same)
  · rw [Sighting.markedMultiline same]
    exact .inr ⟨rfl, ordered.laterLine same⟩

structure Reference.Indexed (r : Reference) : Prop where
  low : 0 ≤ r.start
  ordered : r.start ≤ r.stop
  within : r.stop ≤ r.text.length

theorem messageOnlyIndexed (message : Text) (name : Option Text) :
    (Reference.messageOnly message name).Indexed :=
  ⟨Int.le_refl 0, Int.le_refl 0, Int.le_refl 0⟩

theorem sightedIndexed {s : Sighting} {limits : Limits} (context : 0 ≤ limits.context)
    (ordered : s.Ordered limits.context) (name message : Text) :
    (s.reference limits name message).Indexed := by
  have shows : (limits.shorten s.marked).Shows :=
    windowShows context (collapseBegins context (markedBegins ordered))
  have low := shows.low
  have reaches := shows.reaches
  refine ⟨?_, ?_, ?_⟩ <;> simp only [Sighting.reference] <;> omega

/- Only how far a range of more lines may begin past the line shown depends on what that line
lost at its end. -/
theorem sightedReaching {d : Document} (index : LineIndex d.starts) {span : Span} {context : Int}
    (reaches : span.stop ≤ d.text.length → ∀ line start, LineIndex.LineOf d.starts span.start line start →
      span.start - start ≤ (Lines.dropReturn (d.text.slice start
        (LineIndex.lineStop d.starts d.text.length line))).length + context)
    {s : Sighting} {after : Document} (seen : (sight span).run d = (.ok s, after)) :
    s.Ordered context := by
  have ordered := span.ordered
  obtain ⟨high, _, la, sa, lb, sb, first, last, rfl⟩ := Lookup.sightSource index seen
  have begun := first.begun
  have reached := last.begun
  refine ⟨by simp only; omega, by simp only; omega, ?_, ?_⟩
  · intro (same : (la : Int) = lb)
    rcases index.lineOfOrder ordered first last with ⟨_, start⟩ | ⟨less, _⟩
    · simp only
      omega
    · omega
  · intro _
    exact reaches high la sa first

theorem sightedOrdered {d : Document} (index : LineIndex d.starts) {span : Span} {context : Int}
    (positive : 1 ≤ context) {s : Sighting} {after : Document}
    (seen : (sight span).run d = (.ok s, after)) : s.Ordered context := by
  refine sightedReaching index (fun high line start lineOf => ?_) seen
  have shown := LineIndex.columnShown lineOf (Int.le_trans span.ordered high)
  omega

theorem sightedPlain {d : Document} (index : LineIndex d.starts) (plain : '\r' ∉ d.text)
    {span : Span} {context : Int} (nonnegative : 0 ≤ context) {s : Sighting} {after : Document}
    (seen : (sight span).run d = (.ok s, after)) : s.Ordered context := by
  refine sightedReaching index (fun high line start lineOf => ?_) seen
  have sliced := LineIndex.columnSliced lineOf (Int.le_trans span.ordered high)
  rw [Lines.dropReturnPlain fun returned => plain (sliceMember returned)]
  omega

theorem columnsIndexExcerpt :
    (∀ (σ : Type) [Buffer σ] (limits : Limits) (message : Text) (location : Option Location)
      (store after : Store σ) (extraction : Extraction), 0 ≤ limits.context →
      (∀ site s asked, location.bind (Location.siteIn · store) = some site →
        (sight site.span).run site.buffer = (.ok s, asked) → s.Ordered limits.context) →
      (extract limits message location).run store = (.ok extraction, after) →
      extraction.reference.Indexed) ∧
    (∀ (d : Document), d.Reachable → ∀ (span : Span) (context : Int), 1 ≤ context →
      ∀ s after, (sight span).run d = (.ok s, after) → s.Ordered context) := by
  refine ⟨?_, ?_⟩
  · intro σ _ limits message location store after extraction context answers found
    rcases extractAnswered found with ⟨name, only⟩ | ⟨site, s, asked, resolved, seen, same⟩
    · rw [only]
      exact messageOnlyIndexed message name
    · rw [same]
      exact sightedIndexed context (answers site s asked resolved seen) _ message
  · intro d reached span context positive s after seen
    exact sightedOrdered reached.index positive seen

theorem columnsIndexExcerptCarriage :
    (Document.ofText ['a'] ['b', '\r', '\n', 'c']).Reachable ∧
    ∃ extraction after,
      (extract ⟨0, 1, ['.'], []⟩ [] (some ⟨some 0, ⟨2, 4, by decide, by decide⟩⟩)).run
        ([Document.ofText ['a'] ['b', '\r', '\n', 'c']] : Store Document) =
          (.ok extraction, after) ∧
      extraction.reference.position = some ⟨0, 2⟩ ∧ extraction.reference.Indexed := by
  have reached : (Document.ofText ['a'] ['b', '\r', '\n', 'c']).Reachable := ⟨_, _, [], rfl⟩
  have found : ∃ extraction after,
      (extract ⟨0, 1, ['.'], []⟩ [] (some ⟨some 0, ⟨2, 4, by decide, by decide⟩⟩)).run
        ([Document.ofText ['a'] ['b', '\r', '\n', 'c']] : Store Document) =
          (.ok extraction, after) ∧
      extraction.reference.position = some ⟨0, 2⟩ := ⟨_, _, rfl, rfl⟩
  obtain ⟨extraction, after, found, position⟩ := found
  refine ⟨reached, extraction, after, found, position, ?_⟩
  refine columnsIndexExcerpt.1 Document _ _ _ _ _ _ (by decide) ?_ found
  intro site s asked here seen
  cases here
  exact columnsIndexExcerpt.2 _ reached _ 1 (by decide) s asked seen

/- Without context a window that begins past the end of its line does not reach back into it. -/
theorem windowCrossed {limits : Limits} (bare : limits.context = 0) {text : Text}
    (wide : limits.maxWidth < text.length) :
    limits.window ⟨text, text.length + 1, text.length⟩ =
      ⟨limits.separator, limits.separator.length, limits.separator.length - 1⟩ := by
  have nothing : limits.visible ⟨text, text.length + 1, text.length⟩ = [] := by
    rw [Limits.visibleSlice]
    exact slicePast _ (by simp only; omega) _
  have head : limits.cutsHead ⟨text, text.length + 1, text.length⟩ = true := by
    simp only [Limits.cutsHead, decide_eq_true_eq]
    omega
  have tail : limits.cutsTail ⟨text, text.length + 1, text.length⟩ = false := by
    simp only [Limits.cutsTailAt, decide_eq_false_iff_not]
    omega
  rw [Limits.windowWide wide, head, tail, nothing]
  simp only [Limits.markerColumn, bare, if_true, List.append_nil, Marked.mk.injEq, true_and,
    Bool.false_eq_true, if_false]
  omega

theorem crossedIndexed {limits : Limits} (bare : limits.context = 0) (width : 0 ≤ limits.maxWidth)
    {s : Sighting} (later : s.start.line ≠ s.stop.line)
    (past : s.start.column = s.line.length + 1) (name message : Text) :
    (s.reference limits name message).Indexed ↔ s.line.length ≤ limits.maxWidth := by
  have windowed : limits.shorten s.marked =
      limits.window ⟨s.line, s.line.length + 1, s.line.length⟩ := by
    rw [Sighting.markedMultiline later, past, Limits.shorten]
    exact congrArg limits.window (Limits.collapseNarrow (by simp only; omega))
  rcases Int.lt_or_le limits.maxWidth s.line.length with wide | fits
  · rw [windowCrossed bare wide] at windowed
    refine iff_of_false (fun indexed => ?_) (Int.not_le.mpr wide)
    have ordered := indexed.ordered
    simp only [Sighting.reference, windowed] at ordered
    omega
  · rw [Limits.windowNarrow fits] at windowed
    refine iff_of_true ?_ fits
    constructor <;> simp only [Sighting.reference, windowed] <;> omega

theorem sightedBare {limits : Limits} (bare : limits.context = 0) (width : 0 ≤ limits.maxWidth)
    {s : Sighting} (ordered : s.Ordered 1) (name message : Text) :
    (s.reference limits name message).Indexed ↔
      (s.start.line ≠ s.stop.line → limits.maxWidth < s.line.length →
        s.start.column ≤ s.line.length) := by
  have ⟨start, stop, sameLine, laterLine⟩ := ordered
  by_cases crossed : s.start.line ≠ s.stop.line ∧ s.line.length < s.start.column
  · obtain ⟨later, past⟩ := crossed
    have near := laterLine later
    have edge : s.start.column = s.line.length + 1 := by omega
    rw [crossedIndexed bare width later edge]
    constructor
    · intro fits _ wide
      omega
    · intro reaches
      have := reaches later
      omega
  · have reaches : s.Ordered limits.context :=
      ⟨start, stop, sameLine, fun later => by omega⟩
    exact iff_of_true (sightedIndexed (by omega) reaches name message) (by omega)

theorem columnsWithoutContext {d : Document} (reached : d.Reachable) {span : Span}
    (inside : span.stop ≤ d.text.length) {limits : Limits} (bare : limits.context = 0)
    (width : 0 ≤ limits.maxWidth) :
    ∃ start stop line,
      ((Document.lineColumn span.start).run d).1 = .ok start ∧
      ((Document.lineColumn span.stop).run d).1 = .ok stop ∧
      ((Document.lineAt span.start).run d).1 = .ok line ∧
      ∀ (message : Text) (store : Store Document) (place : Nat), store[place]? = some d →
        ∃ extraction after,
          (extract limits message (some ⟨some place, span⟩)).run store =
            (.ok extraction, after) ∧
          (extraction.reference.Indexed ↔
            (start.line ≠ stop.line → limits.maxWidth < line.length →
              start.column ≤ line.length)) := by
  have index := reached.index
  obtain ⟨s, atStart, atStop, atLine, seen⟩ := Lookup.answersInside index span inside
  refine ⟨s.start, s.stop, s.line, atStart, atStop, atLine, ?_⟩
  intro message store place here
  obtain ⟨extraction, after, answered, shown⟩ :=
    Lookup.extractStored index seen limits message here
  refine ⟨extraction, after, answered, ?_⟩
  rcases shown with whole | ⟨empty, only⟩
  · rw [whole]
    exact sightedBare bare width (sightedOrdered index (Int.le_refl 1) seen) d.name message
  · rw [only, empty]
    refine iff_of_true (messageOnlyIndexed message _) fun _ wide => ?_
    rw [List.length_nil] at wide
    omega

/- A range from the carriage return of a line on begins at the end of the text shown. -/
theorem columnsWithoutContextReturn :
    (Document.ofText ['a'] ['b', '\r', '\n', 'c']).Reachable ∧
    ∃ extraction after,
      (extract ⟨0, 0, ['.'], []⟩ [] (some ⟨some 0, ⟨1, 4, by decide, by decide⟩⟩)).run
        [Document.ofText ['a'] ['b', '\r', '\n', 'c']] = (.ok extraction, after) ∧
      extraction.reference.text = ['.'] ∧ extraction.reference.Indexed := by
  have reached : (Document.ofText ['a'] ['b', '\r', '\n', 'c']).Reachable := ⟨_, _, [], rfl⟩
  obtain ⟨start, stop, line, atStart, atStop, atLine, extracts⟩ :=
    @columnsWithoutContext _ reached ⟨1, 4, by decide, by decide⟩ (by decide) ⟨0, 0, ['.'], []⟩
      rfl (by decide)
  cases atStart
  cases atLine
  obtain ⟨extraction, after, answered, indexed⟩ :=
    extracts [] [Document.ofText ['a'] ['b', '\r', '\n', 'c']] 0 rfl
  have shown : extraction.reference.text = ['.'] := by
    cases answered
    rfl
  exact ⟨reached, extraction, after, answered, shown, indexed.mpr fun _ _ => by decide⟩

/- From the newline behind it the range begins one past that, and is seen to stop before it starts. -/
theorem columnsWithoutContextNot :
    ∃ extraction after,
      (extract ⟨0, 0, " ... ".toList, " ...".toList⟩ []
          (some ⟨some 0, ⟨2, 4, by decide, by decide⟩⟩)).run
        [Document.ofText ['a'] ['b', '\r', '\n', 'c']] = (.ok extraction, after) ∧
      extraction.reference.text = " ... ".toList ∧ extraction.reference.start = 5 ∧
      extraction.reference.stop = 4 :=
  ⟨_, _, rfl, rfl, rfl, rfl⟩

end SourceExcerpt
