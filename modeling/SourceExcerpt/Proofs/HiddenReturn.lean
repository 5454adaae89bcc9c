import SourceExcerpt.Proofs.Partition
import SourceExcerpt.Proofs.ShownColumns
import SourceExcerpt.Proofs.Width
/-! Carriage returns that are not shown. A line is shown without the carriage return at its end, but
columns count it, so a range may stop one column past the text shown. Windowing does not see that
column. Collapsing does: it counts for the width of the range, and takes the place of a code point of
the context. -/
namespace SourceExcerpt
open Text

/- The window ends where the text does, no matter how far past it the range stops. -/
theorem windowPast {limits : Limits} (low : 0 ≤ limits.context) {text : Text} {stop : Int}
    (past : text.length ≤ stop) (start : Int) :
    (limits.window ⟨text, start, stop⟩).text = (limits.window ⟨text, start, text.length⟩).text ∧
    (limits.window ⟨text, start, stop⟩).start =
      (limits.window ⟨text, start, text.length⟩).start := by
  rcases Int.lt_or_le limits.maxWidth text.length with wide | fits
  · have noTail {stop : Int} (past : text.length ≤ stop) :
        limits.cutsTail ⟨text, start, stop⟩ = false := by
      simp only [Limits.cutsTailAt, decide_eq_false_iff_not]
      omega
    have toEnd {stop : Int} (past : text.length ≤ stop) :
        limits.visible ⟨text, start, stop⟩ = text.onward (max 0 (start - limits.context)) := by
      have last : min (text.length : Int) (stop + limits.context) = text.length := by omega
      rw [Limits.visibleSlice, last, sliceToEnd]
    rw [Limits.windowWide wide, Limits.windowWide wide, noTail past, noTail (Int.le_refl _),
      toEnd past, toEnd (Int.le_refl _)]
    exact ⟨rfl, rfl⟩
  · rw [Limits.windowNarrow fits, Limits.windowNarrow fits]
    exact ⟨rfl, rfl⟩

theorem collapsedToEnd {m : Marked} (begun : 0 ≤ m.start)
    (wide : Limits.standard.maxWidth < m.stop - m.start) (past : m.text.length ≤ m.stop)
    (near : m.stop ≤ m.text.length + 1) :
    ((Limits.standard.shorten m).text.length : Int) = m.start + 75 + (m.text.length - m.stop) +
      if 75 < m.start + (m.text.length - m.stop) then Limits.standard.headGrowth m.start else 0 := by
  obtain ⟨maxWidth, context, separator, marker, collapsed⟩ := Limits.standardSizes
  have start := Limits.collapseStart Limits.standard m
  have stop := Limits.collapseStop wide
  have width := Limits.collapseWidth (by omega) begun wide (by omega) (by omega) (by omega)
  have windowed := Limits.standard.windowToEnd (m := Limits.standard.collapse m)
    (by omega) (by omega) (by omega) (by omega)
  rw [Limits.shorten, windowed, start]
  split <;> split <;> omega

/-! A range that stops at the end of what is shown of its line, and one that stops after the
carriage return there. -/
theorem narrowSame {limits : Limits} (low : 0 ≤ limits.context) {line : Text} {start : Position}
    (begun : 0 ≤ start.column) (inside : start.column ≤ line.length)
    (narrow : line.length - start.column < limits.maxWidth) (name message : Text) :
    (⟨start, ⟨start.line, line.length⟩, line⟩ : Sighting).reference limits name message =
      (⟨start, ⟨start.line, line.length + 1⟩, line⟩ : Sighting).reference limits name message := by
  have past : (line.length : Int) ≤ line.length + 1 := Int.le_of_lt (Int.lt_succ _)
  have windowed {stop : Int} (near : stop ≤ line.length + 1) :
      limits.shorten ⟨line, start.column, stop⟩ = limits.window ⟨line, start.column, stop⟩ := by
    rw [Limits.shorten, Limits.collapseNarrow (by simp only; omega)]
  have short := windowed past
  have long := windowed (Int.le_refl _)
  have own := limits.windowStop (m := ⟨line, start.column, line.length⟩) low begun
    (by simp only; omega) (Int.le_refl _)
  have other := limits.windowStop (m := ⟨line, start.column, line.length + 1⟩) low begun
    (by simp only; omega) past
  obtain ⟨text, first⟩ := windowPast low past start.column
  rw [text] at other
  have stop := (Int.min_eq_right own).trans (Int.min_eq_right other).symm
  simp only [Sighting.reference, Sighting.multiline, Sighting.markedSingle, short, long, text,
    first, stop]

theorem wideApart {line : Text} {start : Position} (begun : 0 ≤ start.column)
    (wide : Limits.standard.maxWidth ≤ line.length - start.column) :
    (Limits.standard.shorten ⟨line, start.column, line.length⟩).text.length ≠
      (Limits.standard.shorten ⟨line, start.column, line.length + 1⟩).text.length := by
  obtain ⟨maxWidth, context, separator, marker, collapsed⟩ := Limits.standardSizes
  have growth : ∀ before, Limits.standard.headGrowth before =
      if 35 < before then 5 - (before - 35) else 0 := fun _ => rfl
  have long := collapsedToEnd (m := ⟨line, start.column, line.length + 1⟩) begun
    (by simp only; omega) (by simp only; omega) (by simp only; omega)
  rcases Int.lt_or_eq_of_le wide with wider | exact
  · have short := collapsedToEnd (m := ⟨line, start.column, line.length⟩) begun
      wider (by simp only; omega) (by simp only; omega)
    simp only [growth] at short long
    omega
  · have short := Limits.standard.windowToEnd (m := ⟨line, start.column, line.length⟩)
      (by omega) begun (by simp only; omega) (Int.le_refl _)
    rw [Limits.shorten, Limits.collapseNarrow (Int.le_of_eq exact.symm)]
    simp only [growth] at short long
    omega

/-! A carriage return with a newline after it ends its line. -/
namespace LineCut
variable {text : Text} {offset : Int}

theorem returnedLast (cut : LineCut text) (around : cut.Around offset)
    (returned : text[offset.toNat]? = some '\r') (broken : text[offset.toNat + 1]? = some '\n') :
    offset = cut.lead.length + (Lines.dropReturn cut.line).length ∧
      cut.line.length = (Lines.dropReturn cut.line).length + 1 := by
  have ⟨first, last⟩ := around
  have within : offset ≠ cut.lead.length + cut.line.length := by
    intro atEnd
    rcases (cut.endedAt around).mp atEnd with nothing | newline
    · simp [returned] at nothing
    · simp [returned] at newline
  obtain ⟨n, rfl⟩ := Int.eq_ofNat_of_zero_le (show 0 ≤ offset by omega)
  rw [Int.toNat_natCast] at returned broken
  have next : cut.Around (n + 1 : Nat) := ⟨by omega, by omega⟩
  have after : AfterReturn text (n + 1) := ⟨by simp [List.getLast?_take, returned], .inr broken⟩
  have past := mt (cut.columnWithin next).mp (not_not_intro after)
  have loses := Lines.dropReturnLoses cut.line
  omega

/- Both ranges are seen to begin at one place of the line, and stop at the end of what is shown of
it and one column on. -/
theorem returnedSightings (cut : LineCut text) {short long : Span}
    (atStart : cut.Around short.start) (atStop : cut.Around short.stop)
    (begins : long.start = short.start) (ends : long.stop = short.stop + 1)
    (returned : text[short.stop.toNat]? = some '\r')
    (broken : text[short.stop.toNat + 1]? = some '\n') :
    cut.Around long.start ∧ cut.Around long.stop ∧ ∃ (start : Position) (shown : Text),
      0 ≤ start.column ∧ short.length = shown.length - start.column ∧
      cut.sighting cut short = ⟨start, ⟨start.line, shown.length⟩, shown⟩ ∧
      cut.sighting cut long = ⟨start, ⟨start.line, shown.length + 1⟩, shown⟩ := by
  obtain ⟨last, size⟩ := cut.returnedLast atStop returned broken
  have shortStop : short.stop - cut.lead.length = (Lines.dropReturn cut.line).length := by omega
  have longStop : long.stop - cut.lead.length = (Lines.dropReturn cut.line).length + 1 := by omega
  refine ⟨begins ▸ atStart, ?_, ⟨cut.number, short.start - cut.lead.length⟩,
    Lines.dropReturn cut.line, Int.sub_nonneg.mpr atStart.1, ?_, ?_, ?_⟩
  · simp only [Around]
    omega
  · rw [← shortStop, Span.length]
    simp only
    omega
  · rw [sighting, shortStop]
  · rw [sighting, longStop, begins]

end LineCut

theorem hiddenReturnUnseen {text : Text} (name message : Text) {short long : Span}
    (begins : long.start = short.start) (ends : long.stop = short.stop + 1)
    (returned : text[short.stop.toNat]? = some '\r')
    (broken : text[short.stop.toNat + 1]? = some '\n')
    (sameLine : ∃ p q,
      ((Document.lineColumn short.start).run (Document.ofText name text)).1 = .ok p ∧
      ((Document.lineColumn short.stop).run (Document.ofText name text)).1 = .ok q ∧
      p.line = q.line)
    {store : Store Document} {place : Nat}
    (here : store[place]? = some (Document.ofText name text)) :
    ∃ own other,
      ((extract Limits.standard message (some ⟨some place, short⟩)).run store).1 = .ok own ∧
      ((extract Limits.standard message (some ⟨some place, long⟩)).run store).1 = .ok other ∧
      (own.reference = other.reference ↔ short.length < Limits.standard.maxWidth) := by
  have known : short.stop.toNat < text.length := (List.getElem?_eq_some_iff.mp returned).1
  have held : text ≠ [] := List.ne_nil_of_length_pos (Nat.zero_lt_of_lt known)
  have inside : short.stop ≤ text.length := by omega
  have ordered := short.ordered
  obtain ⟨first, cut, atFirst, atStop⟩ := LineCut.cutsAround inside
  have atStart : cut.Around short.start := by
    obtain ⟨p, q, begin, stop, same⟩ := sameLine
    cases begin.symm.trans (congrArg Prod.fst (first.answersColumn name atFirst))
    cases stop.symm.trans (congrArg Prod.fst (cut.answersColumn name atStop))
    exact (LineCut.aroundNumbered atFirst).mpr (Int.ofNat_inj.mp same)
  obtain ⟨longStart, longStop, start, shown, begun, width, shortSeen, longSeen⟩ :=
    cut.returnedSightings atStart atStop begins ends returned broken
  refine ⟨_, _, cut.answersExtract name cut short held atStart atStop Limits.standard message here,
    cut.answersExtract name cut long held longStart longStop Limits.standard message here, ?_⟩
  rw [shortSeen, longSeen, width]
  constructor
  · intro same
    refine Int.lt_of_not_ge fun wide => wideApart begun wide ?_
    simpa only [Sighting.reference, Sighting.markedSingle] using
      congrArg (fun reference => reference.text.length) same
  · intro narrow
    have inside : start.column ≤ shown.length := by
      simp only [Span.length] at width
      omega
    exact narrowSame (by decide) begun inside narrow name message

theorem hiddenReturnUnseenShort :
    ∃ own other,
      ((extract Limits.standard [] (some ⟨some 0, ⟨0, 2, by decide, by decide⟩⟩)).run
        [Document.ofText ['a'] ['x', 'y', '\r', '\n']]).1 = .ok own ∧
      ((extract Limits.standard [] (some ⟨some 0, ⟨0, 3, by decide, by decide⟩⟩)).run
        [Document.ofText ['a'] ['x', 'y', '\r', '\n']]).1 = .ok other ∧
      own.reference = other.reference := by
  obtain ⟨own, other, short, long, same⟩ :=
    @hiddenReturnUnseen ['x', 'y', '\r', '\n'] ['a'] [] ⟨0, 2, by decide, by decide⟩
      ⟨0, 3, by decide, by decide⟩ rfl rfl rfl rfl ⟨_, _, rfl, rfl, rfl⟩
      [Document.ofText ['a'] ['x', 'y', '\r', '\n']] 0 rfl
  exact ⟨own, other, short, long, same.mpr (by decide)⟩

set_option maxRecDepth 10000 in
/- The range is just not collapsed, and with the carriage return it is. -/
theorem hiddenReturnUnseenNot :
    let text := List.replicate 150 'x' ++ ['\r', '\n']
    text[150]? = some '\r' ∧ text[151]? = some '\n' ∧ ∃ own other,
      ((extract Limits.standard [] (some ⟨some 0, ⟨0, 150, by decide, by decide⟩⟩)).run
        [Document.ofText ['a'] text]).1 = .ok own ∧
      ((extract Limits.standard [] (some ⟨some 0, ⟨0, 151, by decide, by decide⟩⟩)).run
        [Document.ofText ['a'] text]).1 = .ok other ∧
      own.reference.text.length = 150 ∧ other.reference.text.length = 74 :=
  ⟨rfl, rfl, _, _, rfl, rfl, rfl, rfl⟩

end SourceExcerpt
