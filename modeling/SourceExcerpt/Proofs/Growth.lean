import SourceExcerpt.Proofs.Columns
import SourceExcerpt.Proofs.LineCut
/-! When a shortened excerpt is longer than its line. A collapsed range makes up for every marker. A
window around a range that was not collapsed does not: it grows where it cuts off fewer code points
than its markers have. -/
namespace SourceExcerpt
open Text

/- What is cut out of the middle makes up for every marker. -/
theorem collapsedShorter {m : Marked} (near : m.Near)
    (wide : Limits.standard.maxWidth < m.stop - m.start) :
    (Limits.standard.shorten m).text.length ≤ m.text.length := by
  obtain ⟨low, begins, reaches, ends⟩ := near
  obtain ⟨maxWidth, context, separator, marker, collapsed⟩ := Limits.standardSizes
  have width := Limits.collapseWidth (by omega) low wide (by omega) (by omega) (by omega)
  have start := Limits.collapseStart Limits.standard m
  have stop := Limits.collapseStop wide
  have head := Limits.standard.headGrowthMost (Limits.standard.collapse m).start
  have tail := Limits.standard.tailGrowthMost
    ((Limits.standard.collapse m).text.length - (Limits.standard.collapse m).stop)
  have windowed := Limits.standard.windowGrowth (m := Limits.standard.collapse m) (by omega)
    (by omega) (by omega) (by omega)
  rw [Limits.shorten]
  split at windowed <;> omega

theorem shortenedLonger {m : Marked} (near : m.Near) :
    (Limits.standard.shorten m).text.length ≤ m.text.length ↔
      m.text.length ≤ Limits.standard.maxWidth ∨ Limits.standard.maxWidth < m.stop - m.start ∨
        Limits.standard.headGrowth m.start +
          Limits.standard.tailGrowth (m.text.length - m.stop) ≤ 0 := by
  have ⟨low, begins, reaches, ends⟩ := near
  obtain ⟨maxWidth, context, separator, marker, collapsed⟩ := Limits.standardSizes
  rcases Int.lt_or_le Limits.standard.maxWidth (m.stop - m.start) with wide | narrow
  · exact iff_of_true (collapsedShorter near wide) (.inr (.inl wide))
  · rw [Limits.shorten, Limits.collapseNarrow narrow]
    have windowed := Limits.standard.windowGrowth (m := m) (by omega) low (by omega) (by omega)
    split at windowed <;> omega

theorem excerptNoLonger {d : Document} (reached : d.Reachable) {span : Span}
    (inside : span.stop ≤ d.text.length) :
    ∃ start stop line,
      ((Document.lineColumn span.start).run d).1 = .ok start ∧
      ((Document.lineColumn span.stop).run d).1 = .ok stop ∧
      ((Document.lineAt span.start).run d).1 = .ok line ∧
      (let ending : Int := if start.line ≠ stop.line then line.length else stop.column
       ∀ (message : Text) (store : Store Document) (place : Nat), store[place]? = some d →
        ∃ extraction after,
          (extract Limits.standard message (some ⟨some place, span⟩)).run store =
            (.ok extraction, after) ∧
          (extraction.reference.text.length ≤ line.length ↔
            line.length ≤ Limits.standard.maxWidth ∨
            Limits.standard.maxWidth < ending - start.column ∨
            Limits.standard.headGrowth start.column +
              Limits.standard.tailGrowth (line.length - ending) ≤ 0)) := by
  have index := reached.index
  obtain ⟨s, atStart, atStop, atLine, seen⟩ := Lookup.answersInside index span inside
  refine ⟨s.start, s.stop, s.line, atStart, atStop, atLine, ?_⟩
  intro ending message store place here
  have stop : s.marked.stop = ending := by
    simp only [Sighting.marked, Sighting.multiline, decide_eq_true_eq]
    rfl
  obtain ⟨extraction, after, answered, shown⟩ :=
    Lookup.extractSeen index seen Limits.standard message
  rw [extractOf Limits.standard message span here, answered]
  refine ⟨extraction, _, rfl, ?_⟩
  rcases shown with whole | ⟨empty, only⟩
  · rw [whole, ← stop]
    exact shortenedLonger (sightedNear index seen)
  · rw [only, empty]
    exact iff_of_true (Nat.le_refl _) (.inl (by decide))

/- Nothing is cut off before the range, and enough after it. -/
theorem excerptNoLongerTail :
    (Document.ofText ['a'] (List.replicate 151 'x')).Reachable ∧
    ∃ extraction after,
      (extract Limits.standard [] (some ⟨some 0, ⟨35, 77, by decide, by decide⟩⟩)).run
        [Document.ofText ['a'] (List.replicate 151 'x')] = (.ok extraction, after) ∧
      extraction.reference.text.length ≤ 151 := by
  have unbroken : '\n' ∉ List.replicate 151 'x' := by simp
  have plain : (List.replicate 151 'x').getLast? ≠ some '\r' := by simp
  have size : (List.replicate 151 'x').length = 151 := List.length_replicate
  generalize List.replicate 151 'x' = text at unbroken plain size ⊢
  let cut : LineCut text := ⟨[], text, [], List.append_nil _, .inl rfl, unbroken, .inl rfl⟩
  have around {offset : Int} (low : 0 ≤ offset) (high : offset ≤ 151) : cut.Around offset := by
    simp only [LineCut.Around, cut, List.length_nil, size]
    omega
  have first := around (show 0 ≤ 35 by decide) (by decide)
  have last := around (show 0 ≤ 77 by decide) (by decide)
  have reached : (Document.ofText ['a'] text).Reachable := ⟨_, _, [], rfl⟩
  obtain ⟨start, stop, line, atStart, atStop, atLine, extracts⟩ :=
    @excerptNoLonger _ reached ⟨35, 77, by decide, by decide⟩ (cut.aroundInside last)
  cases atStart.symm.trans (congrArg Prod.fst (cut.answersColumn ['a'] first))
  cases atStop.symm.trans (congrArg Prod.fst (cut.answersColumn ['a'] last))
  cases atLine.symm.trans (congrArg Prod.fst (cut.answersLine ['a'] first))
  obtain ⟨extraction, after, answered, longer⟩ := extracts [] [Document.ofText ['a'] text] 0 rfl
  have shown : Lines.dropReturn cut.line = text := if_neg plain
  have growth : Limits.standard.headGrowth 35 + Limits.standard.tailGrowth (151 - 77) ≤ 0 := by
    decide
  rw [shown, size] at longer
  exact ⟨reached, extraction, after, answered, longer.mpr (.inr (.inr growth))⟩

set_option maxRecDepth 10000 in
/- One code point is cut off before the range, and five are put in its place. -/
theorem excerptNoLongerNot :
    ∃ line extraction after,
      ((Document.lineAt 36).run (Document.ofText ['a'] (List.replicate 151 'x'))).1 = .ok line ∧
      (extract Limits.standard [] (some ⟨some 0, ⟨36, 136, by decide, by decide⟩⟩)).run
        [Document.ofText ['a'] (List.replicate 151 'x')] = (.ok extraction, after) ∧
      line.length = 151 ∧ extraction.reference.text.length = 155 :=
  ⟨_, _, _, rfl, rfl, rfl, rfl⟩

end SourceExcerpt
