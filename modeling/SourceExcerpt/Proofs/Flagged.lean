import SourceExcerpt.Proofs.Lookup
import SourceExcerpt.Proofs.Shortening
/-! What a reference flags is what was flagged: the text of the range on its first line, whole or
with its middle cut out, whatever was cut off around it. -/
namespace SourceExcerpt
open Text

theorem sightedFlag {s : Sighting} {limits : Limits} (low : 0 ≤ limits.context)
    (high : limits.context ≤ limits.maxWidth) (inside : s.marked.Inside) (name message : Text) :
    (s.reference limits name message).flagged =
      limits.narrowed (s.line.slice s.marked.start s.marked.stop) := by
  obtain ⟨lead, rest, shown⟩ := shortenedParts low high inside
  let flag := limits.narrowed (s.line.slice s.marked.start s.marked.stop)
  have size : (lead ++ flag ++ rest).length = lead.length + flag.length + rest.length := by
    simp only [List.length_append]
  have start : min (lead.length : Int) (lead ++ flag ++ rest).length = lead.length := by omega
  have stop : min (lead.length + flag.length : Int) (lead ++ flag ++ rest).length =
      lead.length + flag.length := by omega
  have same : (s.reference limits name message).flagged =
      (lead ++ flag ++ rest).slice (min (lead.length : Int) (lead ++ flag ++ rest).length)
        (min (lead.length + flag.length : Int) (lead ++ flag ++ rest).length) := by
    simp only [Sighting.reference, Reference.flagged, shown, Marked.ofParts]
    rfl
  rw [same, start, stop]
  exact sliceMiddle lead flag rest

theorem extractedFlag {d asked : Document} (index : LineIndex d.starts) {span : Span} {s : Sighting}
    (seen : (sight span).run d = (.ok s, asked)) {limits : Limits} (low : 0 ≤ limits.context)
    (high : limits.context ≤ limits.maxWidth) (inside : s.marked.Inside) (message : Text) :
    ∃ extraction after, (extractFrom limits message span).run d = (.ok extraction, after) ∧
      extraction.reference.flagged =
        limits.narrowed (s.line.slice s.marked.start s.marked.stop) := by
  obtain ⟨extraction, after, answered, shown⟩ := Lookup.extractSeen index seen limits message
  refine ⟨extraction, after, answered, ?_⟩
  rcases shown with whole | ⟨empty, only⟩
  · rw [whole]
    exact sightedFlag low high inside d.name message
  · have noFlag : s.line.slice s.marked.start s.marked.stop = [] := by simp [empty, slice]
    rw [only, noFlag]
    exact (if_pos (Int.le_trans low high)).symm

theorem flaggedTextShown {d : Document} (reached : d.Reachable) {span : Span}
    (inside : span.stop ≤ d.text.length) {limits : Limits} (low : 0 ≤ limits.context)
    (high : limits.context ≤ limits.maxWidth) :
    ∃ start stop line,
      ((Document.lineColumn span.start).run d).1 = .ok start ∧
      ((Document.lineColumn span.stop).run d).1 = .ok stop ∧
      ((Document.lineAt span.start).run d).1 = .ok line ∧
      (let ending : Int := if start.line ≠ stop.line then line.length else stop.column
       let flag := line.slice start.column ending
       start.column ≤ ending → ending ≤ line.length →
       ∀ (message : Text) (store : Store Document) (place : Nat), store[place]? = some d →
        ∃ extraction after,
          (extract limits message (some ⟨some place, span⟩)).run store =
            (.ok extraction, after) ∧
          extraction.reference.flagged =
            if flag.length ≤ limits.maxWidth then flag
            else flag.before limits.context ++ limits.separator ++
              flag.onward (flag.length - limits.context)) := by
  have index := reached.index
  obtain ⟨la, sa, lb, sb, first, last, seen⟩ := Lookup.sightInside index span inside
  have early : span.start ≤ d.text.length := Int.le_trans span.ordered inside
  let s : Sighting := ⟨⟨la, span.start - sa⟩, ⟨lb, span.stop - sb⟩,
    Lines.dropReturn (d.text.slice sa (LineIndex.lineStop d.starts d.text.length la))⟩
  refine ⟨s.start, s.stop, s.line, congrArg Prod.fst (index.lineColumnInside first early),
    congrArg Prod.fst (index.lineColumnInside last inside),
    congrArg Prod.fst (index.lineAtInside first early), ?_⟩
  intro ending flag ordered within message store place here
  have stop : s.marked.stop = ending := by
    simp only [Sighting.marked, Sighting.multiline, decide_eq_true_eq]
    rfl
  have begun : 0 ≤ s.start.column := by
    have := first.begun
    change 0 ≤ span.start - sa
    omega
  have marked : s.marked.Inside := ⟨begun, stop ▸ ordered, stop ▸ within⟩
  obtain ⟨extraction, after, answered, shown⟩ :=
    extractedFlag index seen low high marked message
  rw [stop] at shown
  rw [extractOf limits message span here, answered]
  exact ⟨extraction, _, rfl, shown⟩

theorem flaggedTextShownCollapsed :
    (Document.ofText ['a'] ['x', '0', '1', '2', '3', 'y']).Reachable ∧
    ∃ extraction after,
      (extract ⟨2, 1, ['.'], ['>']⟩ [] (some ⟨some 0, ⟨1, 5, by decide, by decide⟩⟩)).run
        [Document.ofText ['a'] ['x', '0', '1', '2', '3', 'y']] = (.ok extraction, after) ∧
      extraction.reference.flagged = ['0', '.', '3'] := by
  have reached : (Document.ofText ['a'] ['x', '0', '1', '2', '3', 'y']).Reachable :=
    ⟨_, _, [], rfl⟩
  obtain ⟨start, stop, line, atStart, atStop, atLine, shown⟩ :=
    @flaggedTextShown _ reached ⟨1, 5, by decide, by decide⟩ (by decide) ⟨2, 1, ['.'], ['>']⟩
      (by decide) (by decide)
  cases atStart
  cases atStop
  cases atLine
  exact ⟨reached, shown (by decide) (by decide) [] _ 0 rfl⟩

end SourceExcerpt
