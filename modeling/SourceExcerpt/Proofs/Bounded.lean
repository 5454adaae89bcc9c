import SourceExcerpt.Proofs.Columns
/-! How long an excerpt can get. What is shown is a range that was collapsed if it was too wide, its
context, and the markers; neither the line nor the range has a say in it. -/
namespace SourceExcerpt
open Text

namespace Limits
variable {limits : Limits} {m : Marked}

theorem collapseMost (limits : Limits) (m : Marked) :
    (limits.collapse m).stop - (limits.collapse m).start ≤
      max limits.maxWidth limits.collapsedWidth := by
  rw [collapseStart]
  rcases Int.lt_or_le limits.maxWidth (m.stop - m.start) with wide | narrow
  · rw [collapseStop wide]
    omega
  · rw [collapseNarrow narrow]
    omega

theorem visibleMost (stop : 0 ≤ m.stop + limits.context) :
    ((limits.visible m).length : Int) ≤ max 0 (m.stop - m.start + 2 * limits.context) := by
  have first : cut m.text.length (max 0 (m.start - limits.context)) = _ := cutLow (by omega)
  have last : cut m.text.length (min m.text.length (m.stop + limits.context)) = _ :=
    cutLow (by omega)
  rw [visibleSlice, sliceLength, first, last]
  omega

theorem windowMost (stop : 0 ≤ m.stop + limits.context) :
    ((limits.window m).text.length : Int) ≤ max limits.maxWidth
      (max 0 (m.stop - m.start + 2 * limits.context) + limits.separator.length +
        limits.trailingMarker.length) := by
  rcases Int.lt_or_le limits.maxWidth m.text.length with wide | fits
  · have shown := visibleMost stop
    have head : (if limits.cutsHead m then limits.separator else []).length ≤
        limits.separator.length := by split <;> simp
    have tail : (if limits.cutsTail m then limits.trailingMarker else []).length ≤
        limits.trailingMarker.length := by split <;> simp
    rw [windowWide wide, List.length_append, List.length_append]
    omega
  · rw [windowNarrow fits]
    omega

/- A range may stop before it starts, as long as the context reaches back over that. -/
theorem shortenMost (low : 0 ≤ limits.context) (start : 0 ≤ m.start)
    (stop : 0 ≤ m.stop + limits.context) :
    ((limits.shorten m).text.length : Int) ≤
      max limits.maxWidth (2 * limits.context + limits.separator.length) + 2 * limits.context +
        limits.separator.length + limits.trailingMarker.length := by
  -- once collapsed, a range no longer stops before it starts
  have ended : 0 ≤ (limits.collapse m).stop + limits.context := by
    rcases Int.lt_or_le limits.maxWidth (m.stop - m.start) with wide | narrow
    · rw [collapseStop wide, collapsedWidth]
      omega
    · rwa [collapseNarrow narrow]
  have width := limits.collapseMost m
  have shown := windowMost ended
  rw [collapsedWidth] at width
  rw [shorten]
  omega

end Limits

theorem excerptBounded {store after : Store Document} (reached : ∀ d ∈ store, d.Reachable)
    {limits : Limits} (context : 0 ≤ limits.context) {message : Text} {location : Option Location}
    {extraction : Extraction}
    (answered : (extract limits message location).run store = (.ok extraction, after)) :
    (extraction.reference.text.length : Int) ≤
      max limits.maxWidth (2 * limits.context + limits.separator.length) + 2 * limits.context +
        limits.separator.length + limits.trailingMarker.length := by
  rcases extractAnswered answered with ⟨name, only⟩ | ⟨site, s, asked, resolved, seen, same⟩
  · rw [only]
    simp only [Reference.messageOnly, List.length_nil]
    omega
  · obtain ⟨_, _, here⟩ := Option.bind_eq_some_iff.mp resolved
    have member := List.mem_of_getElem? (Location.siteKept here).2.1
    have ⟨low, _, reaches, _⟩ := sightedNear (reached site.buffer member).index seen
    rw [same]
    exact limits.shortenMost context low (by omega)

/- The line is looked up in an index that is out of date, and the context reaches back over its
beginning, so that its end is shown twice. -/
theorem excerptBoundedStale :
    (⟨['a'], ['0', '1', '2', '3'], some [0, 2]⟩ : Document).Reachable ∧
    ∃ extraction after,
      (extract ⟨0, 3, ['.'], ['>']⟩ [] (some ⟨some 0, ⟨3, 4, by decide, by decide⟩⟩)).run
        ([⟨['a'], ['0', '1', '2', '3'], some [0, 2]⟩] : Store Document) = (.ok extraction, after) ∧
      extraction.reference.text = ['2', '3', '.', '3'] ∧
      extraction.reference.text.length ≤ (15 : Int) := by
  have reached : (⟨['a'], ['0', '1', '2', '3'], some [0, 2]⟩ : Document).Reachable :=
    ⟨['a'], ['x', '\n'], [.lineCount, .setText ['0', '1', '2', '3']], rfl⟩
  obtain ⟨extraction, after, answered, text⟩ : ∃ extraction after,
      (extract ⟨0, 3, ['.'], ['>']⟩ [] (some ⟨some 0, ⟨3, 4, by decide, by decide⟩⟩)).run
        ([⟨['a'], ['0', '1', '2', '3'], some [0, 2]⟩] : Store Document) = (.ok extraction, after) ∧
      extraction.reference.text = ['2', '3', '.', '3'] := ⟨_, _, rfl, rfl⟩
  refine ⟨reached, extraction, after, answered, text, ?_⟩
  exact excerptBounded (fun d member => List.mem_singleton.mp member ▸ reached) (by decide) answered

end SourceExcerpt
