import SourceExcerpt.Proofs.LineCut
/-! Extraction sees one line. Whole lines put before a text, and whatever is put after it from a
newline on, move what is flagged down and change nothing else about its reference. -/
namespace SourceExcerpt
open Text

def Position.below (lines : Nat) (p : Position) : Position := { p with line := p.line + lines }

def Sighting.below (lines : Nat) (s : Sighting) : Sighting :=
  { s with start := s.start.below lines, stop := s.stop.below lines }

def Reference.below (lines : Nat) (r : Reference) : Reference :=
  { r with position := r.position.map (Position.below lines) }

theorem belowMarked (lines : Nat) (s : Sighting) :
    (s.below lines).multiline = s.multiline ∧ (s.below lines).marked = s.marked := by
  have multiline : (s.below lines).multiline = s.multiline := by
    simp [Sighting.multiline, Sighting.below, Position.below]
  refine ⟨multiline, ?_⟩
  rw [Sighting.marked, multiline]
  rfl

theorem belowReference (lines : Nat) (s : Sighting) (limits : Limits) (name message : Text) :
    (s.below lines).reference limits name message =
      (s.reference limits name message).below lines := by
  obtain ⟨multiline, marked⟩ := belowMarked lines s
  simp only [Sighting.reference, multiline, marked]
  rfl

namespace LineCut
variable {text before after : Text} (begun : before = [] ∨ before.getLast? = some '\n')
  (ended : after = [] ∨ after.head? = some '\n')

theorem withinAround (cut : LineCut text) {offset : Int} (around : cut.Around offset) :
    (cut.within begun ended).Around (offset + before.length) := by
  obtain ⟨first, last⟩ := around
  simp only [Around, within, List.length_append]
  omega

theorem withinSighting (first last : LineCut text) {span moved : Span}
    (shifted : span.shift before.length = .ok moved) :
    (first.within begun ended).sighting (last.within begun ended) moved =
      (first.sighting last span).below (before.count '\n') := by
  obtain ⟨start, stop⟩ := Span.ofBoundsOk shifted
  simp only [sighting, Sighting.below, Position.below, withinNumber, start, stop]
  simp only [within, List.length_append, Sighting.mk.injEq, Position.mk.injEq, and_true]
  omega

end LineCut

theorem extractionLocal {text before after : Text} (held : text ≠ [])
    (begun : before = [] ∨ before.getLast? = some '\n')
    (ended : after = [] ∨ after.head? = some '\n') {span : Span}
    (inside : span.stop ≤ text.length) (name message : Text) (limits : Limits)
    {alone around : Store Document} {place there : Nat}
    (atAlone : alone[place]? = some (Document.ofText name text))
    (atAround : around[there]? = some (Document.ofText name (before ++ text ++ after))) :
    ∃ moved own other, span.shift before.length = .ok moved ∧
      ((extract limits message (some ⟨some place, span⟩)).run alone).1 = .ok own ∧
      ((extract limits message (some ⟨some there, moved⟩)).run around).1 = .ok other ∧
      other.reference = own.reference.below (before.count '\n') := by
  have low := span.nonnegative
  have ordered := span.ordered
  obtain ⟨first, last, atStart, atStop⟩ := LineCut.cutsAround inside
  let moved : Span :=
    ⟨span.start + before.length, span.stop + before.length, by omega, by omega⟩
  have shifted : span.shift before.length = .ok moved := Span.ofBoundsSelf moved
  have own := first.answersExtract name last span held atStart atStop limits message atAlone
  have heldAround : before ++ text ++ after ≠ [] := by simp [held]
  have other := (first.within begun ended).answersExtract name (last.within begun ended) moved
    heldAround (first.withinAround begun ended atStart) (last.withinAround begun ended atStop)
    limits message atAround
  refine ⟨moved, _, _, shifted, own, other, ?_⟩
  rw [LineCut.withinSighting begun ended first last shifted]
  exact belowReference _ _ limits name message

/- The last line of the text ends in a carriage return and is ended by what comes after it. -/
theorem extractionLocalLastLine :
    ∃ moved own other,
      (⟨1, 3, by decide, by decide⟩ : Span).shift 2 = .ok moved ∧
      ((extract Limits.standard [] (some ⟨some 0, ⟨1, 3, by decide, by decide⟩⟩)).run
        [Document.ofText ['a'] ['b', '\n', '\r']]).1 = .ok own ∧
      ((extract Limits.standard [] (some ⟨some 0, moved⟩)).run
        [Document.ofText ['a'] ['c', '\n', 'b', '\n', '\r', '\n']]).1 = .ok other ∧
      other.reference = own.reference.below 1 :=
  @extractionLocal ['b', '\n', '\r'] ['c', '\n'] ['\n'] (by decide) (by decide) (by decide) _
    (by decide) ['a'] [] Limits.standard _ _ 0 0 rfl rfl

end SourceExcerpt
