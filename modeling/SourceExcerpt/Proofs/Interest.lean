import SourceExcerpt.Proofs.Columns
/-! The point of interest stays in sight. Collapsing and windowing may repeat what is around the range
or lose it, but the code point the range begins with and the context before it come through both, in
one piece, and the start column goes along with them. -/
namespace SourceExcerpt
open Text

/-! A code point at a column, with what stands just before it. -/
def Pointed (text : Text) (column : Int) (near : Text) (c : Char) : Prop :=
  ∃ lead rest, text = lead ++ (near ++ [c]) ++ rest ∧ column = lead.length + near.length

namespace Pointed
variable {text near : Text} {column : Int} {c : Char}

theorem low (pointed : Pointed text column near c) : near.length ≤ column := by
  obtain ⟨lead, rest, _, same⟩ := pointed
  omega

theorem inside (pointed : Pointed text column near c) : column < text.length := by
  obtain ⟨lead, rest, rfl, same⟩ := pointed
  simp only [List.length_append, List.length_singleton]
  omega

theorem member (pointed : Pointed text column near c) : text[column.toNat]? = some c := by
  obtain ⟨lead, rest, rfl, same⟩ := pointed
  have size : column.toNat = (lead ++ near).length := by
    rw [List.length_append]
    omega
  rw [size, ← List.append_assoc, List.append_assoc, List.getElem?_append_right (Nat.le_refl _),
    Nat.sub_self]
  rfl

theorem before (pointed : Pointed text column near c) :
    text.slice (column - near.length) column = near := by
  obtain ⟨lead, rest, rfl, same⟩ := pointed
  have first : column - near.length = lead.length := by omega
  have middle := sliceMiddle lead near ([c] ++ rest)
  rw [first, same]
  simpa only [List.append_assoc] using middle

/- More text on either side moves the column and nothing else. -/
theorem within (pointed : Pointed text column near c) (lead rest : Text) :
    Pointed (lead ++ text ++ rest) (lead.length + column) near c := by
  obtain ⟨front, back, rfl, same⟩ := pointed
  refine ⟨lead ++ front, back ++ rest, by simp only [List.append_assoc], ?_⟩
  rw [List.length_append]
  omega

/- Every column of a text is such a place, for as much of what is before it as is asked for. -/
theorem atColumn {width : Int} (low : 0 ≤ width) (enough : width ≤ column)
    (inside : column < text.length) :
    ∃ near c, near.length = width ∧ Pointed text column near c := by
  obtain ⟨k, rfl⟩ := Int.eq_ofNat_of_zero_le low
  obtain ⟨n, rfl⟩ := Int.eq_ofNat_of_zero_le (Int.le_trans low enough)
  have known : n < text.length := by omega
  have joined := List.take_append_drop (n - k) (text.take n)
  rw [List.take_take, Nat.min_eq_left (Nat.sub_le _ _)] at joined
  refine ⟨(text.take n).drop (n - k), text[n], ?_, text.take (n - k), text.drop (n + 1), ?_, ?_⟩
  · rw [List.length_drop, List.length_take]
    omega
  · rw [← List.append_assoc, joined, List.append_assoc]
    simp
  · rw [List.length_take, List.length_drop, List.length_take]
    omega

end Pointed

namespace Limits
variable {limits : Limits} {m : Marked} {near : Text} {c : Char}

theorem collapsePointed (context : 1 ≤ limits.context) (pointed : Pointed m.text m.start near c) :
    Pointed (limits.collapse m).text (limits.collapse m).start near c := by
  rcases Int.lt_or_le limits.maxWidth (m.stop - m.start) with wide | narrow
  · obtain ⟨lead, rest, text, start⟩ := pointed
    obtain ⟨more, kept⟩ := Int.eq_ofNat_of_zero_le (show 0 ≤ limits.context - 1 by omega)
    have bound : m.start + limits.context = ((lead ++ (near ++ [c])).length + more : Nat) := by
      simp only [List.length_append, List.length_singleton]
      omega
    rw [collapseWide wide]
    -- the tail may come from anywhere in the text, so nothing is said about it
    generalize m.text.onward (m.stop - limits.context) = tail
    rw [bound, beforeNat, text, List.take_length_add_append]
    exact ⟨lead, rest.take more ++ limits.separator ++ tail,
      by simp only [List.append_assoc], start⟩
  · rwa [collapseNarrow narrow]

/- The window begins with the context before the range, or with the text. -/
theorem windowPointed (context : 1 ≤ limits.context) (kept : near.length ≤ limits.context)
    (ordered : m.start ≤ m.stop) (pointed : Pointed m.text m.start near c) :
    Pointed (limits.window m).text (limits.window m).start near c := by
  rcases Int.lt_or_le limits.maxWidth m.text.length with wide | narrow
  · have inside := pointed.inside
    obtain ⟨lead, rest, text, start⟩ := pointed
    obtain ⟨first, atFirst⟩ :=
      Int.eq_ofNat_of_zero_le (show 0 ≤ max 0 (m.start - limits.context) by omega)
    obtain ⟨last, atLast⟩ :=
      Int.eq_ofNat_of_zero_le (show 0 ≤ min (m.text.length : Int) (m.stop + limits.context) by omega)
    have shown : limits.visible m = lead.drop first ++ (near ++ [c]) ++
        rest.take (last - (lead.length + (near ++ [c]).length)) := by
      rw [visibleSlice, atFirst, atLast, text]
      refine sliceAround lead (near ++ [c]) rest (by omega) ?_
      rw [List.length_append, List.length_singleton]
      omega
    have head : limits.cutsHead m = decide (limits.context < m.start) := rfl
    rw [windowWide wide, head, shown]
    refine ⟨(if limits.context < m.start then limits.separator else []) ++ lead.drop first,
      rest.take (last - (lead.length + (near ++ [c]).length)) ++
        (if limits.cutsTail m then limits.trailingMarker else []), ?_, ?_⟩
    · simp only [decide_eq_true_eq, List.append_assoc]
    · simp only [decide_eq_true_eq, List.length_append, List.length_drop, markerColumn]
      -- where the head is cut off, just the context is left between the marker and the start
      split
      · omega
      · rw [List.length_nil]
        omega
  · rwa [windowNarrow narrow]

theorem shortenPointed (context : 1 ≤ limits.context) (kept : near.length ≤ limits.context)
    (ordered : m.start ≤ m.stop) (pointed : Pointed m.text m.start near c) :
    Pointed (limits.shorten m).text (limits.shorten m).start near c := by
  refine windowPointed context kept ?_ (collapsePointed context pointed)
  rcases Int.lt_or_le limits.maxWidth (m.stop - m.start) with wide | narrow
  · rw [collapseStart, collapseStop wide, collapsedWidth]
    omega
  · rwa [collapseNarrow narrow]

end Limits

/-! The line shown stands in the text where the line begins. -/
theorem shownWithin {text : Text} {first : Nat} (inside : first ≤ text.length) (last : Int) :
    ∃ lead rest, lead.length = first ∧
      text = lead ++ Lines.dropReturn (text.slice first last) ++ rest := by
  obtain ⟨lead, rest, size, joined⟩ := sliceWithin inside last
  rcases Lines.dropReturnOnce (text.slice first last) with returned | ⟨same, _⟩
  · have whole := joined.trans (congrArg (lead ++ · ++ rest) returned)
    exact ⟨lead, ['\r'] ++ rest, size, whole.trans (by simp only [List.append_assoc])⟩
  · exact ⟨lead, rest, size, same ▸ joined⟩

theorem sightedPointed {d : Document} (index : LineIndex d.starts) {span : Span} {s : Sighting}
    {after : Document} (seen : (sight span).run d = (.ok s, after)) {near : Text} {c : Char}
    (pointed : Pointed s.line s.start.column near c) : Pointed d.text span.start near c := by
  obtain ⟨inside, _, la, sa, lb, sb, first, last, rfl⟩ := Lookup.sightSource index seen
  have ordered := span.ordered
  have begun := first.begun
  have early : sa ≤ d.text.length := by omega
  obtain ⟨lead, rest, size, joined⟩ :=
    shownWithin early (LineIndex.lineStop d.starts d.text.length la)
  have column : (lead.length : Int) + (span.start - sa) = span.start := by omega
  have whole := pointed.within lead rest
  rwa [← joined, column] at whole

theorem referencePointed {s : Sighting} {limits : Limits} {near : Text} {c : Char}
    (context : 1 ≤ limits.context) (kept : near.length ≤ limits.context)
    (ordered : s.marked.start ≤ s.marked.stop) (pointed : Pointed s.line s.start.column near c)
    (name message : Text) :
    Pointed (s.reference limits name message).text (s.reference limits name message).start near c := by
  have shown := limits.shortenPointed context kept ordered pointed
  have inside := shown.inside
  have start : (s.reference limits name message).start = (limits.shorten s.marked).start :=
    Int.min_eq_left (Int.le_of_lt inside)
  rw [start]
  exact shown

theorem interestShown {d : Document} (reached : d.Reachable) {span : Span}
    (inside : span.stop ≤ d.text.length) {limits : Limits} (context : 1 ≤ limits.context) :
    ∃ start line,
      ((Document.lineColumn span.start).run d).1 = .ok start ∧
      ((Document.lineAt span.start).run d).1 = .ok line ∧
      (start.column < line.length →
       ∀ (message : Text) (store : Store Document) (place : Nat), store[place]? = some d →
        ∃ extraction after,
          (extract limits message (some ⟨some place, span⟩)).run store =
            (.ok extraction, after) ∧
          (let r := extraction.reference
           let k := min limits.context start.column
           k ≤ r.start ∧
           (∃ c, d.text[span.start.toNat]? = some c ∧ r.text[r.start.toNat]? = some c) ∧
           r.text.slice (r.start - k) r.start = d.text.slice (span.start - k) span.start)) := by
  have index := reached.index
  obtain ⟨s, atStart, _, atLine, seen⟩ := Lookup.answersInside index span inside
  refine ⟨s.start, s.line, atStart, atLine, ?_⟩
  intro shown message store place here
  have ⟨low, _, reaches, _⟩ := sightedNear index seen
  have begun : 0 ≤ s.start.column := low
  have ordered : s.marked.start ≤ s.marked.stop := by
    rcases reaches with ordered | toEnd
    · exact ordered
    · rw [toEnd]
      exact Int.le_of_lt shown
  have known : 0 ≤ min limits.context s.start.column := by omega
  obtain ⟨near, c, width, pointed⟩ := Pointed.atColumn known (Int.min_le_right _ _) shown
  obtain ⟨extraction, after, answered, reference⟩ :=
    Lookup.extractStored index seen limits message here
  refine ⟨extraction, after, answered, ?_⟩
  rcases reference with whole | ⟨empty, _⟩
  · have own := sightedPointed index seen pointed
    have other := referencePointed context (by omega) ordered pointed d.name message
    rw [← whole] at other
    simp only [← width]
    exact ⟨other.low, ⟨c, own.member, other.member⟩, other.before.trans own.before.symm⟩
  · rw [empty, List.length_nil] at shown
    omega

/- The range goes on on the next line, is collapsed, and is windowed after that. -/
theorem interestShownCollapsed :
    (Document.ofText ['a'] "ab\ncdefgh\ni".toList).Reachable ∧
    ∃ extraction after,
      (extract ⟨-1, 2, ['.'], ['>']⟩ [] (some ⟨some 0, ⟨6, 11, by decide, by decide⟩⟩)).run
        [Document.ofText ['a'] "ab\ncdefgh\ni".toList] = (.ok extraction, after) ∧
      extraction.reference.text = ".defg.gh".toList ∧
      extraction.reference.text[extraction.reference.start.toNat]? = some 'f' ∧
      extraction.reference.text.slice (extraction.reference.start - 2) extraction.reference.start =
        ['d', 'e'] := by
  have reached : (Document.ofText ['a'] "ab\ncdefgh\ni".toList).Reachable := ⟨_, _, [], rfl⟩
  obtain ⟨start, line, atStart, atLine, extracts⟩ :=
    @interestShown _ reached ⟨6, 11, by decide, by decide⟩ (by decide) ⟨-1, 2, ['.'], ['>']⟩
      (by decide)
  cases atStart
  cases atLine
  obtain ⟨extraction, after, answered, _, ⟨c, own, other⟩, before⟩ := extracts (by decide) []
    [Document.ofText ['a'] "ab\ncdefgh\ni".toList] 0 rfl
  cases own
  have text : extraction.reference.text = ".defg.gh".toList := by
    cases answered
    rfl
  exact ⟨reached, extraction, after, answered, text, other, before⟩

end SourceExcerpt
