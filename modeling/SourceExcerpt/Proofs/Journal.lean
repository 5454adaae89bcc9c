import SourceExcerpt.Proofs.Columns
/-! What extraction notes in its log, and when. A journal holds a source and what was noted so far; in
it each event is noted when its pass is done, so that what is noted before a fault is seen as well. A
pass is noted for putting its text together anew, and where the context leaves room for the separator
that is the same as changing the text. -/
namespace SourceExcerpt
open Text

structure Journal (σ : Type) where
  source : σ
  entries : List Event

namespace Journal
variable {σ α : Type}

def ask (query : Query σ α) : Query (Journal σ) α :=
  ⟨fun j => ((query.run j.source).1, ⟨(query.run j.source).2, j.entries⟩)⟩

def note (events : List Event) : Query (Journal σ) Unit :=
  ⟨fun j => (.ok (), ⟨j.source, j.entries ++ events⟩)⟩

def extract [Buffer σ] (limits : Limits) (message : Text) (span : Span) :
    Query (Journal σ) Reference := do
  let name := Buffer.name (← Query.current).source
  if Buffer.hasText (← Query.current).source then
    let s ← ask (sight span)
    note (if limits.reportsCollapse s.marked then [.collapsed name s.start] else [])
    note (if limits.reportsWindow s.marked then [.windowed name s.start] else [])
    return s.reference limits name message
  else
    note [.noText name]
    return Reference.messageOnly message (some name)

theorem extractRun [Buffer σ] (limits : Limits) (message : Text) (span : Span) (source : σ)
    (entries : List Event) : (extract limits message span).run ⟨source, entries⟩ =
      match (extractFrom limits message span).run source with
      | (.ok extraction, after) => (.ok extraction.reference, ⟨after, entries ++ extraction.log⟩)
      | (.error fault, after) => (.error fault, ⟨after, entries⟩) := by
  rw [extract, Query.bindOk (Query.currentRun _), Query.bindOk (Query.currentRun _)]
  cases has : Buffer.hasText source with
  | false =>
    rw [extractFromNoText limits message span has]
    rfl
  | true =>
    rw [extractFromText limits message span has, if_pos rfl, Query.bindRun]
    cases seen : (sight span).run source with
    | mk outcome after =>
      cases outcome with
      | error fault => simp only [ask, seen]; rfl
      | ok s =>
        simp only [ask, seen]
        change (_, (⟨after, entries ++ _ ++ _⟩ : Journal σ)) = _
        rw [List.append_assoc]
        rfl

theorem extractFaulted [Buffer σ] {limits : Limits} {message : Text} {span : Span} {source : σ}
    {fault : Fault} (faulted : ((extractFrom limits message span).run source).1 = .error fault)
    (entries : List Event) : ∃ after,
      (extract limits message span).run ⟨source, entries⟩ = (.error fault, ⟨after, entries⟩) := by
  rw [extractRun]
  cases ran : (extractFrom limits message span).run source with
  | mk outcome after =>
    rw [ran] at faulted
    cases faulted
    exact ⟨after, rfl⟩

end Journal

/-! Texts put together from parts. -/
namespace Limits
variable {limits : Limits} {m : Marked}

theorem spellFilled (limits : Limits) (parts : List Part) :
    limits.spell (parts.filter fun p => !(limits.spellPart p).isEmpty) = limits.spell parts := by
  induction parts with
  | nil => rfl
  | cons p rest ih =>
    rw [List.filter_cons]
    split
    · exact congrArg (limits.spellPart p ++ ·) ih
    · rename_i blank
      have empty : limits.spellPart p = [] := by simpa using blank
      have split : limits.spell (p :: rest) = limits.spellPart p ++ limits.spell rest := rfl
      rw [ih, split, empty, List.nil_append]

theorem spellSole {parts : List Part} {p : Part} (sole : limits.solePart parts = some p) :
    limits.spell parts = limits.spellPart p := by
  rw [← spellFilled]
  unfold solePart at sole
  split at sole
  · rename_i own filled
    cases sole
    rw [filled]
    simp [spell]
  · cases sole

theorem keptSole {given : Text} (filled : given ≠ []) :
    limits.solePart [.kept given] = some (.kept given) := by
  simp [solePart, spellPart, filled]

theorem unrebuiltSame {given : Text} {parts : List Part}
    (kept : limits.rebuilds given none parts = false) : limits.spell parts = given := by
  simp only [rebuilds, interchangeable, Bool.not_eq_false', Bool.or_eq_true, decide_eq_true_eq,
    Bool.and_eq_true] at kept
  rcases kept with (sole | ⟨some, none⟩) | same
  · exact spellSole sole
  · rw [none] at some
    cases some
  · exact same.1.1.symm

theorem wholeUnrebuilt {given : Text} (filled : given ≠ []) (standsFor : Option Part) :
    limits.rebuilds given standsFor [.kept given] = false := by
  simp [rebuilds, keptSole filled]

/-! The two passes over a range of a shown line, where a collapsed range is not too wide. -/
section
variable (near : m.Near) (context : 1 ≤ limits.context)
  (fits : limits.collapsedWidth ≤ limits.maxWidth)

include near context fits in
theorem collapseShorter (wide : limits.maxWidth < m.stop - m.start) :
    (limits.collapse m).text.length < m.text.length := by
  obtain ⟨low, _, _, ends⟩ := near
  have width : limits.collapsedWidth = 2 * limits.context + limits.separator.length := rfl
  have back : 0 ≤ limits.context := by omega
  have shortened := collapseWidth back low wide (by omega) (by omega) (by omega)
  omega

include near context fits in
theorem collapseNoted : limits.reportsCollapse m = decide (limits.maxWidth < m.stop - m.start) := by
  rcases Int.lt_or_le limits.maxWidth (m.stop - m.start) with wide | narrow
  · have shorter := collapseShorter near context fits wide
    rw [decide_eq_true wide]
    refine eq_true_of_ne_false fun unnoted => ?_
    cases fired : limits.collapsed m with
    | none => simp [collapse, fired] at shorter
    | some parts =>
      simp only [reportsCollapse, fired] at unnoted
      simp only [collapse, fired, unrebuiltSame unnoted] at shorter
      exact Nat.lt_irrefl _ shorter
  · rw [collapseUnreported narrow, decide_eq_false (Int.not_lt.mpr narrow)]

end

/- A window over the whole text hands that text on. -/
theorem windowedWhole (wide : limits.maxWidth < m.text.length) (head : m.start ≤ limits.context)
    (tail : m.text.length ≤ m.stop + limits.context) :
    limits.windowed m = some [.kept m.text] := by
  have noHead : limits.cutsHead m = false := decide_eq_false (Int.not_lt.mpr head)
  have noTail : limits.cutsTail m = false := by
    rw [cutsTailAt]
    exact decide_eq_false (Int.not_lt.mpr tail)
  have first : max 0 (m.start - limits.context) = 0 := by omega
  have last : min (m.text.length : Int) (m.stop + limits.context) = m.text.length := by omega
  have shown : limits.visible m = m.text := by
    rw [visibleSlice, first, last, sliceToEnd]
    exact onwardNat m.text 0
  rw [windowed, if_neg (Int.not_le.mpr wide), noHead, noTail, shown]
  rfl

theorem windowNoted (width : 0 ≤ limits.maxWidth) (noted : limits.reportsWindow m = true) :
    limits.maxWidth < (limits.collapse m).text.length ∧
      (0 < max 0 (m.start - limits.context) ∨
        min ((limits.collapse m).text.length : Int) ((limits.collapse m).stop + limits.context) <
          (limits.collapse m).text.length) := by
  have start := limits.collapseStart m
  rcases Int.lt_or_le limits.maxWidth (limits.collapse m).text.length with wide | fits
  · refine ⟨wide, ?_⟩
    by_cases whole : (limits.collapse m).start ≤ limits.context ∧
        (limits.collapse m).text.length ≤ (limits.collapse m).stop + limits.context
    · have filled : (limits.collapse m).text ≠ [] := List.ne_nil_of_length_pos (by omega)
      simp only [reportsWindow, windowedWhole wide whole.1 whole.2, wholeUnrebuilt filled] at noted
      cases noted
    · omega
  · simp only [reportsWindow, windowed, if_pos fits] at noted
    cases noted

theorem unnotedSame (narrow : m.stop - m.start ≤ limits.maxWidth)
    (unnoted : limits.reportsWindow m = false) : (limits.shorten m).text = m.text := by
  have unfired : limits.collapsed m = none := if_pos narrow
  rw [shorten, collapseNarrow narrow, window]
  simp only [reportsWindow, collapseNarrow narrow, unfired, Option.bind_none] at unnoted
  cases fired : limits.windowed m with
  | none => rfl
  | some parts =>
    rw [fired] at unnoted
    exact unrebuiltSame unnoted

end Limits

section
variable {limits : Limits} {s : Sighting} (near : s.marked.Near) (context : 1 ≤ limits.context)
  (fits : limits.collapsedWidth ≤ limits.maxWidth) (name : Text)
include near context fits

theorem sightedLog : s.log limits name =
    (if limits.maxWidth < s.marked.stop - s.start.column then [.collapsed name s.start] else []) ++
      (if limits.reportsWindow s.marked then [.windowed name s.start] else []) := by
  simp only [Sighting.log, Limits.collapseNoted near context fits, decide_eq_true_eq]
  rfl

theorem silentWhole (silent : s.log limits name = []) (message : Text) :
    (s.reference limits name message).text = s.line := by
  rw [sightedLog near context fits] at silent
  obtain ⟨first, second⟩ := List.append_eq_nil_iff.mp silent
  have narrow : s.marked.stop - s.start.column ≤ limits.maxWidth := by
    refine Int.not_lt.mp fun wide => ?_
    rw [if_pos wide] at first
    cases first
  have unnoted : limits.reportsWindow s.marked = false := by
    refine eq_false_of_ne_true fun noted => ?_
    rw [if_pos noted] at second
    cases second
  exact Limits.unnotedSame narrow unnoted

end

theorem logTruthful {d : Document} (reached : d.Reachable) (held : d.text ≠ []) {limits : Limits}
    (context : 1 ≤ limits.context)
    (fits : 2 * limits.context + limits.separator.length ≤ limits.maxWidth) (message : Text)
    (span : Span) (entries : List Event) {store : Store Document} {place : Nat}
    (here : store[place]? = some d) :
    (span.stop ≤ d.text.length → ∃ start stop line reference log,
      ((Document.lineColumn span.start).run d).1 = .ok start ∧
      ((Document.lineColumn span.stop).run d).1 = .ok stop ∧
      ((Document.lineAt span.start).run d).1 = .ok line ∧
      (Journal.extract limits message span).run ⟨d, entries⟩ =
        (.ok reference, ⟨d.indexed, entries ++ log⟩) ∧
      ((extract limits message (some ⟨some place, span⟩)).run store).1 = .ok ⟨reference, log⟩ ∧
      (let ending : Int := if start.line ≠ stop.line then line.length else stop.column
       let first := limits.collapse ⟨line, start.column, ending⟩
       ∃ windowed : Bool,
        log = (if limits.maxWidth < ending - start.column then [.collapsed d.name start] else []) ++
          (if windowed then [.windowed d.name start] else []) ∧
        (windowed = true → limits.maxWidth < first.text.length ∧
          (0 < max 0 (start.column - limits.context) ∨
            min (first.text.length : Int) (first.stop + limits.context) < first.text.length)) ∧
        (log = [] → reference.text = line))) ∧
    (d.text.length < span.stop → ∃ fault after,
      (Journal.extract limits message span).run ⟨d, entries⟩ = (.error fault, ⟨after, entries⟩) ∧
      ((extract limits message (some ⟨some place, span⟩)).run store).1 = .error fault) := by
  have index := reached.index
  have has : Buffer.hasText d = true :=
    eq_true_of_ne_false fun lacks => held ((Lookup.textlessExact d).mp lacks)
  constructor
  · intro inside
    obtain ⟨s, atStart, atStop, atLine, seen⟩ := Lookup.answersInside index span inside
    have near := sightedNear index seen
    refine ⟨s.start, s.stop, s.line, s.reference limits d.name message, s.log limits d.name,
      atStart, atStop, atLine, ?_, Lookup.extractHeld held seen limits message here, ?_⟩
    · rw [Journal.extractRun, extractFromText limits message span has, seen]
      rfl
    · intro ending first
      have marked : s.marked = ⟨s.line, s.start.column, ending⟩ := by
        simp only [Sighting.marked, Sighting.multiline, decide_eq_true_eq]
        rfl
      have log := sightedLog near context fits d.name
      refine ⟨limits.reportsWindow s.marked, ?_, ?_, ?_⟩
      · rw [log, marked]
      · intro windowed
        have cut := Limits.windowNoted (by omega) windowed
        rwa [marked] at cut
      · intro silent
        exact silentWhole near context fits d.name silent message
  · intro beyond
    have faulted := (Lookup.extractFault index limits message span _).mpr ⟨held, beyond, rfl⟩
    obtain ⟨after, noted⟩ := Journal.extractFaulted faulted entries
    exact ⟨_, after, noted, by rw [extractOf limits message span here, faulted]⟩

/- The range stops behind the carriage return, so that nothing of the line follows the separator. -/
theorem logTruthfulReturn :
    let d := Document.ofText ['a'] "x0123\r\n".toList
    let limits : Limits := ⟨3, 1, ['.'], ['>']⟩
    d.Reachable ∧ d.text ≠ [] ∧ 2 * limits.context + limits.separator.length ≤ limits.maxWidth ∧
    (∃ reference,
      (Journal.extract limits [] ⟨1, 6, by decide, by decide⟩).run ⟨d, []⟩ =
        (.ok reference, ⟨d.indexed, [.collapsed ['a'] ⟨0, 1⟩]⟩)) ∧
    ∃ fault after, (Journal.extract limits [] ⟨1, 8, by decide, by decide⟩).run ⟨d, []⟩ =
      (.error fault, ⟨after, []⟩) := by
  intro d limits
  have reached : d.Reachable := ⟨_, _, [], rfl⟩
  have held : d.text ≠ [] := by decide
  have truthful := fun span => @logTruthful d reached held limits (by decide) (by decide) [] span []
    [d] 0 rfl
  obtain ⟨start, stop, line, reference, log, atStart, atStop, atLine, noted, _, windowed, same, only, _⟩ :=
    (truthful ⟨1, 6, by decide, by decide⟩).1 (by decide)
  obtain ⟨fault, after, faulted, _⟩ := (truthful ⟨1, 8, by decide, by decide⟩).2 (by decide)
  cases atStart
  cases atStop
  cases atLine
  cases windowed with
  | true => exact absurd (only rfl).1 (by decide)
  | false =>
    cases same
    exact ⟨reached, held, by decide, ⟨reference, noted⟩, fault, after, faulted⟩

end SourceExcerpt
