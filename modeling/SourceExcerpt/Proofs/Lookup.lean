import SourceExcerpt.Extraction
import SourceExcerpt.Proofs.Snapshot
/-! When lookups fail, in every state that a document can be brought to. The bounds of offsets
are those of the text as it is, and an index that is out of date can spoil only the extent of
its last line. -/
namespace SourceExcerpt
open Text
namespace Lookup
open LineIndex (LineOf lineStop)
variable {d : Document} {offset : Int}

theorem columnFault (d : Document) (offset : Int) (fault : Fault) :
    ((Document.lineColumn offset).run d).1 = .error fault ↔
      (offset < 0 ∨ d.text.length < offset) ∧
        fault = .offsetOutside offset d.name d.text.length := by
  rw [Document.lineColumnRun]
  split
  · rename_i inside
    simp only [reduceCtorEq, false_iff]
    omega
  · rename_i outside
    have refused : offset < 0 ∨ d.text.length < offset := by omega
    simp only [Except.error.injEq, refused, true_and, eq_comm]

theorem columnAnswered {p : Position} (answered : ((Document.lineColumn offset).run d).1 = .ok p) :
    0 ≤ offset ∧ offset ≤ d.text.length := by
  rw [Document.lineColumnRun] at answered
  split at answered
  · assumption
  · cases answered

theorem lineFault (index : LineIndex d.starts) (offset : Int) (fault : Fault) :
    ((Document.lineAt offset).run d).1 = .error fault ↔
      (offset < 0 ∨ d.text.length < offset) ∧
        fault = .offsetOutside offset d.name d.text.length := by
  by_cases inside : 0 ≤ offset ∧ offset ≤ d.text.length
  · obtain ⟨line, start, lineOf, _⟩ := index.located inside.1
    rw [index.lineAtInside lineOf inside.2]
    simp only [reduceCtorEq, false_iff]
    omega
  · rw [LineIndex.lineAtOutside inside]
    have refused : offset < 0 ∨ d.text.length < offset := by omega
    simp only [Except.error.injEq, refused, true_and, eq_comm]

/- A line that is followed by another ends before that one starts, wherever the text ends. -/
theorem extentFault (index : LineIndex d.starts) {line : Int}
    (inside : 0 ≤ line ∧ line < d.starts.length) (fault : Fault) :
    Document.lineExtent d.starts d.text.length line.toNat = .error fault ↔
      line + 1 = d.starts.length ∧
        (∃ start, d.starts[line.toNat]? = some start ∧ d.text.length < start) ∧
        fault = .crossedBounds := by
  have within : line.toNat < d.starts.length := by omega
  have found : d.starts[line.toNat]? = some d.starts[line.toNat] :=
    List.getElem?_eq_getElem within
  by_cases past : d.starts[line.toNat + 1]? = none ∧ d.text.length < d.starts[line.toNat]
  · obtain ⟨last, past⟩ := past
    have isLast : line + 1 = d.starts.length := by
      have := List.getElem?_eq_none_iff.mp last
      omega
    rw [LineIndex.extentCrossed found last past]
    constructor
    · intro same
      exact ⟨isLast, ⟨_, found, past⟩, (Except.error.inj same).symm⟩
    · rintro ⟨_, _, rfl⟩
      rfl
  · have fits : d.starts[line.toNat + 1]? = none → d.starts[line.toNat] ≤ d.text.length := by
      intro last
      exact Nat.le_of_not_lt fun short => past ⟨last, short⟩
    obtain ⟨extent, built, _⟩ := index.extentBuilt found fits
    rw [built]
    simp only [reduceCtorEq, false_iff]
    rintro ⟨isLast, ⟨start, atLine, short⟩, _⟩
    have same : d.starts[line.toNat] = start := Option.some.inj (found.symm.trans atLine)
    have last : d.starts[line.toNat + 1]? = none := List.getElem?_eq_none_iff.mpr (by omega)
    exact past ⟨last, by omega⟩

theorem rangeFault (index : LineIndex d.starts) (line : Int) (fault : Fault) :
    ((Document.lineRange line).run d).1 = .error fault ↔
      ((line < 0 ∨ d.starts.length ≤ line) ∧
        fault = .lineOutside line d.name d.starts.length) ∨
      (line + 1 = d.starts.length ∧
        (∃ start, d.starts[line.toNat]? = some start ∧ d.text.length < start) ∧
        fault = .crossedBounds) := by
  have nonempty := index.nonempty
  rw [Document.lineRangeRun]
  by_cases inside : 0 ≤ line ∧ line < d.starts.length
  · have known : ¬ (line < 0 ∨ d.starts.length ≤ line) := by omega
    simp only [if_pos inside, extentFault index inside, known, false_and, false_or]
  · have unknown : line < 0 ∨ d.starts.length ≤ line := by omega
    have notLast : ¬ line + 1 = d.starts.length := by omega
    simp only [if_neg inside, Except.error.injEq, unknown, notLast, true_and, false_and, or_false,
      eq_comm]

/-! Sighting asks for the start, then for the end, then for the line. -/
theorem sightOf (index : LineIndex d.starts) {span : Span} {la sa lb sb : Nat}
    (first : LineOf d.starts span.start la sa) (last : LineOf d.starts span.stop lb sb)
    (high : span.stop ≤ d.text.length) :
    (sight span).run d =
      (.ok ⟨⟨la, span.start - sa⟩, ⟨lb, span.stop - sb⟩,
        Lines.dropReturn (d.text.slice sa (lineStop d.starts d.text.length la))⟩,
        d.indexed) := by
  have early : span.start ≤ d.text.length := Int.le_trans span.ordered high
  have start := index.lineColumnInside first early
  have stop := LineIndex.lineColumnInside (d := d.indexed) index last high
  have line := LineIndex.lineAtInside (d := d.indexed) index first early
  exact (Query.bindOk start).trans ((Query.bindOk stop).trans (Query.bindOk line))

theorem sightInside (index : LineIndex d.starts) (span : Span)
    (high : span.stop ≤ d.text.length) :
    ∃ la sa lb sb, LineOf d.starts span.start la sa ∧ LineOf d.starts span.stop lb sb ∧
      (sight span).run d =
        (.ok ⟨⟨la, span.start - sa⟩, ⟨lb, span.stop - sb⟩,
          Lines.dropReturn (d.text.slice sa (lineStop d.starts d.text.length la))⟩,
          d.indexed) := by
  have low := span.nonnegative
  obtain ⟨la, sa, first, _⟩ := index.located low
  obtain ⟨lb, sb, last, _⟩ := index.located (Int.le_trans low span.ordered)
  exact ⟨la, sa, lb, sb, first, last, sightOf index first last high⟩

theorem sightBeyond (d : Document) (span : Span) (beyond : d.text.length < span.stop) :
    (sight span).run d =
      (.error (.offsetOutside
        (if d.text.length < span.start then span.start else span.stop) d.name d.text.length),
        if d.text.length < span.start then d else d.indexed) := by
  have low := span.nonnegative
  have start := Document.lineColumnRun span.start d
  by_cases late : d.text.length < span.start
  · rw [if_neg (by omega)] at start
    rw [if_pos late, if_pos late]
    exact Query.bindError start
  · have stop := Document.lineColumnRun span.stop d.indexed
    rw [if_pos ⟨low, by omega⟩] at start
    rw [if_neg (by change ¬ (0 ≤ span.stop ∧ span.stop ≤ d.text.length); omega)] at stop
    rw [if_neg late, if_neg late]
    refine (Query.bindOk start).trans ?_
    exact Query.bindError stop

theorem sightSource (index : LineIndex d.starts) {span : Span} {s : Sighting} {after : Document}
    (seen : (sight span).run d = (.ok s, after)) :
    span.stop ≤ d.text.length ∧ after = d.indexed ∧
      ∃ la sa lb sb, LineOf d.starts span.start la sa ∧ LineOf d.starts span.stop lb sb ∧
        s = ⟨⟨la, span.start - sa⟩, ⟨lb, span.stop - sb⟩,
          Lines.dropReturn (d.text.slice sa (lineStop d.starts d.text.length la))⟩ := by
  rcases Int.lt_or_le d.text.length span.stop with beyond | high
  · rw [sightBeyond d span beyond] at seen
    cases seen
  · obtain ⟨la, sa, lb, sb, first, last, found⟩ := sightInside index span high
    cases found.symm.trans seen
    exact ⟨high, rfl, la, sa, lb, sb, first, last, rfl⟩

theorem textlessExact (d : Document) : Buffer.hasText d = false ↔ d.text = [] := by
  change (!d.text.isEmpty) = false ↔ d.text = []
  simp

theorem answersInside (index : LineIndex d.starts) (span : Span)
    (high : span.stop ≤ d.text.length) :
    ∃ s : Sighting, ((Document.lineColumn span.start).run d).1 = .ok s.start ∧
      ((Document.lineColumn span.stop).run d).1 = .ok s.stop ∧
      ((Document.lineAt span.start).run d).1 = .ok s.line ∧
      (sight span).run d = (.ok s, d.indexed) := by
  obtain ⟨la, sa, lb, sb, first, last, seen⟩ := sightInside index span high
  have early : span.start ≤ d.text.length := Int.le_trans span.ordered high
  exact ⟨_, congrArg Prod.fst (index.lineColumnInside first early),
    congrArg Prod.fst (index.lineColumnInside last high),
    congrArg Prod.fst (index.lineAtInside first early), seen⟩

/- A document without text is named and not asked; what it would answer is empty. -/
theorem extractSeen (index : LineIndex d.starts) {span : Span} {s : Sighting} {asked : Document}
    (seen : (sight span).run d = (.ok s, asked)) (limits : Limits) (message : Text) :
    ∃ extraction after, (extractFrom limits message span).run d = (.ok extraction, after) ∧
      (extraction.reference = s.reference limits d.name message ∨
        s.line = [] ∧ extraction.reference = Reference.messageOnly message (some d.name)) := by
  cases has : Buffer.hasText d with
  | false =>
    have empty := (textlessExact d).mp has
    obtain ⟨_, _, la, sa, lb, sb, _, _, rfl⟩ := sightSource index seen
    exact ⟨_, _, extractFromNoText limits message span has,
      .inr ⟨by simp [empty, slice, Lines.dropReturn], rfl⟩⟩
  | true =>
    have answered := extractFromText limits message span has
    rw [seen] at answered
    exact ⟨_, _, answered, .inl rfl⟩

theorem extractStored (index : LineIndex d.starts) {span : Span} {s : Sighting} {asked : Document}
    (seen : (sight span).run d = (.ok s, asked)) (limits : Limits) (message : Text)
    {store : Store Document} {place : Nat} (here : store[place]? = some d) :
    ∃ extraction after, (extract limits message (some ⟨some place, span⟩)).run store =
        (.ok extraction, after) ∧
      (extraction.reference = s.reference limits d.name message ∨
        s.line = [] ∧ extraction.reference = Reference.messageOnly message (some d.name)) := by
  obtain ⟨extraction, after, answered, shown⟩ := extractSeen index seen limits message
  rw [extractOf limits message span here, answered]
  exact ⟨extraction, _, rfl, shown⟩

theorem extractHeld (held : d.text ≠ []) {span : Span} {s : Sighting} {asked : Document}
    (seen : (sight span).run d = (.ok s, asked)) (limits : Limits) (message : Text)
    {store : Store Document} {place : Nat} (here : store[place]? = some d) :
    ((extract limits message (some ⟨some place, span⟩)).run store).1 =
      .ok ⟨s.reference limits d.name message, s.log limits d.name⟩ := by
  have has : Buffer.hasText d = true :=
    eq_true_of_ne_false fun lacks => held ((textlessExact d).mp lacks)
  rw [extractOf limits message span here, extractFromText limits message span has, seen]
  rfl

theorem extractFault (index : LineIndex d.starts) (limits : Limits) (message : Text)
    (span : Span) (fault : Fault) :
    ((extractFrom limits message span).run d).1 = .error fault ↔
      d.text ≠ [] ∧ d.text.length < span.stop ∧
        fault = .offsetOutside (if d.text.length < span.start then span.start else span.stop)
          d.name d.text.length := by
  cases has : Buffer.hasText d with
  | false =>
    have empty := (textlessExact d).mp has
    rw [extractFromNoText limits message span has]
    simp [empty]
  | true =>
    have held : d.text ≠ [] := by
      intro empty
      rw [(textlessExact d).mpr empty] at has
      cases has
    rw [extractFromText limits message span has]
    rcases Int.lt_or_le d.text.length span.stop with beyond | high
    · rw [sightBeyond d span beyond]
      simp only [Except.map, Except.error.injEq, ne_eq, held, not_false_eq_true, beyond, true_and,
        eq_comm]
    · obtain ⟨la, sa, lb, sb, _, _, seen⟩ := sightInside index span high
      have fits : ¬ d.text.length < span.stop := Int.not_lt.mpr high
      rw [seen]
      simp [Except.map, fits]

theorem lookupFaultsExact {d : Document} (reached : d.Reachable) :
    (∀ offset fault, ((Document.lineColumn offset).run d).1 = .error fault ↔
      (offset < 0 ∨ d.text.length < offset) ∧
        fault = .offsetOutside offset d.name d.text.length) ∧
    (∀ offset fault, ((Document.lineAt offset).run d).1 = .error fault ↔
      (offset < 0 ∨ d.text.length < offset) ∧
        fault = .offsetOutside offset d.name d.text.length) ∧
    (∀ line fault, ((Document.lineRange line).run d).1 = .error fault ↔
      ((line < 0 ∨ d.starts.length ≤ line) ∧
        fault = .lineOutside line d.name d.starts.length) ∨
      (line + 1 = d.starts.length ∧
        (∃ start, d.starts[line.toNat]? = some start ∧ d.text.length < start) ∧
        fault = .crossedBounds)) ∧
    (∀ (limits : Limits) (message : Text) (store : Store Document) (place : Nat) (span : Span),
      store[place]? = some d → ∀ fault,
      ((extract limits message (some ⟨some place, span⟩)).run store).1 = .error fault ↔
        d.text ≠ [] ∧ d.text.length < span.stop ∧
          fault = .offsetOutside (if d.text.length < span.start then span.start else span.stop)
            d.name d.text.length) := by
  have index := reached.index
  refine ⟨columnFault d, lineFault index, rangeFault index, ?_⟩
  intro limits message store place span here fault
  rw [extractOf limits message span here]
  exact extractFault index limits message span fault

theorem lookupFaultsStale :
    (⟨['a'], ['x'], some [0, 2]⟩ : Document).Reachable ∧
    ((Document.lineRange 1).run ⟨['a'], ['x'], some [0, 2]⟩).1 = .error .crossedBounds ∧
    ((Document.lineAt 2).run ⟨['a'], ['x'], some [0, 2]⟩).1 =
      .error (.offsetOutside 2 ['a'] 1) ∧
    ((extract Limits.standard [] (some ⟨some 0, ⟨1, 2, by decide, by decide⟩⟩)).run
      ([⟨['a'], ['x'], some [0, 2]⟩] : Store Document)).1 = .error (.offsetOutside 2 ['a'] 1) := by
  have reached : (⟨['a'], ['x'], some [0, 2]⟩ : Document).Reachable :=
    ⟨['a'], ['\n', '\n'], [.setText ['y', '\n'], .lineCount, .setText ['x']], rfl⟩
  obtain ⟨_, lines, ranges, extractions⟩ := lookupFaultsExact reached
  refine ⟨reached, (ranges 1 _).mpr (.inr ⟨rfl, ⟨2, rfl, by decide⟩, rfl⟩),
    (lines 2 _).mpr ⟨.inr (by decide), rfl⟩, ?_⟩
  have faulted := extractions Limits.standard [] ([⟨['a'], ['x'], some [0, 2]⟩] : Store Document)
    0 ⟨1, 2, by decide, by decide⟩ rfl
  exact (faulted _).mpr ⟨by decide, by decide, rfl⟩

end Lookup
end SourceExcerpt
