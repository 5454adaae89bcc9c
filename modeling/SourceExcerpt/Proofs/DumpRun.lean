import SourceExcerpt.Command.Dump
import SourceExcerpt.Proofs.Columns
import SourceExcerpt.Proofs.Encoding
import SourceExcerpt.Proofs.Places
/-! Runs of the command that prints a reference, over all arguments and all trees of files: what
stands behind a listing, and what each kind of failure comes from. -/
namespace SourceExcerpt.Command.Dump
open Text

theorem mappedOk {first : Except ε α} {f : ε → δ} {a : α} (h : first.mapError f = .ok a) :
    first = .ok a := by
  cases first with
  | error e => cases h
  | ok own => cases h; rfl

theorem mappedFault {first : Except Fault α} {fault : Fault} :
    first.mapError Trouble.fault = .error (.fault fault) ↔ first = .error fault := by
  cases first <;> simp [Except.mapError]

theorem spanGiven {r : Request} {span : Span} (h : Dump.span r = .ok span) :
    r.start = some span.start ∧ r.stop = some span.stop := by
  unfold Dump.span at h
  split at h
  · rename_i atStart atStop
    obtain ⟨rfl, rfl⟩ := Span.ofBoundsOk (mappedOk h)
    exact ⟨atStart, atStop⟩
  · split at h <;> cases h
  · cases h

def document (r : Request) (text : Text) : Document :=
  Document.ofText r.path.render (Lines.unify text)

theorem documentIndex (r : Request) (text : Text) : LineIndex (document r text).starts :=
  LineIndex.ofText (Lines.unify text)

theorem documentPlain (r : Request) (text : Text) : '\r' ∉ (document r text).text :=
  Lines.unifyNoReturn text

def extracted (r : Request) (text : Text) (span : Span) : Except Fault Extraction :=
  ((extractFrom (limits r) (r.message.getD []) span).run (document r text)).1

theorem extractionSource {r : Request} {text : Text} {e : Extraction}
    (h : extraction r (Lines.unify text) = .ok e) :
    ∃ span, Dump.span r = .ok span ∧ extracted r text span = .ok e := by
  obtain ⟨span, built, h⟩ := boundOk h
  refine ⟨span, built, ?_⟩
  dsimp only at h
  split at h
  · obtain ⟨s, _, h⟩ := boundOk h
    split at h
    · cases h
    · exact mappedOk h
  · exact mappedOk h

/- The text of a file holds no carriage return any more, so no context is needed to keep the
columns in order. -/
theorem extractedIndexed {r : Request} {text : Text} {span : Span} {e : Extraction}
    (answered : extracted r text span = .ok e) (context : 0 ≤ (limits r).context) :
    e.reference.Indexed := by
  have ran : (extractFrom (limits r) (r.message.getD []) span).run (document r text) = (.ok e, _) :=
    Prod.ext answered rfl
  rcases extractFromAnswered ran with only | ⟨s, seen, rfl⟩
  · rw [only]
    exact messageOnlyIndexed _ _
  · have ordered := sightedPlain (documentIndex r text) (documentPlain r text) context seen
    exact sightedIndexed context ordered _ _

theorem extractedInside {r : Request} {text : Text} {span : Span} {e : Extraction}
    (answered : extracted r text span = .ok e) :
    (document r text).text = [] ∨ span.stop ≤ (document r text).text.length := by
  by_cases empty : (document r text).text = []
  · exact .inl empty
  · refine .inr (Int.not_lt.mp fun beyond => ?_)
    have failed := (Lookup.extractFault (documentIndex r text) (limits r) (r.message.getD []) span
      _).mpr ⟨empty, beyond, rfl⟩
    cases answered.symm.trans failed

/-! What stands behind a listing: a file that the path leads to, which is the encoding of a text; a
range inside that text; and a reference whose columns index its excerpt. -/
structure Printed (tree : FileTree) (r : Request) (o : Outcome) (text : Text) (span : Span)
    (e : Extraction) : Prop where
  fits : r.path.Fits
  stored : ⟨tree.goal r.path, some (Utf8.encode text)⟩ ∈ tree.entries
  start : r.start = some span.start
  stop : r.stop = some span.stop
  inside : (document r text).text = [] ∨ span.stop ≤ (document r text).text.length
  answered : extracted r text span = .ok e
  indexed : 0 ≤ (limits r).context → e.reference.Indexed
  outcome : o = ⟨.exit 0, Outcome.line (listing r e.reference), if r.verbose then logLines e.log else []⟩

theorem listedPrinted {r : Request} {reference : Reference} {errors : Text}
    (printed : { listed r reference with errors }.output ≠ []) :
    listed r reference = Outcome.success (Outcome.line (listing r reference)) := by
  unfold listed at printed ⊢
  split
  · rfl
  · rename_i long
    rw [if_neg long] at printed
    exact absurd rfl printed

theorem reportPrinted {r : Request} {bytes : Utf8.Bytes} (printed : (report r bytes).output ≠ []) :
    ∃ text e, bytes = Utf8.encode text ∧ extraction r (Lines.unify text) = .ok e ∧
      report r bytes = ⟨.exit 0, Outcome.line (listing r e.reference),
        if r.verbose then logLines e.log else []⟩ := by
  unfold report at printed ⊢
  cases decoded : Utf8.decode bytes with
  | error f => rw [decoded] at printed; exact absurd rfl printed
  | ok text =>
    rw [decoded] at printed
    dsimp only at printed ⊢
    cases extracts : extraction r (Lines.unify text) with
    | error t => rw [extracts] at printed; exact absurd rfl printed
    | ok e =>
      rw [extracts] at printed
      dsimp only at printed ⊢
      refine ⟨text, e, Utf8.decodeExact.mp decoded, extracts, ?_⟩
      rw [listedPrinted printed]
      rfl

theorem runRead {tree : FileTree} {arguments : List Text} {r : Request} {bytes : Utf8.Bytes}
    (understood : request arguments = .ok r) (there : tree.read r.path = .ok bytes) :
    run tree arguments = report r bytes := by
  rw [run, understood]
  dsimp only
  rw [there]

theorem runUnread {tree : FileTree} {arguments : List Text} {r : Request} {e : DeadEnd}
    (understood : request arguments = .ok r) (nowhere : tree.read r.path = .error e) :
    run tree arguments = unread r e := by
  rw [run, understood]
  dsimp only
  rw [nowhere]

theorem printedSource {tree : FileTree} {arguments : List Text}
    (printed : (run tree arguments).output ≠ []) : ∃ r text span e,
      request arguments = .ok r ∧ Printed tree r (run tree arguments) text span e := by
  cases understood : request arguments with
  | error halt => rw [run, understood] at printed; cases halt <;> exact absurd rfl printed
  | ok r =>
    cases there : tree.read r.path with
    | error e => rw [runUnread understood there] at printed; cases e <;> exact absurd rfl printed
    | ok bytes =>
      rw [runRead understood there] at printed ⊢
      obtain ⟨text, e, rfl, extracts, outcome⟩ := reportPrinted printed
      obtain ⟨span, built, answered⟩ := extractionSource extracts
      obtain ⟨fits, stored⟩ := FileTree.readSource there
      obtain ⟨start, stop⟩ := spanGiven built
      exact ⟨r, text, span, e, rfl, fits, FileTree.bytesStored stored, start, stop,
        extractedInside answered, answered, extractedIndexed answered, outcome⟩

/-! Numbers that were given, and not blank. -/
structure Request.Given (r : Request) (start stop : Int) : Prop where
  start : r.start = some start
  stop : r.stop = some stop
  maxWidth : r.maxWidth ≠ none
  context : r.context ≠ none

theorem spanOf {r : Request} {start stop : Int} (given : r.Given start stop) :
    Dump.span r = (Span.ofBounds start stop).mapError .fault := by
  rw [Dump.span, given.start, given.stop]

theorem wantedNothing {r : Request} {start stop : Int} (given : r.Given start stop) (s : Sighting) :
    wanted r s = none := by
  obtain ⟨maxWidth, width⟩ := Option.ne_none_iff_exists'.mp given.maxWidth
  obtain ⟨context, kept⟩ := Option.ne_none_iff_exists'.mp given.context
  rw [wanted, width, kept]

theorem extractionGiven {r : Request} {start stop : Int} (given : r.Given start stop) {span : Span}
    (built : Span.ofBounds start stop = .ok span) (text : Text) :
    extraction r (Lines.unify text) = (extracted r text span).mapError .fault := by
  have spanned : Dump.span r = .ok span := by rw [spanOf given, built]; rfl
  have answered (has : Buffer.hasText (document r text) = true) :=
    extractFromText (limits r) (r.message.getD []) span has
  have same : Document.ofText r.path.render (Lines.unify text) = document r text := rfl
  simp only [extraction, spanned, bind, Except.bind, wantedNothing given, same]
  split
  · rename_i has
    rw [extracted, answered has]
    cases ((sight span).run (document r text)).1 <;> rfl
  · rfl

theorem givenTrouble {r : Request} {start stop : Int} (given : r.Given start stop) {text : Text}
    {t : Trouble} (h : extraction r (Lines.unify text) = .error t) : ∃ fault, t = .fault fault := by
  cases built : Span.ofBounds start stop with
  | error fault =>
    rw [extraction, spanOf given, built] at h
    cases h
    exact ⟨fault, rfl⟩
  | ok span =>
    rw [extractionGiven given built] at h
    cases answered : extracted r text span with
    | error fault => rw [answered] at h; cases h; exact ⟨fault, rfl⟩
    | ok e => rw [answered] at h; cases h

theorem reportFault {r : Request} {text : Text} {fault : Fault} :
    (report r (Utf8.encode text)).ending = .trouble (.fault fault) ↔
      extraction r (Lines.unify text) = .error (.fault fault) := by
  have decoded : Utf8.decode (Utf8.encode text) = .ok text := Utf8.decodeExact.mpr rfl
  rw [report, decoded]
  dsimp only
  cases extraction r (Lines.unify text) with
  | error t => simp [Outcome.troubled]
  | ok e =>
    simp only [reduceCtorEq, iff_false, listed]
    split <;> simp [Outcome.success, Outcome.troubled]

/-! What can be wrong with the range, for a file that is the encoding of a text. -/
theorem faultExact {tree : FileTree} {arguments : List Text} {r : Request} {start stop : Int}
    {text : Text} (understood : request arguments = .ok r) (given : r.Given start stop)
    (there : tree.read r.path = .ok (Utf8.encode text)) (fault : Fault) :
    let size := (Lines.unify text).length
    (run tree arguments).ending = .trouble (.fault fault) ↔
      (start < 0 ∨ stop < 0) ∧ fault = .negativeBound ∨
      (0 ≤ stop ∧ stop < start) ∧ fault = .crossedBounds ∨
      (0 ≤ start ∧ start ≤ stop ∧ 0 < size ∧ size < stop) ∧
        fault = .offsetOutside (if size < start then start else stop) r.path.render size := by
  intro size
  rw [runRead understood there, reportFault]
  cases built : Span.ofBounds start stop with
  | error f =>
    have refused : extraction r (Lines.unify text) = .error (.fault f) := by
      rw [extraction, spanOf given, built]
      rfl
    have bounds := Span.boundsFault.mp built
    rw [refused, Except.error.injEq, Trouble.fault.injEq]
    rcases bounds with ⟨rfl, negative⟩ | ⟨rfl, crossed⟩
    · constructor
      · rintro rfl
        exact .inl ⟨negative, rfl⟩
      · rintro (⟨_, rfl⟩ | ⟨crossed, _⟩ | ⟨inside, _⟩)
        · rfl
        · omega
        · omega
    · constructor
      · rintro rfl
        exact .inr (.inl ⟨crossed, rfl⟩)
      · rintro (⟨negative, _⟩ | ⟨_, rfl⟩ | ⟨inside, _⟩)
        · omega
        · rfl
        · omega
  | ok span =>
    obtain ⟨rfl, rfl⟩ := Span.ofBoundsOk built
    have nonnegative := span.nonnegative
    have ordered := span.ordered
    have failed := Lookup.extractFault (documentIndex r text) (limits r) (r.message.getD []) span fault
    change extracted r text span = .error fault ↔ _ at failed
    have some : (document r text).text ≠ [] ↔ 0 < size := List.length_pos_iff.symm
    rw [extractionGiven given built, mappedFault, failed, some]
    constructor
    · rintro ⟨held, beyond, rfl⟩
      exact .inr (.inr ⟨⟨nonnegative, ordered, held, beyond⟩, rfl⟩)
    · rintro (⟨negative, _⟩ | ⟨crossed, _⟩ | ⟨⟨_, _, held, beyond⟩, rfl⟩)
      · omega
      · omega
      · exact ⟨held, beyond, rfl⟩

example : (run ⟨[], [⟨[['a']], some (Utf8.encode ['b', '\n', 'c'])⟩]⟩
    ["a".toList, "--start".toList, "4".toList]).ending =
      .trouble (.fault (.offsetOutside 4 ['a'] 3)) := by
  decide

/-! A range is answered where it lies in the text, or where there is no text at all. -/
theorem answeredExact {tree : FileTree} {arguments : List Text} {r : Request} {start stop : Int}
    {text : Text} (understood : request arguments = .ok r) (given : r.Given start stop)
    (there : tree.read r.path = .ok (Utf8.encode text)) :
    let size := (Lines.unify text).length
    ((run tree arguments).ending = .exit 0 ∨ (run tree arguments).ending = .trouble .numberTooLong) ↔
      0 ≤ start ∧ start ≤ stop ∧ (size = 0 ∨ stop ≤ size) := by
  intro size
  have faulted := faultExact understood given there
  have decoded : Utf8.decode (Utf8.encode text) = .ok text := Utf8.decodeExact.mpr rfl
  cases extracts : extraction r (Lines.unify text) with
  | error t =>
    obtain ⟨fault, rfl⟩ := givenTrouble given extracts
    have ends : (run tree arguments).ending = .trouble (.fault fault) := by
      rw [runRead understood there, reportFault, extracts]
    rw [ends]
    refine iff_of_false (by simp) fun ⟨low, ordered, inside⟩ => ?_
    rcases (faulted fault).mp ends with ⟨negative, _⟩ | ⟨crossed, _⟩ | ⟨beyond, _⟩ <;> omega
  | ok e =>
    obtain ⟨span, built, answered⟩ := extractionSource extracts
    obtain ⟨atStart, atStop⟩ := spanGiven built
    cases given.start.symm.trans atStart
    cases given.stop.symm.trans atStop
    refine iff_of_true ?_ ⟨span.nonnegative, span.ordered, ?_⟩
    · rw [runRead understood there, report, decoded]
      dsimp only
      rw [extracts]
      dsimp only [listed]
      split
      · exact .inl rfl
      · exact .inr rfl
    · exact (extractedInside answered).imp (congrArg List.length) id

/-! Reading the file comes first, so what is wrong with its bytes is told whatever the range is. -/
theorem spanTrouble {r : Request} {t : Trouble} (h : Dump.span r = .error t) :
    (∃ fault, t = .fault fault) ∨ ∃ use, t = .blank use := by
  unfold Dump.span at h
  split at h
  · rename_i start stop _ _
    cases built : Span.ofBounds start stop with
    | error fault => rw [built] at h; cases h; exact .inl ⟨fault, rfl⟩
    | ok span => rw [built] at h; cases h
  · split at h <;> cases h
    · exact .inl ⟨_, rfl⟩
    · exact .inr ⟨_, rfl⟩
  · cases h
    exact .inr ⟨_, rfl⟩

theorem extractionTrouble {r : Request} {text : Text} {t : Trouble} (h : extraction r text = .error t) :
    (∃ fault, t = .fault fault) ∨ ∃ use, t = .blank use := by
  have mapped {α : Type} {first : Except Fault α} (failed : first.mapError Trouble.fault = .error t) :
      ∃ fault, t = .fault fault := by
    cases first <;> cases failed
    exact ⟨_, rfl⟩
  rcases boundError h with failed | ⟨span, _, failed⟩
  · exact spanTrouble failed
  · dsimp only at failed
    split at failed
    · rcases boundError failed with unseen | ⟨s, _, failed⟩
      · exact .inl (mapped unseen)
      · split at failed
        · cases failed
          exact .inr ⟨_, rfl⟩
        · exact .inl (mapped failed)
    · exact .inl (mapped failed)

theorem reportEnding (r : Request) (bytes : Utf8.Bytes) :
    (∃ f, Utf8.decode bytes = .error f ∧ (report r bytes).ending = .trouble (.undecodable f)) ∨
      (report r bytes).ending = .exit 0 ∨ (report r bytes).ending = .trouble .numberTooLong ∨
      (∃ fault, (report r bytes).ending = .trouble (.fault fault)) ∨
      ∃ use, (report r bytes).ending = .trouble (.blank use) := by
  unfold report
  cases Utf8.decode bytes with
  | error f => exact .inl ⟨f, rfl, rfl⟩
  | ok text =>
    right
    dsimp only
    cases extracts : extraction r (Lines.unify text) with
    | error t =>
      rcases extractionTrouble extracts with ⟨fault, rfl⟩ | ⟨use, rfl⟩
      · exact .inr (.inr (.inl ⟨fault, rfl⟩))
      · exact .inr (.inr (.inr ⟨use, rfl⟩))
    | ok e =>
      dsimp only [listed]
      split
      · exact .inl rfl
      · exact .inr (.inl rfl)

/-! Where a file stops being the encoding of a text. -/
theorem undecodableSource {tree : FileTree} {arguments : List Text} {f : Utf8.DecodeFault}
    (failed : (run tree arguments).ending = .trouble (.undecodable f)) :
    ∃ r before after, request arguments = .ok r ∧ r.path.Fits ∧
      ⟨tree.goal r.path, some (Utf8.encode before ++ (f.part ++ after))⟩ ∈ tree.entries ∧
      f.position = (Utf8.encode before).length ∧
      ∀ c rest, f.part ++ after ≠ String.utf8EncodeChar c ++ rest := by
  cases understood : request arguments with
  | error halt => rw [run, understood] at failed; cases halt <;> cases failed
  | ok r =>
    cases there : tree.read r.path with
    | error e => rw [runUnread understood there] at failed; cases e <;> cases failed
    | ok bytes =>
      rw [runRead understood there] at failed
      obtain ⟨fits, stored⟩ := FileTree.readSource there
      have decoded : Utf8.decode bytes = .error f := by
        rcases reportEnding r bytes with ⟨own, decoded, same⟩ | other | other | ⟨_, other⟩ | ⟨_, other⟩
        · cases same.symm.trans failed
          exact decoded
        all_goals cases other.symm.trans failed
      obtain ⟨before, after, rfl, position, stops⟩ := Utf8.decodeFault decoded
      exact ⟨r, before, after, rfl, fits, FileTree.bytesStored stored, position, stops⟩

/-! Nothing is refused but a path that leads to no file. -/
theorem refusedExact {tree : FileTree} {arguments : List Text} {r : Request}
    (understood : request arguments = .ok r) (fits : r.path.Fits)
    (plain : ['.', '.'] ∉ r.path.names) :
    (run tree arguments).ending = .exit 1 ↔ tree.bytesAt (tree.goal r.path) = none := by
  cases there : tree.read r.path with
  | error e =>
    have dead := FileTree.readFault fits there
    subst dead
    have absent : tree.bytesAt (tree.goal r.path) = none := by
      cases found : tree.bytesAt (tree.goal r.path) with
      | none => rfl
      | some bytes => cases ((FileTree.readExact plain).mpr ⟨fits, found⟩).symm.trans there
    refine iff_of_true ?_ absent
    rw [runUnread understood there]
    rfl
  | ok bytes =>
    obtain ⟨_, stored⟩ := FileTree.readSource there
    rw [runRead understood there, stored]
    refine iff_of_false (fun refused => ?_) (by simp)
    rcases reportEnding r bytes with ⟨_, _, other⟩ | other | other | ⟨_, other⟩ | ⟨_, other⟩
    all_goals cases other.symm.trans refused

end SourceExcerpt.Command.Dump
