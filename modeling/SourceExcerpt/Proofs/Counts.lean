import SourceExcerpt.Census
import SourceExcerpt.Proofs.HiddenReturn
/-! What a census of documents counts. Every line gives one reference, and one that is shown as long as
the line was neither shortened nor stripped of a carriage return: a collapsed line is never as long as
it was. A document answers the same once its lines are counted, so a second census counts the same. -/
namespace SourceExcerpt
open Text

/- A query of each place of a list in turn, by which the state is not changed. -/
theorem Query.eachPlace {query : Nat → Query σ β} {f : α → β} {as : List α} {s : σ} (first : Nat)
    (answers : ∀ (i : Nat) a, as[i]? = some a → (query (first + i)).run s = (.ok (f a), s)) :
    (each query (List.range' first as.length)).run s = (.ok (as.map f), s) := by
  induction as generalizing first with
  | nil => rfl
  | cons a rest ih =>
    have here := answers 0 a rfl
    have others := ih (first + 1) fun i b found => by
      rw [Nat.add_right_comm]
      exact answers (i + 1) b found
    exact (bindOk here).trans (bindOk others)

/-! The excerpt of a whole line, as far as it is shown. -/
def shownWhole (line : Text) : Marked := ⟨Lines.dropReturn line, 0, line.length⟩

theorem wholeMarked {text : Text} (cut : LineCut text) :
    (cut.sighting cut cut.extent).marked = shownWhole cut.line := by
  have start : cut.extent.start - cut.lead.length = 0 := Int.sub_self _
  have stop : cut.extent.stop - cut.lead.length = cut.line.length := cut.extentLength
  rw [Sighting.markedSingle rfl, LineCut.sighting, start, stop, shownWhole]

theorem wholeKept {line : Text} (narrow : line.length ≤ 150) :
    Limits.standard.collapse (shownWhole line) = shownWhole line ∧
      Limits.standard.shorten (shownWhole line) = shownWhole line := by
  obtain ⟨maxWidth, _⟩ := Limits.standardSizes
  have shown := Lines.dropReturnLength line
  have collapsed : Limits.standard.collapse (shownWhole line) = shownWhole line :=
    Limits.collapseNarrow (by simp only [shownWhole]; omega)
  refine ⟨collapsed, ?_⟩
  rw [Limits.shorten, collapsed]
  exact Limits.windowNarrow (by simp only [shownWhole]; omega)

theorem wholeLength (line : Text) :
    ((Limits.standard.shorten (shownWhole line)).text.length : Int) ≠ line.length ↔
      150 < line.length ∨ line.getLast? = some '\r' := by
  obtain ⟨maxWidth, _⟩ := Limits.standardSizes
  have most := Lines.dropReturnLength line
  have least := Lines.dropReturnLoses line
  have start : (shownWhole line).start = 0 := rfl
  have stop : (shownWhole line).stop = line.length := rfl
  have text : (shownWhole line).text = Lines.dropReturn line := rfl
  rcases Nat.lt_or_ge 150 line.length with wide | narrow
  · have shown := collapsedToEnd (m := shownWhole line) (Int.le_refl 0) (by omega)
      (by rw [text]; omega) (by rw [text]; omega)
    rw [text] at shown
    refine iff_of_true ?_ (.inl wide)
    split at shown <;> omega
  · rw [(wholeKept narrow).2, text, ← Lines.dropReturnShorter]
    omega

namespace Census

def counted (line : Text) : Bool := 150 < line.length ∨ line.getLast? = some '\r'

def ofShown (line : Text) : Census := ⟨1, if counted line then 1 else 0⟩

theorem sumShown (lines : List Text) :
    sum (lines.map ofShown) = ⟨lines.length, lines.countP counted⟩ := by
  have folded : ∀ start, (lines.map ofShown).foldl add start =
      ⟨start.references + lines.length, start.truncated + lines.countP counted⟩ := by
    induction lines with
    | nil => intro start; rfl
    | cons line rest ih =>
      intro start
      simp only [List.map_cons, List.foldl_cons, ih, add, ofShown, List.length_cons,
        List.countP_cons]
      congr 1 <;> omega
  simpa [sum, empty] using folded empty

/-! A document that was asked before keeps what it counted then. -/
section
variable {d : Document} (upToDate : d.starts = Lines.starts d.text) (asked : d.indexed = d)
include upToDate asked

theorem lineExtracted (cut : LineCut d.text) : ∃ extraction,
    (extractFrom Limits.standard [] cut.extent).run d = (.ok extraction, d) ∧
      extraction.reference.text = (Limits.standard.shorten (shownWhole cut.line)).text := by
  cases has : Buffer.hasText d with
  | false =>
    have empty : d.text = [] := (Lookup.textlessExact d).mp has
    have size := (congrArg List.length empty).symm.trans cut.textLength
    have nothing : cut.line = [] := by
      apply List.eq_nil_of_length_eq_zero
      rw [List.length_nil] at size
      omega
    refine ⟨_, extractFromNoText Limits.standard [] cut.extent has, ?_⟩
    rw [nothing]
    rfl
  | true =>
    obtain ⟨atStart, atStop⟩ := cut.extentAround
    have seen := LineCut.sightUpToDate upToDate cut cut atStart atStop
    have answered := extractFromText Limits.standard [] cut.extent has
    rw [seen, asked] at answered
    exact ⟨_, answered, congrArg (fun m => (Limits.standard.shorten m).text) (wholeMarked cut)⟩

theorem lineCounted (cut : LineCut d.text) :
    (ofLine cut.number).run d = (.ok (ofShown cut.line), d) := by
  have range := LineCut.extentUpToDate upToDate cut
  rw [asked] at range
  obtain ⟨extraction, answered, text⟩ := lineExtracted upToDate asked cut
  have whole := wholeLength cut.line
  rw [← text, ← cut.extentLength] at whole
  have same : (if (extraction.reference.text.length : Int) = cut.extent.length then 0 else 1) =
      if counted cut.line then 1 else 0 := by
    have decided : counted cut.line = true ↔
        (extraction.reference.text.length : Int) ≠ cut.extent.length :=
      decide_eq_true_iff.trans whole.symm
    simp only [decided, ite_not]
  rw [ofLine, Query.bindOk range, Query.bindOk answered, same]
  rfl

theorem linesCounted : (Query.each ofLine (List.range (d.text.splitOn '\n').length)).run d =
    (.ok ((d.text.splitOn '\n').map ofShown), d) := by
  rw [List.range_eq_range']
  refine Query.eachPlace 0 fun i line found => ?_
  obtain ⟨cut, rfl, rfl⟩ := LineCut.cutNumbered found
  rw [Nat.zero_add]
  exact lineCounted upToDate asked cut

end

theorem documentCounted {d : Document} (upToDate : d.starts = Lines.starts d.text) :
    ofDocument.run d =
      (.ok ⟨1 + d.text.count '\n', (d.text.splitOn '\n').countP counted⟩, d.indexed) := by
  have size : d.starts.length = (d.text.splitOn '\n').length := by
    rw [upToDate, Lines.startsLength, splitLength]
  have count : Document.lineCount.run d = (.ok (d.text.splitOn '\n').length, d.indexed) := by
    rw [Document.lineCount, Query.bindOk (Document.lineStartsRun d), size]
    rfl
  have lines := linesCounted (d := d.indexed) upToDate (Document.indexedTwice d)
  have total := sumShown (d.text.splitOn '\n')
  rw [splitLength, Nat.add_comm] at total
  rw [ofDocument, Query.bindOk count, ← total]
  exact Query.bindOk lines

def ofTexts (texts : List Text) : Census :=
  ⟨(texts.map fun text => 1 + text.count '\n').foldr (· + ·) 0,
    (texts.map fun text => (text.splitOn '\n').countP counted).foldr (· + ·) 0⟩

theorem documentsCounted {ds : List Document}
    (upToDate : ∀ d ∈ ds, d.starts = Lines.starts d.text) :
    ofDocuments ds = (.ok (ofTexts (ds.map Document.text)), ds.map Document.indexed) := by
  induction ds with
  | nil => rfl
  | cons d rest ih =>
    have first := documentCounted (upToDate d List.mem_cons_self)
    have others := ih fun d member => upToDate d (List.mem_cons_of_mem _ member)
    rw [ofDocuments, first, others]
    rfl

end Census

/-! Lines that one of the two passes changes. -/
def Limits.changes (limits : Limits) (m : Marked) : Bool :=
  (limits.collapse m).text ≠ m.text ∨ (limits.shorten m).text ≠ (limits.collapse m).text

theorem plainLine {text line : Text} (plain : '\r' ∉ text) (member : line ∈ text.splitOn '\n') :
    '\r' ∉ line := by
  obtain ⟨i, found⟩ := List.getElem?_of_mem member
  obtain ⟨cut, _, rfl⟩ := LineCut.cutNumbered found
  intro returned
  rw [← cut.joined] at plain
  exact plain (List.mem_append_left _ (List.mem_append_right _ returned))

theorem plainShown {line : Text} (plain : '\r' ∉ line) : shownWhole line = ⟨line, 0, line.length⟩ := by
  rw [shownWhole, Lines.dropReturnPlain plain]

theorem wholeChanged {line : Text} (plain : '\r' ∉ line) :
    Limits.standard.changes ⟨line, 0, line.length⟩ = true ↔
      150 < line.length ∨ line.getLast? = some '\r' := by
  rw [← plainShown plain]
  simp only [Limits.changes, decide_eq_true_eq]
  rcases Nat.lt_or_ge 150 line.length with wide | narrow
  · have longer := (wholeLength line).mpr (.inl wide)
    refine iff_of_true ?_ (.inl wide)
    by_cases collapsed : (Limits.standard.collapse (shownWhole line)).text = (shownWhole line).text
    · refine .inr fun same => longer ?_
      rw [same, collapsed, plainShown plain]
    · exact .inl collapsed
  · obtain ⟨collapsed, kept⟩ := wholeKept narrow
    rw [collapsed, kept]
    exact iff_of_false (by simp) fun long => long.elim (Nat.not_lt.mpr narrow) (Lines.plainEnd plain)

theorem Census.plainTruncated {texts : List Text} (plain : ∀ text ∈ texts, '\r' ∉ text) :
    (ofTexts texts).truncated = (texts.map fun text => (text.splitOn '\n').countP fun line =>
      Limits.standard.changes ⟨line, 0, line.length⟩).foldr (· + ·) 0 := by
  refine congrArg (List.foldr (· + ·) 0) (List.map_congr_left fun text inside => ?_)
  refine List.countP_congr fun line member => ?_
  rw [wholeChanged (plainLine (plain text inside) member), counted, decide_eq_true_iff]

theorem plainMarked {text : Text} (plain : '\r' ∉ text) (name : Text) {i : Nat} {line : Text}
    (found : (text.splitOn '\n')[i]? = some line) :
    ∃ extent s, ((Document.lineRange i).run (Document.ofText name text)).1 = .ok extent ∧
      ((sight extent).run (Document.ofText name text)).1 = .ok s ∧
      s.marked = ⟨line, 0, line.length⟩ := by
  have unreturned := plainLine plain (List.mem_of_getElem? found)
  obtain ⟨cut, rfl, rfl⟩ := LineCut.cutNumbered found
  obtain ⟨atStart, atStop⟩ := cut.extentAround
  exact ⟨_, _, congrArg Prod.fst (cut.answersExtent name),
    congrArg Prod.fst (cut.answersSight name cut atStart atStop),
    (wholeMarked cut).trans (plainShown unreturned)⟩

theorem censusExact (sources : List (Text × Text)) :
    let documents := sources.map fun source => Document.ofText source.1 source.2
    let texts := sources.map Prod.snd
    let census : Census := ⟨(texts.map fun text => 1 + text.count '\n').foldr (· + ·) 0,
      (texts.map fun text => (text.splitOn '\n').countP fun line =>
        150 < line.length ∨ line.getLast? = some '\r').foldr (· + ·) 0⟩
    Census.ofDocuments documents = (.ok census, documents.map Document.indexed) ∧
    Census.ofDocuments (documents.map Document.indexed) =
      (.ok census, documents.map Document.indexed) ∧
    ((∀ text ∈ texts, '\r' ∉ text) →
      census.truncated = (texts.map fun text => (text.splitOn '\n').countP fun line =>
        Limits.standard.changes ⟨line, 0, line.length⟩).foldr (· + ·) 0 ∧
      ∀ name, ∀ text ∈ texts, ∀ (i : Nat) line, (text.splitOn '\n')[i]? = some line →
        ∃ extent s, ((Document.lineRange i).run (Document.ofText name text)).1 = .ok extent ∧
          ((sight extent).run (Document.ofText name text)).1 = .ok s ∧
          s.marked = ⟨line, 0, line.length⟩) := by
  intro documents texts census
  have upToDate : ∀ d ∈ documents, d.starts = Lines.starts d.text := by
    intro d member
    obtain ⟨source, _, rfl⟩ := List.mem_map.mp member
    rfl
  have again : ∀ d ∈ documents.map Document.indexed, d.starts = Lines.starts d.text := by
    intro d member
    obtain ⟨own, inside, rfl⟩ := List.mem_map.mp member
    exact upToDate own inside
  have shown : documents.map Document.text = texts := List.map_map
  have kept : (documents.map Document.indexed).map Document.text = texts :=
    List.map_map.trans shown
  have twice : (documents.map Document.indexed).map Document.indexed =
      documents.map Document.indexed := List.map_map
  have first := Census.documentsCounted upToDate
  have second := Census.documentsCounted again
  rw [shown] at first
  rw [kept, twice] at second
  refine ⟨first, second, fun plain => ⟨Census.plainTruncated plain, ?_⟩⟩
  intro name text inside i line found
  exact plainMarked (plain text inside) name found

set_option maxRecDepth 10000 in
/- A line that is just too wide, and the empty one after it. -/
theorem censusExactWide :
    let text := List.replicate 151 'x' ++ ['\n']
    let d := Document.ofText ['a'] text
    (∀ own ∈ [text], '\r' ∉ own) ∧ Census.ofDocuments [d] = (.ok ⟨2, 1⟩, [d.indexed]) ∧
      Census.ofDocuments [d.indexed] = (.ok ⟨2, 1⟩, [d.indexed]) ∧
      1 = ([text].map fun own => (own.splitOn '\n').countP fun line =>
        Limits.standard.changes ⟨line, 0, line.length⟩).foldr (· + ·) 0 := by
  intro text d
  have plain : ∀ own ∈ [text], '\r' ∉ own := by simp [text]
  obtain ⟨first, second, changed⟩ := censusExact [(['a'], text)]
  exact ⟨plain, first, second, (changed plain).1⟩

end SourceExcerpt
