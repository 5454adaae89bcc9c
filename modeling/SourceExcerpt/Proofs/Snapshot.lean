import Mathlib.Data.List.Sort
import SourceExcerpt.Document.Steps
import SourceExcerpt.Proofs.LineIndex
/-! Documents without a cache. In place of an index the machine keeps the text that was there
when line starts were first needed, and finds them anew for every answer. A document gives the
same answers over every run, so what it caches is that text and never anything later. -/
namespace SourceExcerpt
open Text

structure Snapshot where
  name : Text
  text : Text
  taken : Option Text
  deriving DecidableEq, Repr

namespace Snapshot
open Document (Step Answer)

def fresh (name text : Text) : Snapshot := ⟨name, text, none⟩

/- The text that lines are counted in; all else is asked of the text as it is. -/
def basis (m : Snapshot) : Text := m.taken.getD m.text

def starts (m : Snapshot) : List Nat := Lines.starts m.basis

def Holds (m : Snapshot) (offset : Int) : Prop := 0 ≤ offset ∧ offset ≤ m.text.length
instance (m : Snapshot) (offset : Int) : Decidable (m.Holds offset) := by
  unfold Holds; infer_instance

def position (m : Snapshot) (offset : Int) : Except Fault Position :=
  if m.Holds offset then .ok (Document.locate m.starts offset)
  else .error (.offsetOutside offset m.name m.text.length)

def extent (m : Snapshot) (line : Int) : Except Fault Span :=
  if 0 ≤ line ∧ line < m.starts.length then
    Document.lineExtent m.starts m.text.length line.toNat
  else .error (.lineOutside line m.name m.starts.length)

/-! What these come to, said of the texts: lines start at 0 and behind each newline of the basis,
and nowhere else; an offset is on the line whose start is the last one not after it; a line goes on
up to the newline before the next start, or up to the end of the text as it is. -/
theorem startsExact {m : Snapshot} {starts : List Nat} : starts = m.starts ↔
    starts.Pairwise (· < ·) ∧
      ∀ start, start ∈ starts ↔ start = 0 ∨ ∃ i, m.basis[i]? = some '\n' ∧ start = i + 1 := by
  have index := LineIndex.ofText m.basis
  constructor
  · rintro rfl
    exact ⟨index.increasing, fun _ => LineIndex.startsMember⟩
  · rintro ⟨increasing, members⟩
    exact increasing.eq_of_mem_iff index.increasing fun start =>
      (members start).trans LineIndex.startsMember.symm

theorem startsIndex (m : Snapshot) : LineIndex m.starts := LineIndex.ofText m.basis

theorem positionHeld {m : Snapshot} {offset : Int} (holds : m.Holds offset) :
    ∃ line start, LineIndex.LineOf m.starts offset line start ∧
      m.position offset = .ok ⟨line, offset - start⟩ := by
  obtain ⟨line, start, lineOf, located⟩ := m.startsIndex.located holds.1
  exact ⟨line, start, lineOf, by rw [position, if_pos holds, located]⟩

theorem extentFound {m : Snapshot} {line start : Nat} (found : m.starts[line]? = some start) :
    m.extent line = Span.ofBounds start (LineIndex.lineStop m.starts m.text.length line) := by
  have within : line < m.starts.length := (List.getElem?_eq_some_iff.mp found).1
  rw [extent, if_pos ⟨Int.natCast_nonneg line, by omega⟩, Int.toNat_natCast]
  exact LineIndex.extentOf found

def line (m : Snapshot) (offset : Int) : Except Fault Text := do
  let position ← m.position offset
  let extent ← m.extent position.line
  return Lines.dropReturn (extent.sliceOf m.text)

def answer (m : Snapshot) : Step → Except Fault Answer
  | .hasText => .ok (.verdict (!m.text.isEmpty))
  | .lineStarts => .ok (.offsets m.starts)
  | .lineCount => .ok (.number m.starts.length)
  | .lineRange line => (m.extent line).map .span
  | .lineColumn offset => (m.position offset).map .position
  | .lineAt offset => (m.line offset).map .text
  | .setText _ => .ok .done
  | .setName _ => .ok .done
  | .same name text => .ok (.verdict (m.name = name ∧ m.text = text))
  | .render => .ok (.text (Document.ofText m.name m.text).render)

/- A line that does not exist still needs the line starts; an offset outside the text is
refused before they are needed. -/
def needsStarts (m : Snapshot) : Step → Bool
  | .lineStarts | .lineCount | .lineRange _ => true
  | .lineColumn offset | .lineAt offset => decide (m.Holds offset)
  | _ => false

def take (m : Snapshot) (s : Step) : Option Text :=
  match m.taken with
  | some text => some text
  | none => if m.needsStarts s then some m.text else none

def next (m : Snapshot) : Step → Snapshot
  | .setText text => { m with text := text }
  | .setName name => { m with name := name }
  | s => { m with taken := m.take s }

def run : List Step → Snapshot → List (Except Fault Answer) × Snapshot
  | [], m => ([], m)
  | s :: rest, m => (m.answer s :: (run rest (m.next s)).1, (run rest (m.next s)).2)

/-! The document that a machine stands for, and the simulation. -/
def document (m : Snapshot) : Document := ⟨m.name, m.text, m.taken.map Lines.starts⟩

theorem documentStarts (m : Snapshot) : m.document.starts = m.starts := by
  obtain ⟨name, text, taken⟩ := m
  cases taken <;> rfl

theorem documentIndexed (m : Snapshot) :
    m.document.indexed = { m with taken := some m.basis }.document := by
  simp only [Document.indexed, documentStarts]
  rfl

theorem takeNeeded {m : Snapshot} {s : Step} (needed : m.needsStarts s = true) :
    m.take s = some m.basis := by
  unfold take basis
  cases m.taken with
  | none => simp [needed]
  | some text => rfl

theorem takeUnneeded {m : Snapshot} {s : Step} (unneeded : m.needsStarts s = false) :
    m.take s = m.taken := by
  unfold take
  cases m.taken with
  | none => simp [unneeded]
  | some text => rfl

theorem lineRangeRun (m : Snapshot) (line : Int) :
    (Document.lineRange line).run m.document = (m.extent line, m.document.indexed) := by
  rw [Document.lineRangeRun, documentStarts]
  rfl

theorem lineColumnHeld {m : Snapshot} {offset : Int} (holds : m.Holds offset) :
    (Document.lineColumn offset).run m.document =
      (.ok (Document.locate m.starts offset), m.document.indexed) := by
  rw [Document.lineColumnRun, documentStarts]
  exact if_pos holds

theorem lineColumnRefused {m : Snapshot} {offset : Int} (holds : ¬ m.Holds offset) :
    (Document.lineColumn offset).run m.document =
      (.error (.offsetOutside offset m.name m.text.length), m.document) := by
  rw [Document.lineColumnRun]
  exact if_neg holds

theorem lineColumnRun (m : Snapshot) (offset : Int) :
    (Document.lineColumn offset).run m.document =
      (m.position offset, if m.Holds offset then m.document.indexed else m.document) := by
  unfold position
  by_cases holds : m.Holds offset
  · rw [if_pos holds, if_pos holds, lineColumnHeld holds]
  · rw [if_neg holds, if_neg holds, lineColumnRefused holds]

theorem lineAtRun (m : Snapshot) (offset : Int) :
    (Document.lineAt offset).run m.document =
      (m.line offset, if m.Holds offset then m.document.indexed else m.document) := by
  unfold line position
  by_cases holds : m.Holds offset
  · have range := lineRangeRun { m with taken := some m.basis }
      (Document.locate m.starts offset).line
    rw [← documentIndexed] at range
    rw [if_pos holds, if_pos holds, Document.lineAt, Query.bindOk (lineColumnHeld holds),
      Query.bindRun, range]
    change _ = (m.extent _ >>= _, _)
    have same : ({ m with taken := some m.basis } : Snapshot).extent = m.extent := rfl
    rw [same]
    cases m.extent (Document.locate m.starts offset).line <;> rfl
  · rw [if_neg holds, if_neg holds]
    exact Query.bindError (lineColumnRefused holds)

theorem nextTaking {m : Snapshot} {s : Step} (needed : m.needsStarts s = true)
    (asks : m.next s = { m with taken := m.take s }) : (m.next s).document = m.document.indexed := by
  rw [asks, takeNeeded needed, documentIndexed]

theorem nextKeeping {m : Snapshot} {s : Step} (unneeded : m.needsStarts s = false)
    (asks : m.next s = { m with taken := m.take s }) : m.next s = m := by
  rw [asks, takeUnneeded unneeded]

theorem nextHeld {m : Snapshot} {s : Step} {offset : Int}
    (needs : m.needsStarts s = decide (m.Holds offset))
    (asks : m.next s = { m with taken := m.take s }) :
    (m.next s).document = if m.Holds offset then m.document.indexed else m.document := by
  by_cases holds : m.Holds offset
  · rw [if_pos holds, nextTaking (needs.trans (decide_eq_true holds)) asks]
  · rw [if_neg holds, nextKeeping (needs.trans (decide_eq_false holds)) asks]

theorem stepDocument (s : Step) (m : Snapshot) :
    (Document.step s).run m.document = (m.answer s, (m.next s).document) := by
  cases s with
  | hasText => rw [nextKeeping rfl rfl]; rfl
  | lineStarts =>
    rw [nextTaking rfl rfl, Document.step, Query.mapRun, Document.lineStartsRun, documentStarts]
    rfl
  | lineCount =>
    rw [nextTaking rfl rfl, Document.step, Query.mapRun, Document.lineCount, Query.mapRun,
      Document.lineStartsRun, documentStarts]
    rfl
  | lineRange line =>
    rw [nextTaking rfl rfl, Document.step, Query.mapRun, lineRangeRun]
    rfl
  | lineColumn offset =>
    rw [nextHeld rfl rfl, Document.step, Query.mapRun, lineColumnRun]
    rfl
  | lineAt offset =>
    rw [nextHeld rfl rfl, Document.step, Query.mapRun, lineAtRun]
    rfl
  | setText text => rfl
  | setName name => rfl
  | same name text => rw [nextKeeping rfl rfl]; rfl
  | render => rw [nextKeeping rfl rfl]; rfl

theorem runDocument (steps : List Step) (m : Snapshot) :
    Document.run steps m.document = ((run steps m).1, (run steps m).2.document) := by
  induction steps generalizing m with
  | nil => rfl
  | cons s rest ih => simp only [Document.run, run, stepDocument, ih]

/-! A taken text is never replaced. -/
theorem nextKeepsTaken {m : Snapshot} {text : Text} (had : m.taken = some text) (s : Step) :
    (m.next s).taken = some text := by
  have kept : m.take s = some text := by rw [take, had]
  cases s <;> first | exact kept | exact had

theorem runKeepsTaken {m : Snapshot} {text : Text} (had : m.taken = some text)
    (steps : List Step) : (run steps m).2.taken = some text := by
  induction steps generalizing m with
  | nil => exact had
  | cons s rest ih => exact ih (nextKeepsTaken had s)

theorem runAfter (before after : List Step) (m : Snapshot) :
    (run (before ++ after) m).2 = (run after (run before m).2).2 := by
  induction before generalizing m with
  | nil => rfl
  | cons s rest ih => exact ih (m.next s)

/-! An answer depends on the name, the text and the text that lines are counted in, whether or
not that one has been taken. -/
theorem answerByBasis {a b : Snapshot} (name : a.name = b.name) (text : a.text = b.text)
    (basis : a.basis = b.basis) (s : Step) : a.answer s = b.answer s := by
  have starts : a.starts = b.starts := congrArg Lines.starts basis
  have position : a.position = b.position := by
    funext offset
    simp only [Snapshot.position, Holds, name, text, starts]
  have extent : a.extent = b.extent := by
    funext line
    simp only [Snapshot.extent, name, text, starts]
  have line : a.line = b.line := by
    funext offset
    simp only [Snapshot.line, position, extent, text]
  cases s <;> simp only [answer, name, text, starts, position, extent, line]

def UpToDate (m : Snapshot) : Prop := m.basis = m.text

theorem nextUpToDate {m : Snapshot} (current : m.UpToDate) {s : Step}
    (untouched : ∀ text, s ≠ .setText text) :
    (m.next s).UpToDate ∧ (m.next s).text = m.text := by
  have taking : ({ m with taken := m.take s } : Snapshot).UpToDate := by
    cases needs : m.needsStarts s with
    | true => rw [takeNeeded needs]; exact current
    | false => rw [takeUnneeded needs]; exact current
  cases s with
  | setText text => exact absurd rfl (untouched text)
  | setName name => exact ⟨current, rfl⟩
  | _ => exact ⟨taking, rfl⟩

theorem runUpToDate {m : Snapshot} (current : m.UpToDate) {steps : List Step}
    (untouched : ∀ text, .setText text ∉ steps) :
    (run steps m).2.UpToDate ∧ (run steps m).2.text = m.text := by
  induction steps generalizing m with
  | nil => exact ⟨current, rfl⟩
  | cons s rest ih =>
    have first := nextUpToDate current fun text (same : s = .setText text) =>
      untouched text (same ▸ List.mem_cons_self)
    have later := ih first.1 fun text member => untouched text (List.mem_cons_of_mem _ member)
    exact ⟨later.1, later.2.trans first.2⟩

/-! The cache is one snapshot: every run has the answers and faults of the machine, a text once
taken stays, and until the text is set an answer is that of a document not asked before. -/
theorem cacheIsSnapshot (name text : Text) :
    (∀ steps, Document.run steps (Document.ofText name text) =
      ((run steps (fresh name text)).1, (run steps (fresh name text)).2.document)) ∧
    (∀ before after taken, (run before (fresh name text)).2.taken = some taken →
      (run (before ++ after) (fresh name text)).2.taken = some taken) ∧
    (∀ before s after, (∀ t, .setText t ∉ before) →
      (Document.run (before ++ s :: after) (Document.ofText name text)).1[before.length]? =
        some ((Document.step s).run
          (Document.ofText (Document.run before (Document.ofText name text)).2.name text)).1) := by
  have simulated steps := runDocument steps (fresh name text)
  refine ⟨simulated, ?_, ?_⟩
  · intro before after taken had
    rw [runAfter]
    exact runKeepsTaken had after
  · intro before s after untouched
    obtain ⟨current, kept⟩ := runUpToDate (m := fresh name text) rfl untouched
    let m := (run before (fresh name text)).2
    have ends : (Document.run before (Document.ofText name text)).2 = m.document :=
      congrArg Prod.snd (simulated before)
    have answers : m.answer s = (fresh m.name text).answer s := by
      apply answerByBasis
      · rfl
      · exact kept
      · exact current.trans kept
    have again := congrArg Prod.fst (stepDocument s (fresh m.name text))
    rw [Document.outcomeAt, ends, stepDocument]
    exact congrArg some (answers.trans again.symm)

/- Once the lines of a newline were counted, a text without any has two lines as well. -/
theorem cacheIsSnapshotRenamed :
    (∀ t, Step.setText t ∉ [.lineAt 9, .setName ['b']]) ∧
    (Document.run [.lineAt 9, .setName ['b'], .lineAt 9, .setText []]
      (Document.ofText ['a'] ['\n'])).1[2]? =
        some (.error (.offsetOutside 9 ['b'] 1)) ∧
    (run [.lineAt 1] (fresh ['a'] ['\n'])).2.taken = some ['\n'] ∧
    (run ([.lineAt 1] ++ [.setText []]) (fresh ['a'] ['\n'])).2.taken = some ['\n'] ∧
    (Document.run [.lineCount, .setText ['x', 'y'], .lineStarts, .lineColumn 2, .lineRange 1,
      .lineAt 2] (Document.ofText ['a'] ['\n'])).1 =
        [.ok (.number 2), .ok .done, .ok (.offsets [0, 1]), .ok (.position ⟨1, 1⟩),
          .ok (.span ⟨1, 2, by decide, by decide⟩), .ok (.text ['y'])] := by
  have same := (cacheIsSnapshot ['a'] ['\n']).2.2 [.lineAt 9, .setName ['b']] (.lineAt 9)
    [.setText []] (by simp)
  have stays := (cacheIsSnapshot ['a'] ['\n']).2.1 [.lineAt 1] [.setText []] ['\n'] (by decide)
  have stale := (cacheIsSnapshot ['a'] ['\n']).1 [.lineCount, .setText ['x', 'y'], .lineStarts,
    .lineColumn 2, .lineRange 1, .lineAt 2]
  exact ⟨by simp, same, by decide, stays, congrArg Prod.fst stale⟩

theorem reachableDocument {d : Document} (reached : d.Reachable) : ∃ m : Snapshot, m.document = d := by
  obtain ⟨name, text, steps, ends⟩ := reached
  have simulated := congrArg Prod.snd (runDocument steps (fresh name text))
  exact ⟨(run steps (fresh name text)).2, simulated.symm.trans ends⟩

end Snapshot

theorem Document.Reachable.index {d : Document} (reached : d.Reachable) : LineIndex d.starts := by
  obtain ⟨m, rfl⟩ := Snapshot.reachableDocument reached
  rw [Snapshot.documentStarts]
  exact m.startsIndex

end SourceExcerpt
