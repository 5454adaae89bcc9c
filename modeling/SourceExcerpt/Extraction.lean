import SourceExcerpt.Location
import SourceExcerpt.Marked
import SourceExcerpt.Reference
/-! From a location to the reference shown for it. The source is asked for the position of
the start, then of the end, then for the line of the start; the rest depends on the answers
alone. -/
namespace SourceExcerpt
open Text

structure Sighting where
  start : Position
  stop : Position
  line : Text
  deriving DecidableEq, Repr

inductive Event where
  | noSource (message : Text)
  | noText (name : Text)
  | collapsed (name : Text) (position : Position)
  | windowed (name : Text) (position : Position)
  deriving DecidableEq, Repr

def placeText (name : Text) (p : Position) : Text :=
  name ++ " at ".toList ++ Decimal.render p.line ++ ":".toList ++ Decimal.render p.column

def Event.render : Event → Text
  | .noSource message =>
    "No source for ".toList ++ Quoted.quoted message ++ ", message-only reference".toList
  | .noText name =>
    "Source ".toList ++ name ++ " has no text, reference without excerpt".toList
  | .collapsed name p => "Collapsed flagged range in ".toList ++ placeText name p
  | .windowed name p => "Windowed long line in ".toList ++ placeText name p

structure Extraction where
  reference : Reference
  log : List Event
  deriving DecidableEq, Repr

namespace Sighting

def multiline (s : Sighting) : Bool := s.start.line ≠ s.stop.line

/- The line with the flagged range. The rest of a multiline range is on lines that are not
shown, so it runs to the end of this one. -/
def marked (s : Sighting) : Marked :=
  ⟨s.line, s.start.column, if s.multiline then s.line.length else s.stop.column⟩

theorem markedSingle {s : Sighting} (same : s.start.line = s.stop.line) :
    s.marked = ⟨s.line, s.start.column, s.stop.column⟩ := by
  simp [marked, multiline, same]

theorem markedMultiline {s : Sighting} (different : s.start.line ≠ s.stop.line) :
    s.marked = ⟨s.line, s.start.column, s.line.length⟩ := by
  simp [marked, multiline, different]

def reference (s : Sighting) (limits : Limits) (name message : Text) : Reference :=
  let excerpt := limits.shorten s.marked
  { message
    sourceName := some name
    position := some s.start
    multiline := s.multiline
    text := excerpt.text
    start := min excerpt.start excerpt.text.length
    stop := min excerpt.stop excerpt.text.length }

def log (s : Sighting) (limits : Limits) (name : Text) : List Event :=
  (if limits.reportsCollapse s.marked then [.collapsed name s.start] else []) ++
    (if limits.reportsWindow s.marked then [.windowed name s.start] else [])

end Sighting

def sight [Buffer σ] (span : Span) : Query σ Sighting := do
  let start ← Buffer.lineColumn span.start
  let stop ← Buffer.lineColumn span.stop
  let line ← Buffer.lineAt span.start
  return ⟨start, stop, line⟩

def extractFrom [Buffer σ] (limits : Limits) (message : Text) (span : Span) :
    Query σ Extraction := do
  let buffer ← Query.current
  let name := Buffer.name buffer
  if Buffer.hasText buffer then
    let s ← sight span
    return ⟨s.reference limits name message, s.log limits name⟩
  else
    return ⟨Reference.messageOnly message (some name), [.noText name]⟩

theorem extractFromText [Buffer σ] (limits : Limits) (message : Text) (span : Span) {buffer : σ}
    (has : Buffer.hasText buffer = true) :
    (extractFrom limits message span).run buffer =
      (((sight span).run buffer).1.map fun s =>
        ⟨s.reference limits (Buffer.name buffer) message, s.log limits (Buffer.name buffer)⟩,
        ((sight span).run buffer).2) := by
  rw [extractFrom, Query.bindOk (Query.currentRun buffer), if_pos has, Query.mapRun]

theorem extractFromNoText [Buffer σ] (limits : Limits) (message : Text) (span : Span) {buffer : σ}
    (lacks : Buffer.hasText buffer = false) :
    (extractFrom limits message span).run buffer =
      (.ok ⟨Reference.messageOnly message (some (Buffer.name buffer)),
        [.noText (Buffer.name buffer)]⟩, buffer) := by
  rw [extractFrom, Query.bindOk (Query.currentRun buffer), if_neg (by simp [lacks])]
  rfl

theorem extractFromAnswered [Buffer σ] {limits : Limits} {message : Text} {span : Span}
    {buffer after : σ} {extraction : Extraction}
    (h : (extractFrom limits message span).run buffer = (.ok extraction, after)) :
    extraction.reference = Reference.messageOnly message (some (Buffer.name buffer)) ∨
      ∃ s, (sight span).run buffer = (.ok s, after) ∧
        extraction = ⟨s.reference limits (Buffer.name buffer) message,
          s.log limits (Buffer.name buffer)⟩ := by
  cases has : Buffer.hasText buffer with
  | false =>
    rw [extractFromNoText limits message span has] at h
    cases h
    exact .inl rfl
  | true =>
    rw [extractFromText limits message span has] at h
    cases seen : (sight span).run buffer with
    | mk outcome asked =>
      rw [seen] at h
      cases outcome with
      | error fault => cases h
      | ok s => cases h; exact .inr ⟨s, rfl, rfl⟩

def extract [Buffer σ] (limits : Limits) (message : Text) (location : Option Location) :
    Query (Store σ) Extraction := do
  let store ← Query.current
  match location.bind (Location.siteIn · store) with
  | none => return ⟨Reference.messageOnly message none, [.noSource message]⟩
  | some site => Store.ask (extractFrom limits message site.span) site.place site.buffer

theorem extractNowhere [Buffer σ] (limits : Limits) (message : Text)
    {location : Option Location} {store : Store σ}
    (h : location.bind (Location.siteIn · store) = none) :
    (extract limits message location).run store =
      (.ok ⟨Reference.messageOnly message none, [.noSource message]⟩, store) := by
  rw [extract, Query.bindOk (Query.currentRun store), h]; rfl

theorem extractAt [Buffer σ] (limits : Limits) (message : Text)
    {location : Option Location} {store : Store σ} {site : Site σ}
    (h : location.bind (Location.siteIn · store) = some site) :
    (extract limits message location).run store =
      (((extractFrom limits message site.span).run site.buffer).1,
        store.set site.place ((extractFrom limits message site.span).run site.buffer).2) := by
  rw [extract, Query.bindOk (Query.currentRun store), h]; rfl

theorem extractAnswered [Buffer σ] {limits : Limits} {message : Text} {location : Option Location}
    {store after : Store σ} {extraction : Extraction}
    (h : (extract limits message location).run store = (.ok extraction, after)) :
    (∃ name, extraction.reference = Reference.messageOnly message name) ∨
      ∃ site s asked, location.bind (Location.siteIn · store) = some site ∧
        (sight site.span).run site.buffer = (.ok s, asked) ∧
        extraction = ⟨s.reference limits (Buffer.name site.buffer) message,
          s.log limits (Buffer.name site.buffer)⟩ := by
  cases resolved : location.bind (Location.siteIn · store) with
  | none =>
    rw [extractNowhere limits message resolved] at h
    cases h
    exact .inl ⟨none, rfl⟩
  | some site =>
    rw [extractAt limits message resolved] at h
    have outcome := congrArg Prod.fst h
    have answered : (extractFrom limits message site.span).run site.buffer =
        (.ok extraction, ((extractFrom limits message site.span).run site.buffer).2) :=
      Prod.ext outcome rfl
    rcases extractFromAnswered answered with only | ⟨s, seen, same⟩
    · exact .inl ⟨_, only⟩
    · exact .inr ⟨site, s, _, rfl, seen, same⟩

theorem extractOf [Buffer σ] (limits : Limits) (message : Text) (span : Span) {store : Store σ}
    {place : Nat} {buffer : σ} (here : store[place]? = some buffer) :
    (extract limits message (some ⟨some place, span⟩)).run store =
      (((extractFrom limits message span).run buffer).1,
        store.set place ((extractFrom limits message span).run buffer).2) := by
  have site : (some (⟨some place, span⟩ : Location)).bind (Location.siteIn · store) =
      some ⟨place, buffer, span⟩ := Location.siteAt here span
  exact extractAt limits message site

def extractEach [Buffer σ] (limits : Limits) (message : Text) :
    List LocationDraft → Store σ → List (Except Fault Extraction) × Store σ
  | [], store => ([], store)
  | draft :: rest, store =>
    let (outcome, store) := (do
      let location ← Query.ofExcept draft.check
      extract limits message location).run store
    let (outcomes, store) := extractEach limits message rest store
    (outcome :: outcomes, store)

end SourceExcerpt
