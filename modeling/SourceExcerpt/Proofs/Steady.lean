import SourceExcerpt.Extraction
/-! A query is steady in a view of the state when it answers by the
view alone and leaves it as it was; such queries can be asked in any order. The view of a document
is its name, its text and its line starts: a query may take these, but never changes what they are. -/
namespace SourceExcerpt
open Text

namespace Query

structure Steady {σ τ α : Type} (view : σ → τ) (query : Query σ α) : Prop where
  outcome : ∀ {s t}, view s = view t → (query.run s).1 = (query.run t).1
  keeps : ∀ s, view (query.run s).2 = view s

variable {σ τ α β : Type} {view : σ → τ}

theorem steadyPure (a : α) : (pure a : Query σ α).Steady view := ⟨fun _ => rfl, fun _ => rfl⟩

theorem steadyFail (fault : Fault) : (fail fault : Query σ α).Steady view :=
  ⟨fun _ => rfl, fun _ => rfl⟩

theorem steadyExcept (result : Except Fault α) : (ofExcept result : Query σ α).Steady view :=
  ⟨fun _ => rfl, fun _ => rfl⟩

theorem steadyBind {first : Query σ α} {next : α → Query σ β} (begins : first.Steady view)
    (continues : ∀ a, (next a).Steady view) : (first >>= next).Steady view := by
  constructor
  · intro s t same
    have outcome := begins.outcome same
    have kept : view (first.run s).2 = view (first.run t).2 := by
      rw [begins.keeps, begins.keeps, same]
    rw [bindRun, bindRun]
    cases ranS : first.run s with
    | mk answered left =>
      cases ranT : first.run t with
      | mk other right =>
        rw [ranS, ranT] at outcome kept
        cases (outcome : answered = other)
        cases answered with
        | ok a => exact (continues a).outcome kept
        | error fault => rfl
  · intro s
    have kept := begins.keeps s
    rw [bindRun]
    cases ran : first.run s with
    | mk answered left =>
      rw [ran] at kept
      cases answered with
      | ok a => exact ((continues a).keeps left).trans kept
      | error fault => exact kept

/- Reading the state itself is not steady; reading what the view shows of it is. -/
theorem steadyRead {next : σ → Query σ β} (shown : ∀ {s t}, view s = view t → next s = next t)
    (continues : ∀ s, (next s).Steady view) : (current >>= next).Steady view where
  outcome {s t} same := by
    change ((next s).run s).1 = ((next t).run t).1
    rw [(continues s).outcome same, shown same]
  keeps s := (continues s).keeps s

theorem steadyEach {query : α → Query σ β} (steady : ∀ a, (query a).Steady view) (as : List α) :
    (each query as).Steady view := by
  induction as with
  | nil => exact steadyPure []
  | cons a rest ih => exact steadyBind (steady a) fun _ => steadyBind ih fun _ => steadyPure _

/-! Asked in a row, steady queries answer as they do alone. -/
theorem bothOutcome {first : Query σ α} {second : Query σ β} (begins : first.Steady view)
    (ends : second.Steady view) (join : α → β → γ) (s : σ) :
    ((first >>= fun a => second >>= fun b => pure (join a b)).run s).1 =
      (first.run s).1.bind fun a => (second.run s).1.map (join a) := by
  have kept := begins.keeps s
  rw [bindRun]
  cases ran : first.run s with
  | mk answered left =>
    rw [ran] at kept
    cases answered with
    | error fault => rfl
    | ok a =>
      have alone := ends.outcome kept
      simp only [mapRun, alone]
      rfl

theorem eachOutcome {query : α → Query σ β} (steady : ∀ a, (query a).Steady view) (a : α)
    (rest : List α) (s : σ) :
    ((each query (a :: rest)).run s).1 =
      ((query a).run s).1.bind fun b => ((each query rest).run s).1.map (b :: ·) :=
  bothOutcome (steady a) (steadyEach steady rest) List.cons s

theorem eachAlone {query : α → Query σ β} (steady : ∀ a, (query a).Steady view) {as : List α}
    {bs : List β} {s : σ} (answered : ((each query as).run s).1 = .ok bs) {i : Nat} {a : α}
    (found : as[i]? = some a) : ∃ b, bs[i]? = some b ∧ ((query a).run s).1 = .ok b := by
  induction as generalizing bs i with
  | nil => cases found
  | cons head rest ih =>
    rw [eachOutcome steady] at answered
    cases first : ((query head).run s).1 with
    | error fault => rw [first] at answered; cases answered
    | ok b =>
      cases others : ((each query rest).run s).1 with
      | error fault => rw [first, others] at answered; cases answered
      | ok tail =>
        rw [first, others] at answered
        cases answered
        cases i with
        | zero => cases found; exact ⟨b, rfl, first⟩
        | succ i => exact ih others found

theorem eachPicked {query : α → Query σ β} (steady : ∀ a, (query a).Steady view) {as : List α}
    {bs : List β} {s t : σ} (answered : (each query as).run s = (.ok bs, t)) (order : List Nat) :
    ((each query (order.filterMap (as[·]?))).run s).1 = .ok (order.filterMap (bs[·]?)) := by
  induction order with
  | nil => rfl
  | cons i order ih =>
    cases found : as[i]? with
    | none =>
      have missing : bs[i]? = none := by
        have size := eachLength answered
        have beyond := List.getElem?_eq_none_iff.mp found
        exact List.getElem?_eq_none_iff.mpr (by omega)
      rw [List.filterMap_cons_none found, List.filterMap_cons_none missing]
      exact ih
    | some a =>
      obtain ⟨b, there, alone⟩ := eachAlone steady (congrArg Prod.fst answered) found
      rw [List.filterMap_cons_some found, List.filterMap_cons_some there, eachOutcome steady, alone,
        ih]
      rfl

/-! The first fault of a row. -/
def faultOf : Except Fault α → Option Fault
  | .ok _ => none
  | .error fault => some fault

theorem faultOfSome {outcome : Except Fault α} {fault : Fault} :
    faultOf outcome = some fault ↔ outcome = .error fault := by
  cases outcome <;> simp [faultOf]

theorem faultOfMap (outcome : Except Fault α) (f : α → β) :
    faultOf (outcome.map f) = faultOf outcome := by
  cases outcome <;> rfl

theorem faultOfBoth (first : Except Fault α) (second : Except Fault β) (join : α → β → γ) :
    faultOf (first.bind fun a => second.map (join a)) = (faultOf first).or (faultOf second) := by
  cases first with
  | error fault => rfl
  | ok a => exact faultOfMap second (join a)

theorem eachFault {query : α → Query σ β} (steady : ∀ a, (query a).Steady view) (as : List α)
    (s : σ) :
    faultOf ((each query as).run s).1 = as.findSome? fun a => faultOf ((query a).run s).1 := by
  induction as with
  | nil => rfl
  | cons a rest ih =>
    rw [eachOutcome steady, faultOfBoth, ih, List.findSome?_cons]
    cases faultOf ((query a).run s).1 <;> rfl

end Query

/-! Documents. -/
namespace Document
open Query (steadyPure steadyFail steadyExcept steadyBind steadyRead)

theorem indexedShows {a b : Document} (same : a.indexed = b.indexed) :
    a.name = b.name ∧ a.text = b.text ∧ a.starts = b.starts := by
  simpa only [indexed, Document.mk.injEq, Option.some.injEq] using same

theorem lineStartsSteady : lineStarts.Steady indexed where
  outcome same := congrArg Except.ok (indexedShows same).2.2
  keeps := indexedTwice

theorem checkOffsetSteady (offset : Int) : (checkOffset offset).Steady indexed := by
  refine steadyRead ?_ fun d => ?_
  · intro a b same
    obtain ⟨name, text, _⟩ := indexedShows same
    rw [name, text]
  · split
    · exact steadyPure ()
    · exact steadyFail _

theorem lineColumnSteady (offset : Int) : (lineColumn offset).Steady indexed :=
  steadyBind (checkOffsetSteady offset) fun _ => steadyBind lineStartsSteady fun _ => steadyPure _

theorem lineRangeSteady (line : Int) : (lineRange line).Steady indexed := by
  refine steadyBind lineStartsSteady fun starts => steadyRead ?_ fun d => ?_
  · intro a b same
    obtain ⟨name, text, _⟩ := indexedShows same
    rw [name, text]
  · split
    · exact steadyExcept _
    · exact steadyFail _

theorem lineAtSteady (offset : Int) : (lineAt offset).Steady indexed := by
  refine steadyBind (lineColumnSteady offset) fun position =>
    steadyBind (lineRangeSteady position.line) fun extent => steadyRead ?_ fun d => steadyPure _
  intro a b same
  rw [(indexedShows same).2.1]

end Document

structure Buffer.Steady (σ : Type) {τ : Type} [Buffer σ] (view : σ → τ) : Prop where
  name : ∀ {a b : σ}, view a = view b → Buffer.name a = Buffer.name b
  hasText : ∀ {a b : σ}, view a = view b → Buffer.hasText a = Buffer.hasText b
  lineColumn : ∀ offset, (Buffer.lineColumn offset : Query σ Position).Steady view
  lineAt : ∀ offset, (Buffer.lineAt offset : Query σ Text).Steady view

theorem documentSteady : Buffer.Steady Document Document.indexed where
  name same := (Document.indexedShows same).1
  hasText same := congrArg (fun text : Text => !text.isEmpty) (Document.indexedShows same).2.1
  lineColumn := Document.lineColumnSteady
  lineAt := Document.lineAtSteady

/-! Extraction, from one buffer and from a store of them. -/
section
variable {σ τ : Type} [Buffer σ] {view : σ → τ} (steady : Buffer.Steady σ view) (limits : Limits) (message : Text)
open Query (steadyPure steadyBind steadyRead steadyEach)
include steady

theorem sightSteady (span : Span) : (sight span : Query σ Sighting).Steady view :=
  steadyBind (steady.lineColumn span.start) fun _ =>
    steadyBind (steady.lineColumn span.stop) fun _ =>
      steadyBind (steady.lineAt span.start) fun _ => steadyPure _

theorem extractFromSteady (span : Span) :
    (extractFrom limits message span : Query σ Extraction).Steady view := by
  refine steadyRead ?_ fun buffer => ?_
  · intro a b same
    simp only [steady.name same, steady.hasText same]
  · split
    · exact steadyBind (sightSteady steady span) fun _ => steadyPure _
    · exact steadyPure _

omit [Buffer σ] steady in
theorem siteViewed {s t : Store σ} (same : s.map view = t.map view) {location : Option Location}
    {site : Site σ} (resolved : location.bind (Location.siteIn · s) = some site) :
    ∃ other, location.bind (Location.siteIn · t) = some ⟨site.place, other, site.span⟩ ∧
      view site.buffer = view other := by
  obtain ⟨l, rfl, found⟩ := Option.bind_eq_some_iff.mp resolved
  obtain ⟨source, here, span⟩ := Location.siteKept found
  have places := congrArg (·[site.place]?) same
  simp only [List.getElem?_map, here, Option.map_some] at places
  obtain ⟨other, there, viewed⟩ := Option.map_eq_some_iff.mp places.symm
  refine ⟨other, ?_, viewed.symm⟩
  have placed : l = ⟨some site.place, site.span⟩ := by
    rw [← source, ← span]
  rw [placed]
  exact Location.siteAt there site.span

theorem extractSteady (location : Option Location) :
    (extract limits message location : Query (Store σ) Extraction).Steady (List.map view) := by
  constructor
  · intro s t same
    cases resolved : location.bind (Location.siteIn · s) with
    | none =>
      cases other : location.bind (Location.siteIn · t) with
      | none => rw [extractNowhere limits message resolved, extractNowhere limits message other]
      | some site =>
        obtain ⟨_, there, _⟩ := siteViewed same.symm other
        rw [resolved] at there
        cases there
    | some site =>
      obtain ⟨other, there, viewed⟩ := siteViewed same resolved
      rw [extractAt limits message resolved, extractAt limits message there]
      exact (extractFromSteady steady limits message site.span).outcome viewed
  · intro s
    cases resolved : location.bind (Location.siteIn · s) with
    | none => rw [extractNowhere limits message resolved]
    | some site =>
      obtain ⟨l, _, found⟩ := Option.bind_eq_some_iff.mp resolved
      have here := (Location.siteKept found).2.1
      have kept := (extractFromSteady steady limits message site.span).keeps site.buffer
      obtain ⟨within, atPlace⟩ := List.getElem?_eq_some_iff.mp here
      rw [extractAt limits message resolved, List.map_set, kept, ← atPlace, ← List.map_set,
        List.set_getElem_self within]

end

end SourceExcerpt
