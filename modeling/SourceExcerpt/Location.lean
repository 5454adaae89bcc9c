import SourceExcerpt.Buffer
/-! Spans of sources. A location names its source by its place in a store, so that locations
in one source share it and what one lookup leaves there is seen by the next. -/
namespace SourceExcerpt

abbrev Store (σ : Type) := List σ

structure Location where
  source : Option Nat
  span : Span
  deriving DecidableEq, Repr

namespace Location

def unknown : Location := ⟨none, Span.origin⟩

def ofBounds (source : Option Nat) (start stop : Int) : Except Fault Location :=
  (Span.ofBounds start stop).map fun span => ⟨source, span⟩

def isUnknown (location : Location) : Bool := location = unknown

end Location

inductive LocationDraft where
  | absent
  | unknown
  | bounds (source : Option Nat) (start stop : Int)
  deriving DecidableEq, Repr

def LocationDraft.check : LocationDraft → Except Fault (Option Location)
  | .absent => .ok none
  | .unknown => .ok (some Location.unknown)
  | .bounds source start stop => (Location.ofBounds source start stop).map some

structure Site (σ : Type) where
  place : Nat
  buffer : σ
  span : Span

namespace Location

def siteIn (location : Location) (store : Store σ) : Option (Site σ) := do
  let place ← location.source
  let buffer ← store[place]?
  some ⟨place, buffer, location.span⟩

theorem siteKept {location : Location} {store : Store σ} {site : Site σ}
    (h : location.siteIn store = some site) :
    location.source = some site.place ∧ store[site.place]? = some site.buffer ∧
      location.span = site.span := by
  simp only [siteIn, bind, Option.bind_eq_some_iff] at h
  obtain ⟨place, named, buffer, found, last⟩ := h
  cases Option.some.inj last
  exact ⟨named, found, rfl⟩

theorem siteAt {store : Store σ} {place : Nat} {buffer : σ} (here : store[place]? = some buffer)
    (span : Span) : siteIn ⟨some place, span⟩ store = some ⟨place, buffer, span⟩ := by
  simp [siteIn, here]

def hasText [Buffer σ] (location : Location) (store : Store σ) : Bool :=
  (location.siteIn store).any fun site => Buffer.hasText site.buffer

end Location

namespace Store

def ask (query : Query σ α) (place : Nat) (buffer : σ) : Query (Store σ) α :=
  ⟨fun store => ((query.run buffer).1, store.set place (query.run buffer).2)⟩

end Store
end SourceExcerpt
