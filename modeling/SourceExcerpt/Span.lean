import SourceExcerpt.Fault
/-! Half-open ranges of offsets. A span cannot be built with a negative bound or with its
bounds crossed; a negative bound is reported before crossed ones. -/
namespace SourceExcerpt
open Text

structure Span where
  start : Int
  stop : Int
  nonnegative : 0 ≤ start
  ordered : start ≤ stop
  deriving DecidableEq, Repr

namespace Span

def ofBounds (start stop : Int) : Except Fault Span :=
  if negative : start < 0 ∨ stop < 0 then .error .negativeBound
  else if crossed : stop < start then .error .crossedBounds
  else .ok ⟨start, stop, by omega, by omega⟩

theorem ofBoundsOk {start stop : Int} {span : Span} (h : ofBounds start stop = .ok span) :
    span.start = start ∧ span.stop = stop := by
  unfold ofBounds at h
  split at h <;> try contradiction
  split at h <;> try contradiction
  cases Except.ok.inj h
  exact ⟨rfl, rfl⟩

theorem ofBoundsSelf (span : Span) : ofBounds span.start span.stop = .ok span := by
  obtain ⟨start, stop, nonnegative, ordered⟩ := span
  simp only [ofBounds]
  rw [dif_neg (by omega), dif_neg (by omega)]

theorem ofBoundsNegative {start stop : Int} :
    ofBounds start stop = .error .negativeBound ↔ start < 0 ∨ stop < 0 := by
  unfold ofBounds
  split
  · simp [*]
  · split <;> simp [*]

theorem ofBoundsCrossed {start stop : Int} :
    ofBounds start stop = .error .crossedBounds ↔ 0 ≤ stop ∧ stop < start := by
  unfold ofBounds
  split
  · simp; omega
  · split <;> simp <;> omega

theorem boundsFault {start stop : Int} {f : Fault} : ofBounds start stop = .error f ↔
    f = .negativeBound ∧ (start < 0 ∨ stop < 0) ∨ f = .crossedBounds ∧ 0 ≤ stop ∧ stop < start := by
  constructor
  · intro faulted
    unfold ofBounds at faulted
    split at faulted
    · rename_i negative
      cases faulted
      exact .inl ⟨rfl, negative⟩
    · split at faulted <;> cases faulted
      exact .inr ⟨rfl, by omega, by omega⟩
  · rintro (⟨rfl, negative⟩ | ⟨rfl, crossed⟩)
    · exact ofBoundsNegative.mpr negative
    · exact ofBoundsCrossed.mpr crossed

def ofLength (offset length : Int) : Except Fault Span := ofBounds offset (offset + length)

def emptyAt (offset : Int) : Except Fault Span := ofBounds offset offset

def origin : Span := ⟨0, 0, by decide, by decide⟩

def length (span : Span) : Int := span.stop - span.start
def isEmpty (span : Span) : Bool := span.start = span.stop
def bounds (span : Span) : Int × Int := (span.start, span.stop)

def contains (span : Span) (offset : Int) : Bool := span.start ≤ offset ∧ offset < span.stop

def containsInclusive (span : Span) (offset : Int) : Bool :=
  span.start ≤ offset ∧ offset ≤ span.stop

def cover (a b : Span) : Span where
  start := min a.start b.start
  stop := max a.stop b.stop
  nonnegative := by have := a.nonnegative; have := b.nonnegative; omega
  ordered := by have := a.ordered; have := b.ordered; omega

def shift (span : Span) (delta : Int) : Except Fault Span :=
  ofBounds (span.start + delta) (span.stop + delta)

def sliceOf (span : Span) (text : Text) : Text := text.slice span.start span.stop

instance : LT Span := ⟨fun a b => a.start < b.start ∨ a.start = b.start ∧ a.stop < b.stop⟩
instance : LE Span := ⟨fun a b => a.start < b.start ∨ a.start = b.start ∧ a.stop ≤ b.stop⟩
instance (a b : Span) : Decidable (a < b) := inferInstanceAs (Decidable (_ ∨ _))
instance (a b : Span) : Decidable (a ≤ b) := inferInstanceAs (Decidable (_ ∨ _))

def relations (a b : Span) : List Bool := [a = b, a < b, a ≤ b, b < a, b ≤ a]

def render (span : Span) : Text :=
  "TextRange(".toList ++ Decimal.render span.start ++ ", ".toList ++
    Decimal.render span.stop ++ ")".toList

end Span
end SourceExcerpt
