import SourceExcerpt.Proofs.LineCut
/-! Line endings. A text whose newlines all stand alone and the same text with a carriage return
before each newline are not told apart by extraction: offsets grow by the newlines before them,
and lines, columns, excerpts and log stay as they are. Carriage returns that do not come before a
newline are part of the text in both. -/
namespace SourceExcerpt
open Text

namespace Text.Lines

def returned (text : Text) : Text :=
  text.flatMap fun c => if c = '\n' then ['\r', '\n'] else [c]

theorem returnedAppend (first second : Text) :
    returned (first ++ second) = returned first ++ returned second := List.flatMap_append

theorem returnedCons (c : Char) (rest : Text) :
    returned (c :: rest) = (if c = '\n' then ['\r', '\n'] else [c]) ++ returned rest := rfl

theorem returnedUnbroken {text : Text} (unbroken : '\n' ∉ text) : returned text = text := by
  induction text with
  | nil => rfl
  | cons c rest ih =>
    have other : c ≠ '\n' := fun same => unbroken (same ▸ List.mem_cons_self)
    have later : '\n' ∉ rest := fun member => unbroken (List.mem_cons_of_mem c member)
    rw [returnedCons, if_neg other, ih later]
    rfl

theorem returnedCounts (text : Text) :
    (returned text).length = text.length + text.count '\n' ∧
      (returned text).count '\n' = text.count '\n' := by
  induction text with
  | nil => exact ⟨rfl, rfl⟩
  | cons c rest ih =>
    obtain ⟨length, count⟩ := ih
    rw [returnedCons, List.length_append, List.count_append, length, count, List.length_cons]
    by_cases broken : c = '\n'
    · have added : (['\r', '\n'] : Text).count '\n' = 1 := rfl
      rw [if_pos broken, broken, List.count_cons_self, added]
      simp only [List.length_cons, List.length_nil]
      omega
    · have added : [c].count '\n' = 0 := List.count_eq_zero.mpr (by simp [Ne.symm broken])
      rw [if_neg broken, List.count_cons_of_ne broken, added, List.length_singleton]
      omega

theorem returnedBegun {lead : Text} (begun : lead = [] ∨ lead.getLast? = some '\n') :
    returned lead = [] ∨ (returned lead).getLast? = some '\n' := by
  rcases begun with rfl | broken
  · exact .inl rfl
  · obtain ⟨before, rfl⟩ := List.getLast?_eq_some_iff.mp broken
    refine .inr ?_
    rw [returnedAppend]
    exact List.getLast?_append.trans rfl

theorem dropReturnAdded {line : Text} (plain : line.getLast? ≠ some '\r') :
    dropReturn (line ++ ['\r']) = dropReturn line := by
  rw [dropReturn, if_pos List.getLast?_concat, List.dropLast_concat, dropReturn, if_neg plain]

def returnedOffset (text : Text) (offset : Int) : Int :=
  offset + (text.before offset).count '\n'

theorem returnedOffsetOrder (text : Text) {a b : Int} (low : 0 ≤ a) (le : a ≤ b) :
    returnedOffset text a ≤ returnedOffset text b := by
  obtain ⟨m, rfl⟩ := Int.eq_ofNat_of_zero_le low
  obtain ⟨n, rfl⟩ := Int.eq_ofNat_of_zero_le (Int.le_trans low le)
  have taken : text.take m <+: text.take n := List.take_prefix_take_left (Int.ofNat_le.mp le)
  have counts := taken.sublist.count_le '\n'
  rw [returnedOffset, returnedOffset, beforeNat, beforeNat]
  omega

end Text.Lines

def Span.returned (text : Text) (span : Span) : Span where
  start := Lines.returnedOffset text span.start
  stop := Lines.returnedOffset text span.stop
  nonnegative := by
    have := span.nonnegative
    rw [Lines.returnedOffset]
    omega
  ordered := Lines.returnedOffsetOrder text span.nonnegative span.ordered

namespace LineCut
variable {text : Text}

/-! The same line in a text and in the text with carriage returns. -/
structure Returned (cut : LineCut text) (other : LineCut (Lines.returned text)) : Prop where
  number : other.number = cut.number
  lead : other.lead.length = cut.lead.length + cut.number
  reaches : cut.line.length ≤ other.line.length
  shown : Lines.dropReturn other.line = Lines.dropReturn cut.line

theorem cutReturned (plain : ¬ ['\r', '\n'] <:+: text) (cut : LineCut text) :
    ∃ other, cut.Returned other := by
  obtain ⟨length, count⟩ := Lines.returnedCounts cut.lead
  have line := Lines.returnedUnbroken cut.unbroken
  have joined := congrArg Lines.returned cut.joined
  rw [Lines.returnedAppend, Lines.returnedAppend, line] at joined
  rcases cut.ended with nothing | broken
  · refine ⟨⟨Lines.returned cut.lead, cut.line, [], ?_, Lines.returnedBegun cut.begun,
      cut.unbroken, .inl rfl⟩, count, length, Nat.le_refl _, rfl⟩
    rwa [nothing] at joined
  · obtain ⟨after, rest⟩ := List.head?_eq_some_iff.mp broken
    have alone : cut.line.getLast? ≠ some '\r' := by
      intro returned
      obtain ⟨before, line⟩ := List.getLast?_eq_some_iff.mp returned
      exact plain ⟨cut.lead ++ before, after, by simp [← cut.joined, line, rest]⟩
    have unbroken : '\n' ∉ cut.line ++ ['\r'] := by
      simp [cut.unbroken]
    refine ⟨⟨Lines.returned cut.lead, cut.line ++ ['\r'], '\n' :: Lines.returned after, ?_,
      Lines.returnedBegun cut.begun, unbroken, .inr rfl⟩, count, length, ?_,
      Lines.dropReturnAdded alone⟩
    · rw [rest, Lines.returnedCons, if_pos rfl] at joined
      simpa using joined
    · simp

namespace Returned

theorem around {cut : LineCut text} {other : LineCut (Lines.returned text)}
    (same : cut.Returned other) {offset : Int} (around : cut.Around offset) :
    other.Around (Lines.returnedOffset text offset) := by
  have counted := cut.countBefore around
  have lead := same.lead
  have reaches := same.reaches
  obtain ⟨first, last⟩ := around
  simp only [Around, Lines.returnedOffset, counted]
  omega

theorem sighting {first last : LineCut text} {other otherLast : LineCut (Lines.returned text)}
    (start : first.Returned other) (stop : last.Returned otherLast) {span : Span}
    (atStart : first.Around span.start) (atStop : last.Around span.stop) :
    other.sighting otherLast (span.returned text) = first.sighting last span := by
  simp only [LineCut.sighting, Span.returned, Lines.returnedOffset, first.countBefore atStart,
    last.countBefore atStop, start.number, stop.number, start.lead, stop.lead, start.shown]
  simp only [Sighting.mk.injEq, Position.mk.injEq, true_and, and_true]
  omega

end Returned
end LineCut

theorem lineEndingsUnseen {text : Text} (plain : ¬ ['\r', '\n'] <:+: text) {span : Span}
    (inside : span.stop ≤ text.length) (name message : Text) (limits : Limits)
    {store other : Store Document} {place there : Nat}
    (here : store[place]? = some (Document.ofText name text))
    (returned : other[there]? = some (Document.ofText name (Lines.returned text))) :
    ∃ extraction,
      ((extract limits message (some ⟨some place, span⟩)).run store).1 = .ok extraction ∧
      ((extract limits message (some ⟨some there, span.returned text⟩)).run other).1 =
        .ok extraction := by
  by_cases empty : text = []
  · subst empty
    rw [extractOf limits message span here, extractOf limits message _ returned,
      extractFromNoText limits message span rfl, extractFromNoText limits message _ rfl]
    exact ⟨_, rfl, rfl⟩
  · obtain ⟨first, last, atStart, atStop⟩ := LineCut.cutsAround inside
    obtain ⟨otherFirst, start⟩ := first.cutReturned plain
    obtain ⟨otherLast, stop⟩ := last.cutReturned plain
    have held : Lines.returned text ≠ [] := by
      intro nothing
      have size := (Lines.returnedCounts text).1
      rw [nothing, List.length_nil] at size
      exact empty (List.eq_nil_of_length_eq_zero (by omega))
    have seen := otherFirst.answersExtract name otherLast (span.returned text) held
      (start.around atStart) (stop.around atStop) limits message returned
    rw [start.sighting stop atStart atStop] at seen
    exact ⟨_, first.answersExtract name last span empty atStart atStop limits message here, seen⟩

theorem lineEndingsUnseenBlank :
    ¬ ['\r', '\n'] <:+: ['a', '\n', '\n', '\r'] ∧ ∃ extraction,
      ((extract Limits.standard [] (some ⟨some 0, ⟨1, 3, by decide, by decide⟩⟩)).run
        [Document.ofText ['n'] ['a', '\n', '\n', '\r']]).1 = .ok extraction ∧
      ((extract Limits.standard [] (some ⟨some 0, ⟨1, 5, by decide, by decide⟩⟩)).run
        [Document.ofText ['n'] ['a', '\r', '\n', '\r', '\n', '\r']]).1 = .ok extraction := by
  have plain : ¬ ['\r', '\n'] <:+: ['a', '\n', '\n', '\r'] := by decide
  exact ⟨plain, @lineEndingsUnseen _ plain ⟨1, 3, by decide, by decide⟩ (by decide) ['n'] []
    Limits.standard _ _ 0 0 rfl rfl⟩

end SourceExcerpt
