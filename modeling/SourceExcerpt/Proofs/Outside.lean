import SourceExcerpt.Proofs.Shortening
import SourceExcerpt.Proofs.Width
/-! What collapsing keeps. Everything before the flagged range always stays; what comes after it stays
as long as the context kept at either end of the range is there to be kept. -/
namespace SourceExcerpt
open Text

namespace Limits
variable {limits : Limits} {m : Marked}

theorem collapseBefore (low : 0 ≤ limits.context) (inside : m.Inside) :
    (limits.collapse m).text.before (limits.collapse m).start = m.text.before m.start := by
  obtain ⟨start, ordered, high⟩ := inside
  rcases Int.lt_or_le limits.maxWidth (m.stop - m.start) with wide | narrow
  · obtain ⟨a, atStart⟩ := Int.eq_ofNat_of_zero_le start
    obtain ⟨b, reached⟩ := Int.eq_ofNat_of_zero_le (show 0 ≤ m.start + limits.context by omega)
    rw [collapseWide wide, reached]
    simp only [atStart, beforeNat]
    rw [List.append_assoc, List.take_append_of_le_length (by rw [List.length_take]; omega),
      List.take_take, Nat.min_eq_left (by omega)]
  · rw [collapseNarrow narrow]

/- The kept end of the range is followed by what followed it in the text. -/
theorem collapseOnward (low : 0 ≤ limits.context) (inside : m.Inside)
    (wide : limits.maxWidth < m.stop - m.start) (back : limits.context ≤ m.stop)
    (ahead : m.start + limits.context ≤ m.text.length) :
    (limits.collapse m).text.onward (limits.collapse m).stop = m.text.onward m.stop := by
  obtain ⟨start, ordered, high⟩ := inside
  obtain ⟨k, context⟩ := Int.eq_ofNat_of_zero_le low
  obtain ⟨a, atStart⟩ := Int.eq_ofNat_of_zero_le start
  obtain ⟨b, atStop⟩ := Int.eq_ofNat_of_zero_le (Int.le_trans start ordered)
  have head : m.start + limits.context = (a + k : Nat) := by omega
  have tail : m.stop - limits.context = (b - k : Nat) := by omega
  have stop : m.start + limits.collapsedWidth = (a + k + limits.separator.length + k : Nat) := by
    simp only [collapsedWidth]; omega
  have size : (m.text.take (a + k) ++ limits.separator).length =
      a + k + limits.separator.length := by
    rw [List.length_append, List.length_take]; omega
  have again : b - k + k = b := by omega
  rw [collapseWide wide, head, tail, stop, atStop, beforeNat, onwardNat, onwardNat, onwardNat]
  rw [← size, List.drop_length_add_append, List.drop_drop, again]

/- Where the text ends too early for the context, or the context begins before the text, less is
left after the collapsed range than there was. -/
theorem collapseLoses (low : 0 ≤ limits.context) (inside : m.Inside)
    (wide : limits.maxWidth < m.stop - m.start)
    (short : m.stop < limits.context ∨ m.text.length < m.start + limits.context) :
    ((limits.collapse m).text.onward (limits.collapse m).stop).length ≤
      m.text.length - m.stop.toNat - 1 := by
  obtain ⟨start, ordered, high⟩ := inside
  have width : limits.collapsedWidth = 2 * limits.context + limits.separator.length := rfl
  have head := cutMost m.text.length (show 0 ≤ m.start + limits.context by omega)
  have headWithin := cutWithin m.text.length (m.start + limits.context)
  have tailWithin := cutWithin m.text.length (m.stop - limits.context)
  have past (size : Nat) : cut size (m.start + limits.collapsedWidth) =
      min (m.start + limits.collapsedWidth).toNat size := cutLow (by omega)
  rw [onwardLength, collapseLength wide, collapseStop wide, past]
  by_cases early : m.stop < limits.context
  · have tail : m.text.length - cut m.text.length (m.stop - limits.context) ≤
        limits.context - m.stop := by
      have back : m.stop - limits.context = -((limits.context - m.stop).toNat : Int) := by omega
      rw [back, cutFromEnd (by omega)]
      omega
    omega
  · have tail : cut m.text.length (m.stop - limits.context) = (m.stop - limits.context).toNat :=
      cutInside (by omega) (by omega)
    omega

end Limits

theorem collapseKeepsOutside {limits : Limits} (low : 0 ≤ limits.context) {m : Marked}
    (inside : m.Inside) :
    (limits.collapse m).text.before (limits.collapse m).start = m.text.before m.start ∧
    ((limits.collapse m).text.onward (limits.collapse m).stop = m.text.onward m.stop ↔
      m.stop - m.start ≤ limits.maxWidth ∨ m.stop = m.text.length ∨
        limits.context ≤ m.stop ∧ m.start + limits.context ≤ m.text.length) := by
  refine ⟨Limits.collapseBefore low inside, ?_⟩
  rcases Int.lt_or_le limits.maxWidth (m.stop - m.start) with wide | narrow
  · by_cases fits : limits.context ≤ m.stop ∧ m.start + limits.context ≤ m.text.length
    · exact iff_of_true (Limits.collapseOnward low inside wide fits.1 fits.2) (.inr (.inr fits))
    · have left := Limits.collapseLoses low inside wide (by omega)
      have kept : (m.text.onward m.stop).length = m.text.length - m.stop.toNat := by
        rw [onwardLength, cutInside (Int.le_trans inside.low inside.ordered) inside.high]
      have ⟨start, ordered, high⟩ := inside
      constructor
      · intro same
        rw [same, kept] at left
        exact .inr (.inl (by omega))
      · rintro (narrow | last | fitting)
        · omega
        · have nothing : m.text.length - m.stop.toNat = 0 := by omega
          rw [List.eq_nil_of_length_eq_zero (kept.trans nothing)]
          exact List.eq_nil_of_length_eq_zero (by omega)
        · exact absurd fitting fits
  · rw [Limits.collapseNarrow narrow]
    exact iff_of_true rfl (.inl narrow)

/- More context than the range is wide: it is shown twice, and the text around it is kept. -/
theorem collapseKeepsOutsideTwice :
    (⟨['u', 'v', 'a', 'b', 'c', 'x', 'y'], 2, 5⟩ : Marked).Inside ∧
    let m := (⟨2, 4, ['.'], []⟩ : Limits).collapse ⟨['u', 'v', 'a', 'b', 'c', 'x', 'y'], 2, 5⟩
    m.text.before m.start = ['u', 'v'] ∧ m.text.onward m.stop = ['x', 'y'] := by
  have inside : (⟨['u', 'v', 'a', 'b', 'c', 'x', 'y'], 2, 5⟩ : Marked).Inside :=
    ⟨by decide, by decide, by decide⟩
  obtain ⟨before, onward⟩ :=
    @collapseKeepsOutside ⟨2, 4, ['.'], []⟩ (by decide) _ inside
  exact ⟨inside, before, onward.mpr (by decide)⟩

/- The kept end would begin before the text, and is taken from the end of the text instead. -/
theorem collapseKeepsOutsideNot :
    (⟨['a', 'b', 'c', 'x', 'y', 'z'], 0, 3⟩ : Marked).Inside ∧
    let m := (⟨2, 4, " ... ".toList, " ...".toList⟩ : Limits).collapse
      ⟨['a', 'b', 'c', 'x', 'y', 'z'], 0, 3⟩
    m.text = "abcx ... z".toList ∧ m.text.onward m.stop = [] ∧
      Text.onward ['a', 'b', 'c', 'x', 'y', 'z'] 3 = ['x', 'y', 'z'] :=
  ⟨⟨by decide, by decide, by decide⟩, by decide, by decide, by decide⟩

end SourceExcerpt
