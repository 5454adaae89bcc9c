import SourceExcerpt.Marked
/-! How wide a shortened text is. Collapsing takes out what lies between the two kept ends of the
range. Windowing cuts off what stands too far before and after the range, and adds a marker for each
cut; where a cut is narrower than its marker, the text grows. -/
namespace SourceExcerpt
open Text
namespace Limits
variable {limits : Limits} {m : Marked}

theorem collapseStart (limits : Limits) (m : Marked) : (limits.collapse m).start = m.start := by
  unfold collapse
  split <;> rfl

theorem collapseStop (wide : limits.maxWidth < m.stop - m.start) :
    (limits.collapse m).stop = m.start + limits.collapsedWidth := by
  rw [collapseWide wide]

theorem collapseLength (wide : limits.maxWidth < m.stop - m.start) :
    (limits.collapse m).text.length = cut m.text.length (m.start + limits.context) +
      limits.separator.length + (m.text.length - cut m.text.length (m.stop - limits.context)) := by
  rw [collapseWide wide, List.length_append, List.length_append, beforeLength, onwardLength]

/- The same where the kept ends lie in the text. A range may stop past its text, as far as its
context reaches. -/
theorem collapseWidth (low : 0 ≤ limits.context) (start : 0 ≤ m.start)
    (wide : limits.maxWidth < m.stop - m.start) (ahead : m.start + limits.context ≤ m.text.length)
    (back : limits.context ≤ m.stop) (near : m.stop ≤ m.text.length + limits.context) :
    ((limits.collapse m).text.length : Int) =
      m.text.length - (m.stop - m.start) + limits.collapsedWidth := by
  have width : limits.collapsedWidth = 2 * limits.context + limits.separator.length := rfl
  rw [collapseLength wide, cutInside (by omega) ahead, cutInside (by omega) (by omega)]
  omega

/-! What a cut adds to the text: its marker, less what it cuts off. -/
def headGrowth (limits : Limits) (before : Int) : Int :=
  if limits.context < before then limits.separator.length - (before - limits.context) else 0

def tailGrowth (limits : Limits) (behind : Int) : Int :=
  if limits.context < behind then limits.trailingMarker.length - (behind - limits.context) else 0

theorem headGrowthMost (limits : Limits) (before : Int) :
    limits.headGrowth before ≤ limits.separator.length := by
  unfold headGrowth
  split <;> omega

theorem tailGrowthMost (limits : Limits) (behind : Int) :
    limits.tailGrowth behind ≤ limits.trailingMarker.length := by
  unfold tailGrowth
  split <;> omega

/- The window without its markers. -/
theorem visibleWidth (low : 0 ≤ limits.context) (start : 0 ≤ m.start)
    (near : m.start ≤ m.text.length + limits.context)
    (reaches : m.start ≤ m.stop ∨ m.text.length ≤ m.stop) :
    ((limits.visible m).length : Int) =
      m.text.length - max 0 (m.start - limits.context) -
        max 0 (m.text.length - m.stop - limits.context) := by
  have ordered : max 0 (m.start - limits.context) ≤
      min (m.text.length : Int) (m.stop + limits.context) := by omega
  rw [visibleSlice, sliceLength, cutInside (by omega) (by omega), cutInside (by omega) (by omega)]
  omega

theorem windowWidth (low : 0 ≤ limits.context) (start : 0 ≤ m.start)
    (near : m.start ≤ m.text.length + limits.context)
    (reaches : m.start ≤ m.stop ∨ m.text.length ≤ m.stop)
    (wide : limits.maxWidth < m.text.length) :
    ((limits.window m).text.length : Int) =
      m.text.length + limits.headGrowth m.start + limits.tailGrowth (m.text.length - m.stop) := by
  have shown := visibleWidth low start near reaches
  have head : limits.cutsHead m = decide (limits.context < m.start) := rfl
  have tail : limits.cutsTail m = decide (limits.context < m.text.length - m.stop) := by
    rw [cutsTailAt, decide_eq_decide]
    omega
  rw [windowWide wide, head, tail]
  simp only [List.length_append, apply_ite List.length, List.length_nil, decide_eq_true_eq,
    headGrowth, tailGrowth]
  split <;> split <;> omega

theorem windowGrowth (limits : Limits) (low : 0 ≤ limits.context) (start : 0 ≤ m.start)
    (near : m.start ≤ m.text.length + limits.context)
    (reaches : m.start ≤ m.stop ∨ m.text.length ≤ m.stop) :
    ((limits.window m).text.length : Int) = m.text.length +
      if limits.maxWidth < m.text.length then
        limits.headGrowth m.start + limits.tailGrowth (m.text.length - m.stop)
      else 0 := by
  split
  · rename_i wide
    rw [windowWidth low start near reaches wide, Int.add_assoc]
  · rename_i fits
    rw [windowNarrow (Int.not_lt.mp fits), Int.add_zero]

theorem windowToEnd (limits : Limits) (low : 0 ≤ limits.context) (start : 0 ≤ m.start)
    (near : m.start ≤ m.text.length + limits.context) (past : m.text.length ≤ m.stop) :
    ((limits.window m).text.length : Int) = m.text.length +
      if limits.maxWidth < m.text.length then limits.headGrowth m.start else 0 := by
  have noTail : limits.tailGrowth (m.text.length - m.stop) = 0 := if_neg (by omega)
  rw [windowGrowth limits low start near (.inr past), noTail, Int.add_zero]

/- A range that stops at the end of its text or past it still does after windowing. -/
theorem windowStop (limits : Limits) (low : 0 ≤ limits.context) (start : 0 ≤ m.start)
    (near : m.start ≤ m.text.length + limits.context) (past : m.text.length ≤ m.stop) :
    (limits.window m).text.length ≤ (limits.window m).stop := by
  rw [windowToEnd limits low start near past]
  rcases Int.lt_or_le limits.maxWidth m.text.length with wide | fits
  · rw [if_pos wide, windowWide wide]
    simp only [headGrowth, cutsHead, markerColumn, decide_eq_true_eq]
    split <;> omega
  · rw [if_neg (Int.not_lt.mpr fits), windowNarrow fits, Int.add_zero]
    exact past

theorem standardSizes : standard.maxWidth = 150 ∧ standard.context = 35 ∧
    standard.separator.length = 5 ∧ standard.trailingMarker.length = 4 ∧
    standard.collapsedWidth = 75 :=
  ⟨rfl, rfl, rfl, rfl, rfl⟩

end Limits
end SourceExcerpt
