import SourceExcerpt.Proofs.Shortening
/-! Shortening what was shortened. The result may still be wider than the limit, so both passes can
cut again, in a text that already holds markers. They take off just the markers and put them back. -/
namespace SourceExcerpt
open Text

namespace Limits
variable {limits : Limits}

/-! Parts that were cut once: the context that was kept, with its marker. Cutting them again takes off
the marker and puts it back. -/
theorem narrowedFixed {head tail : Text} (first : (head.length : Int) = limits.context)
    (last : (tail.length : Int) = limits.context) :
    limits.narrowed (head ++ limits.separator ++ tail) = head ++ limits.separator ++ tail := by
  have back : ((head ++ limits.separator ++ tail).length : Int) - limits.context =
      (head ++ limits.separator).length := by
    rw [List.length_append, ← last]
    omega
  unfold narrowed
  split
  · rfl
  · rw [back, ← first, beforeNat, onwardNat, List.drop_left, List.append_assoc head,
      List.take_left, List.append_assoc]

theorem headCutFixed {tail : Text} (kept : (tail.length : Int) = limits.context) :
    limits.headCut (limits.separator ++ tail) = limits.separator ++ tail := by
  have back : ((limits.separator ++ tail).length : Int) - limits.context =
      limits.separator.length := by
    rw [List.length_append, ← kept]
    omega
  unfold headCut
  split
  · rw [back, onwardNat, List.drop_left]
  · rfl

theorem tailCutFixed {head : Text} (kept : (head.length : Int) = limits.context) :
    limits.tailCut (head ++ limits.trailingMarker) = head ++ limits.trailingMarker := by
  unfold tailCut
  split
  · rw [← kept, beforeNat, List.take_left]
  · rfl

theorem narrowedTwice (low : 0 ≤ limits.context) (high : limits.context ≤ limits.maxWidth)
    (flag : Text) : limits.narrowed (limits.narrowed flag) = limits.narrowed flag := by
  rcases Int.lt_or_le limits.maxWidth flag.length with wide | narrow
  · have cut : limits.narrowed flag = flag.before limits.context ++ limits.separator ++
        flag.onward (flag.length - limits.context) := if_neg (Int.not_le.mpr wide)
    rw [cut]
    refine narrowedFixed ?_ ?_
    · rw [beforeLength, cutInside low (by omega)]
      omega
    · rw [onwardLength, cutInside (by omega) (by omega)]
      omega
  · have same : limits.narrowed flag = flag := if_pos narrow
    rw [same, same]

theorem headCutTwice (low : 0 ≤ limits.context) (lead : Text) :
    limits.headCut (limits.headCut lead) = limits.headCut lead := by
  by_cases far : limits.context < lead.length
  · have cut : limits.headCut lead =
        limits.separator ++ lead.onward (lead.length - limits.context) := if_pos far
    rw [cut]
    refine headCutFixed ?_
    rw [onwardLength, cutInside (by omega) (by omega)]
    omega
  · have same : limits.headCut lead = lead := if_neg far
    rw [same, same]

theorem tailCutTwice (low : 0 ≤ limits.context) (rest : Text) :
    limits.tailCut (limits.tailCut rest) = limits.tailCut rest := by
  by_cases far : limits.context < rest.length
  · have cut : limits.tailCut rest = rest.before limits.context ++ limits.trailingMarker :=
      if_pos far
    rw [cut]
    refine tailCutFixed ?_
    rw [beforeLength, cutInside low (by omega)]
    omega
  · have same : limits.tailCut rest = rest := if_neg far
    rw [same, same]

/-! The passes change each part alone, so what they leave of it stays. -/
theorem collapseTwice (low : 0 ≤ limits.context) (high : limits.context ≤ limits.maxWidth)
    (lead flag rest : Text) :
    limits.collapse (.ofParts lead (limits.narrowed flag) rest) =
      .ofParts lead (limits.narrowed flag) rest := by
  rw [collapseParts low high, narrowedTwice low high]

theorem windowTwice (low : 0 ≤ limits.context) {m : Marked} (inside : m.Inside) :
    limits.window (limits.window m) = limits.window m := by
  rcases Int.lt_or_le limits.maxWidth m.text.length with wide | fits
  · have cut := windowInside low inside wide
    rcases Int.lt_or_le limits.maxWidth (limits.window m).text.length with again | fits
    · rw [cut] at again ⊢
      rw [windowParts low _ _ _ again, headCutTwice low, tailCutTwice low]
    · exact windowNarrow fits
  · rw [windowNarrow fits, windowNarrow fits]

end Limits

theorem shorteningIdempotent {limits : Limits} (low : 0 ≤ limits.context)
    (high : limits.context ≤ limits.maxWidth) {m : Marked} (inside : m.Inside) :
    limits.shorten (limits.shorten m) = limits.shorten m ∧
    limits.collapse (limits.collapse m) = limits.collapse m ∧
    limits.window (limits.window m) = limits.window m := by
  have collapsed := limits.collapseInside low high inside
  obtain ⟨lead, rest, shown⟩ := shortenedParts low high inside
  refine ⟨?_, ?_, Limits.windowTwice low inside⟩
  · have kept : limits.collapse (limits.shorten m) = limits.shorten m := by
      rw [shown]
      exact Limits.collapseTwice low high lead _ rest
    have stays : limits.window (limits.shorten m) = limits.shorten m := by
      rw [Limits.shorten, collapsed]
      exact Limits.windowTwice low (partsInside _ _ _)
    rw [Limits.shorten, kept, stays]
  · rw [collapsed]
    exact Limits.collapseTwice low high _ _ _

/- The shortened text is still too wide, and every cut is made again. -/
theorem shorteningIdempotentWide :
    let limits : Limits := ⟨3, 1, ['.', '.'], ['>']⟩
    let m : Marked := ⟨"0123456789ab".toList, 3, 9⟩
    m.Inside ∧ limits.shorten m = ⟨"..23..89>".toList, 3, 7⟩ ∧
    limits.shorten (limits.shorten m) = limits.shorten m ∧
    limits.collapse (limits.collapse m) = limits.collapse m ∧
    limits.window (limits.window m) = limits.window m := by
  intro limits m
  have inside : m.Inside := ⟨by decide, by decide, by decide⟩
  exact ⟨inside, by decide, shorteningIdempotent (by decide) (by decide) inside⟩

end SourceExcerpt
