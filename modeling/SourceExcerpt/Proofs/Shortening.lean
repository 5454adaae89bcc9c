import SourceExcerpt.Marked
/-! Shortening by parts. A text whose flagged range lies inside it is a lead, the flagged text
and a rest; collapsing changes the flagged part alone, and windowing the other two alone. -/
namespace SourceExcerpt
open Text

def Marked.ofParts (lead flag rest : Text) : Marked :=
  ⟨lead ++ flag ++ rest, lead.length, lead.length + flag.length⟩

structure Marked.Inside (m : Marked) : Prop where
  low : 0 ≤ m.start
  ordered : m.start ≤ m.stop
  high : m.stop ≤ m.text.length

theorem insideParts {m : Marked} (inside : m.Inside) :
    .ofParts (m.text.before m.start) (m.text.slice m.start m.stop) (m.text.onward m.stop) = m := by
  obtain ⟨text, start, stop⟩ := m
  obtain ⟨low, ordered, high⟩ := inside
  simp only at low ordered high
  have first : cut text.length start = start.toNat := cutInside low (by omega)
  have last : cut text.length stop = stop.toNat := cutInside (by omega) high
  have leadLength : (text.before start).length = start.toNat := by
    rw [before, first, List.length_take]; omega
  have flagLength : (text.slice start stop).length = stop.toNat - start.toNat := by
    rw [sliceLength, first, last]
  have joined : text.before start ++ text.slice start stop = text.before stop := by
    rw [before, before, slice, first, last, ← List.take_add]
    congr 1; omega
  simp only [Marked.ofParts, joined, beforeOnward, leadLength, flagLength, Marked.mk.injEq, true_and]
  omega

theorem partsInside (lead flag rest : Text) : (Marked.ofParts lead flag rest).Inside := by
  constructor <;> simp only [Marked.ofParts, List.length_append] <;> omega

theorem partsFlagged (lead flag rest : Text) :
    let m := Marked.ofParts lead flag rest
    m.text.slice m.start m.stop = flag :=
  sliceMiddle lead flag rest

namespace Limits
variable {limits : Limits}

/- What becomes of each part when it is cut. -/
def narrowed (limits : Limits) (flag : Text) : Text :=
  if flag.length ≤ limits.maxWidth then flag
  else flag.before limits.context ++ limits.separator ++
    flag.onward (flag.length - limits.context)

def headCut (limits : Limits) (lead : Text) : Text :=
  if limits.context < lead.length then
    limits.separator ++ lead.onward (lead.length - limits.context)
  else lead

def tailCut (limits : Limits) (rest : Text) : Text :=
  if limits.context < rest.length then rest.before limits.context ++ limits.trailingMarker
  else rest

theorem collapseParts (low : 0 ≤ limits.context) (high : limits.context ≤ limits.maxWidth)
    (lead flag rest : Text) :
    limits.collapse (.ofParts lead flag rest) = .ofParts lead (limits.narrowed flag) rest := by
  have width : (Marked.ofParts lead flag rest).stop - (Marked.ofParts lead flag rest).start =
      flag.length := by
    simp only [Marked.ofParts]; omega
  unfold narrowed
  rcases Int.lt_or_le limits.maxWidth flag.length with wide | narrow
  · obtain ⟨c, context⟩ := Int.eq_ofNat_of_zero_le low
    have fits : c ≤ flag.length := by omega
    have first : (lead.length : Int) + c = (lead.length + c : Nat) := by omega
    have last : (lead.length : Int) + flag.length - c = (lead.length + (flag.length - c) : Nat) := by
      omega
    have back : (flag.length : Int) - c = (flag.length - c : Nat) := by omega
    rw [if_neg (by omega), collapseWide (by omega)]
    simp only [Marked.ofParts, collapsedWidth, context, first, last, back, beforeNat, onwardNat,
      Marked.mk.injEq, true_and]
    refine ⟨?_, ?_⟩
    · rw [List.append_assoc lead flag rest, List.take_length_add_append,
        List.drop_length_add_append, List.take_append_of_le_length fits,
        List.drop_append_of_le_length (Nat.sub_le _ _)]
      simp only [List.append_assoc]
    · simp only [List.length_append, List.length_take, List.length_drop]
      omega
  · rw [if_pos narrow, collapseNarrow (by omega)]

/- The window of a range inside its text: the flagged text with its context on both sides. -/
theorem visibleParts {c : Nat} (context : limits.context = c) (lead flag rest : Text) :
    limits.visible (.ofParts lead flag rest) =
      lead.drop (lead.length - c) ++ flag ++ rest.take c := by
  have first : max 0 ((lead.length : Int) - c) = (lead.length - c : Nat) := by omega
  have last : min ((lead ++ flag ++ rest).length : Int) (lead.length + flag.length + c) =
      (lead.length + flag.length + min c rest.length : Nat) := by
    rw [List.length_append, List.length_append]
    omega
  have shown : rest.take (min c rest.length) = rest.take c := by
    rw [List.take_eq_take_iff]
    omega
  rw [visibleSlice, context]
  simp only [Marked.ofParts, first, last]
  rw [sliceAround lead flag rest (Nat.sub_le _ _) (Nat.le_add_right _ _), Nat.add_sub_cancel_left,
    shown]

theorem windowParts (low : 0 ≤ limits.context) (lead flag rest : Text)
    (wide : limits.maxWidth < (lead ++ flag ++ rest).length) :
    limits.window (.ofParts lead flag rest) =
      .ofParts (limits.headCut lead) flag (limits.tailCut rest) := by
  obtain ⟨c, context⟩ := Int.eq_ofNat_of_zero_le low
  have tail : limits.cutsTail (.ofParts lead flag rest) = decide (limits.context < rest.length) := by
    simp only [cutsTailAt, Marked.ofParts, List.length_append, decide_eq_decide]
    omega
  have head : limits.cutsHead (.ofParts lead flag rest) = decide (limits.context < lead.length) :=
    rfl
  have kept : (if limits.context < lead.length then limits.separator else []) ++
      lead.drop (lead.length - c) = limits.headCut lead := by
    unfold headCut
    split
    · have back : (lead.length : Int) - limits.context = (lead.length - c : Nat) := by omega
      rw [back, onwardNat]
    · have whole : lead.length - c = 0 := by omega
      rw [whole]
      rfl
  have ended : rest.take c ++ (if limits.context < rest.length then limits.trailingMarker else []) =
      limits.tailCut rest := by
    unfold tailCut
    split
    · rw [context, beforeNat]
    · rw [List.take_of_length_le (by omega), List.append_nil]
  have column : (if limits.context < lead.length then limits.markerColumn else lead.length) =
      (limits.headCut lead).length := by
    rw [← kept, List.length_append, List.length_drop, markerColumn]
    split
    · omega
    · rw [List.length_nil]; omega
  rw [windowWide wide, visibleParts context]
  simp only [head, tail, decide_eq_true_eq]
  simp only [Marked.ofParts, column, ← kept, ← ended, List.append_assoc, Marked.mk.injEq, true_and]
  omega

/-! The same of a range that lies in its text. -/
variable {m : Marked}

theorem collapseInside (low : 0 ≤ limits.context) (high : limits.context ≤ limits.maxWidth)
    (inside : m.Inside) : limits.collapse m =
      .ofParts (m.text.before m.start) (limits.narrowed (m.text.slice m.start m.stop))
        (m.text.onward m.stop) := by
  have parts := limits.collapseParts low high (m.text.before m.start)
    (m.text.slice m.start m.stop) (m.text.onward m.stop)
  rwa [insideParts inside] at parts

theorem windowInside (low : 0 ≤ limits.context) (inside : m.Inside)
    (wide : limits.maxWidth < m.text.length) : limits.window m =
      .ofParts (limits.headCut (m.text.before m.start)) (m.text.slice m.start m.stop)
        (limits.tailCut (m.text.onward m.stop)) := by
  have whole := congrArg Marked.text (insideParts inside)
  have parts := limits.windowParts low (m.text.before m.start) (m.text.slice m.start m.stop)
    (m.text.onward m.stop) (by rwa [← whole] at wide)
  rwa [insideParts inside] at parts

end Limits

theorem shortenedParts {limits : Limits} (low : 0 ≤ limits.context)
    (high : limits.context ≤ limits.maxWidth) {m : Marked} (inside : m.Inside) :
    ∃ lead rest, limits.shorten m =
      .ofParts lead (limits.narrowed (m.text.slice m.start m.stop)) rest := by
  let lead := m.text.before m.start
  let flag := limits.narrowed (m.text.slice m.start m.stop)
  let rest := m.text.onward m.stop
  have collapsed : limits.collapse m = .ofParts lead flag rest :=
    Limits.collapseInside low high inside
  rw [Limits.shorten, collapsed]
  rcases Int.lt_or_le limits.maxWidth (lead ++ flag ++ rest).length with wide | fits
  · exact ⟨limits.headCut lead, limits.tailCut rest, limits.windowParts low lead flag rest wide⟩
  · exact ⟨lead, rest, Limits.windowNarrow fits⟩

end SourceExcerpt
