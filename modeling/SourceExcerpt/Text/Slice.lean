/-! Text as a sequence of code points, and its slices. Every offset, column and width of
the library counts code points. A bound may be negative or lie outside the text: a negative
one counts from the end, and what still lies outside is moved to the nearer end. -/
namespace SourceExcerpt

abbrev Text := List Char

namespace Text

def cut (size : Nat) (bound : Int) : Nat :=
  min (if bound < 0 then bound + size else bound).toNat size

theorem cutWithin (size : Nat) (bound : Int) : cut size bound ≤ size :=
  Nat.min_le_right _ _

theorem cutInside {size : Nat} {bound : Int} (low : 0 ≤ bound) (high : bound ≤ size) :
    cut size bound = bound.toNat := by
  unfold cut; split <;> omega

theorem cutBeyond {size : Nat} {bound : Int} (high : (size : Int) ≤ bound) :
    cut size bound = size := by
  unfold cut; split <;> omega

theorem cutFromEnd {size : Nat} {back : Nat} (pos : 0 < back) :
    cut size (-(back : Int)) = size - back := by
  unfold cut; split <;> omega

theorem cutLow {size : Nat} {bound : Int} (low : 0 ≤ bound) :
    cut size bound = min bound.toNat size := by
  unfold cut; split <;> omega

theorem cutMost (size : Nat) {bound : Int} (low : 0 ≤ bound) : cut size bound ≤ bound := by
  rw [cutLow low]
  omega

theorem cutBack (size : Nat) {back : Int} (low : 0 ≤ back) :
    (size : Int) - cut size (size - back) ≤ back := by
  unfold cut; split <;> omega

theorem cutNat (size n : Nat) : cut size n = min n size := by
  unfold cut; split <;> omega

def before (text : Text) (bound : Int) : Text := text.take (cut text.length bound)

def onward (text : Text) (bound : Int) : Text := text.drop (cut text.length bound)

theorem beforeLength (text : Text) (bound : Int) :
    (before text bound).length = cut text.length bound := by
  rw [before, List.length_take, Nat.min_eq_left (cutWithin _ _)]

theorem onwardLength (text : Text) (bound : Int) :
    (onward text bound).length = text.length - cut text.length bound :=
  List.length_drop

theorem beforeOnward (text : Text) (bound : Int) :
    before text bound ++ onward text bound = text :=
  List.take_append_drop _ _

def slice (text : Text) (first last : Int) : Text :=
  let start := cut text.length first
  (text.drop start).take (cut text.length last - start)

theorem sliceLength (text : Text) (first last : Int) :
    (slice text first last).length = cut text.length last - cut text.length first := by
  have := cutWithin text.length last
  simp only [slice, List.length_drop, List.length_take]; omega

theorem sliceBefore (text : Text) (first last : Int) :
    slice text first last = (before text last).drop (cut text.length first) := by
  rw [slice, before, List.drop_take]

theorem sliceMember {text : Text} {first last : Int} {c : Char} (member : c ∈ text.slice first last) :
    c ∈ text := by
  rw [sliceBefore] at member
  exact List.mem_of_mem_take (List.mem_of_mem_drop member)

theorem sliceToEnd (text : Text) (first : Int) :
    slice text first text.length = onward text first := by
  simp [sliceBefore, before, onward, cutBeyond]

theorem beforeNat (text : Text) (n : Nat) : before text n = text.take n := by
  rw [before, cutNat, List.take_eq_take_iff]; omega

theorem onwardNat (text : Text) (n : Nat) : onward text n = text.drop n := by
  rw [onward, cutNat, List.drop_eq_drop_iff]; omega

/- What is sliced reaches over a part of the text on both sides. -/
theorem sliceAround (lead middle rest : Text) {first last : Nat} (before : first ≤ lead.length)
    (after : lead.length + middle.length ≤ last) :
    slice (lead ++ middle ++ rest) first last =
      lead.drop first ++ middle ++ rest.take (last - (lead.length + middle.length)) := by
  have back : (lead ++ middle ++ rest).take last =
      lead ++ middle ++ rest.take (last - (lead.length + middle.length)) := by
    rw [List.take_append, List.take_of_length_le (by rw [List.length_append]; omega),
      List.length_append]
  have front : cut (lead ++ middle ++ rest).length first = first := by
    rw [cutNat, List.length_append, List.length_append]
    omega
  rw [sliceBefore, front, beforeNat, back, List.append_assoc, List.drop_append_of_le_length before,
    List.append_assoc]

theorem sliceMiddle (lead middle rest : Text) :
    slice (lead ++ middle ++ rest) lead.length (lead.length + middle.length) = middle := by
  have shown := sliceAround lead middle rest (Nat.le_refl _)
    (Nat.le_refl (lead.length + middle.length))
  rwa [List.drop_length, List.nil_append, Nat.sub_self, List.take_zero, List.append_nil,
    Int.natCast_add] at shown

theorem sliceWithin {text : Text} {first : Nat} (inside : first ≤ text.length) (last : Int) :
    ∃ lead rest, lead.length = first ∧ text = lead ++ text.slice first last ++ rest := by
  have front : cut text.length first = first := cutInside (by omega) (by omega)
  refine ⟨text.take first, (text.drop first).drop (cut text.length last - first), ?_, ?_⟩
  · rw [List.length_take]
    omega
  · rw [slice, front, List.append_assoc, List.take_append_drop, List.take_append_drop]

theorem sliceCrossed (text : Text) {first last : Int}
    (crossed : cut text.length last ≤ cut text.length first) : slice text first last = [] := by
  apply List.eq_nil_of_length_eq_zero
  rw [sliceLength]; omega

theorem slicePast (text : Text) {first : Int} (past : text.length ≤ first) (last : Int) :
    slice text first last = [] :=
  sliceCrossed text (by rw [cutBeyond past]; exact cutWithin _ _)

end Text
end SourceExcerpt
