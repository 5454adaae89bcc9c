import SourceExcerpt.Text.Slice
/-! Lines of a text. Only a newline ends a line; a carriage return before it belongs to the
line and is dropped for display. -/
namespace SourceExcerpt.Text.Lines

def breaks : Nat → Text → List Nat
  | _, [] => []
  | offset, c :: rest =>
    if c = '\n' then (offset + 1) :: breaks (offset + 1) rest else breaks (offset + 1) rest

def starts (text : Text) : List Nat := 0 :: breaks 0 text

theorem breaksLength (offset : Nat) (text : Text) :
    (breaks offset text).length = text.count '\n' := by
  induction text generalizing offset with
  | nil => rfl
  | cons c rest ih => by_cases h : c = '\n' <;> simp [breaks, h, ih]

theorem startsLength (text : Text) : (starts text).length = text.count '\n' + 1 := by
  simp [starts, breaksLength]

theorem breaksAppend (offset : Nat) (first second : Text) :
    breaks offset (first ++ second) =
      breaks offset first ++ breaks (offset + first.length) second := by
  induction first generalizing offset with
  | nil => simp [breaks]
  | cons c rest ih =>
    have shift : offset + (rest.length + 1) = offset + 1 + rest.length := by omega
    by_cases h : c = '\n' <;> simp [breaks, h, ih, shift]

theorem startsAppend (first second : Text) :
    starts (first ++ second) = starts first ++ breaks first.length second := by
  simp [starts, breaksAppend]

theorem breaksUnbroken (offset : Nat) {text : Text} (unbroken : '\n' ∉ text) :
    breaks offset text = [] := by
  induction text generalizing offset with
  | nil => rfl
  | cons c rest ih =>
    have other : c ≠ '\n' := fun same => unbroken (same ▸ List.mem_cons_self)
    have later : '\n' ∉ rest := fun member => unbroken (List.mem_cons_of_mem c member)
    rw [breaks, if_neg other, ih (offset + 1) later]

def dropReturn (line : Text) : Text :=
  if line.getLast? = some '\r' then line.dropLast else line

theorem dropReturnOnce (line : Text) : line = dropReturn line ++ ['\r'] ∨
    line = dropReturn line ∧ line.getLast? ≠ some '\r' := by
  unfold dropReturn
  split
  · rename_i returned
    obtain ⟨before, rfl⟩ := List.getLast?_eq_some_iff.mp returned
    exact .inl (by rw [List.dropLast_concat])
  · rename_i plain
    exact .inr ⟨rfl, plain⟩

theorem dropReturnLength (line : Text) : (dropReturn line).length ≤ line.length := by
  unfold dropReturn; split <;> simp

theorem dropReturnLoses (line : Text) : line.length ≤ (dropReturn line).length + 1 := by
  unfold dropReturn; split
  · rw [List.length_dropLast]; omega
  · omega

theorem dropReturnShorter (line : Text) :
    (dropReturn line).length < line.length ↔ line.getLast? = some '\r' := by
  rcases dropReturnOnce line with returned | ⟨same, plain⟩
  · have size := congrArg List.length returned
    rw [List.length_append, List.length_singleton] at size
    exact iff_of_true (by omega) (by rw [returned, List.getLast?_concat])
  · exact iff_of_false (by rw [← same]; omega) plain

theorem plainEnd {line : Text} (plain : '\r' ∉ line) : line.getLast? ≠ some '\r' :=
  fun returned => plain (List.mem_of_getLast? returned)

theorem dropReturnPlain {line : Text} (plain : '\r' ∉ line) : dropReturn line = line :=
  if_neg (plainEnd plain)

def unify : Text → Text
  | [] => []
  | '\r' :: '\n' :: rest => '\n' :: unify rest
  | c :: rest => (if c = '\r' then '\n' else c) :: unify rest

theorem unifyNoReturn (text : Text) : '\r' ∉ unify text := by
  fun_induction unify text with
  | case1 => simp
  | case2 rest ih => simp [ih]
  | case3 c rest other ih => by_cases h : c = '\r' <;> simp [h, ih, eq_comm]

end SourceExcerpt.Text.Lines
