import SourceExcerpt.Proofs.LineIndex
/-! Line starts by searching. A search goes on from behind the newline that it found last and ends
where there is no other. It sees of the text only what is found in it, and all that is asked of the
finding is that it gives the nearest newline. A document answers with what the search has noted. -/
namespace SourceExcerpt
open Text

/- There is none to be found from the end of the text on. -/
def nextBreak (text : Text) (offset : Nat) : Option Nat :=
  ((text.drop offset).idxOf? '\n').map (offset + ·)

structure FindsNext (text : Text) (find : Nat → Option Nat) : Prop where
  found : ∀ offset i, find offset = some i →
    offset ≤ i ∧ text[i]? = some '\n' ∧ ∀ j, offset ≤ j → j < i → text[j]? ≠ some '\n'
  missed : ∀ offset, find offset = none → ∀ j, offset ≤ j → text[j]? ≠ some '\n'

theorem nextBreakFinds (text : Text) : FindsNext text (nextBreak text) where
  found := by
    intro offset i ok
    obtain ⟨k, atK, rfl⟩ := Option.map_eq_some_iff.mp ok
    obtain ⟨inside, broken, first⟩ := List.findIdx?_eq_some_iff_getElem.mp atK
    have here : (text.drop offset)[k]? = some '\n' := by
      rw [List.getElem?_eq_getElem inside, beq_iff_eq.mp broken]
    refine ⟨Nat.le_add_right offset k, List.getElem?_drop ▸ here, ?_⟩
    intro j low high newline
    obtain ⟨column, rfl⟩ := Nat.exists_eq_add_of_le low
    obtain ⟨within, same⟩ := List.getElem?_eq_some_iff.mp (List.getElem?_drop.trans newline)
    exact first column (by omega) (beq_iff_eq.mpr same)
  missed := by
    intro offset nothing j low newline
    have unbroken := List.idxOf?_eq_none_iff.mp (Option.map_eq_none_iff.mp nothing)
    obtain ⟨column, rfl⟩ := Nat.exists_eq_add_of_le low
    exact unbroken (List.mem_of_getElem? (List.getElem?_drop.trans newline))

namespace FindsNext
variable {text : Text} {find : Nat → Option Nat}

theorem foundBehind (finds : FindsNext text find) {lead gap rest : Text}
    (split : lead ++ (gap ++ '\n' :: rest) = text) (unbroken : '\n' ∉ gap) :
    find lead.length = some (lead.length + gap.length) := by
  have onward (column : Nat) : text[lead.length + column]? = (gap ++ '\n' :: rest)[column]? := by
    rw [← split, List.getElem?_append_right (Nat.le_add_right _ _), Nat.add_sub_cancel_left]
  have newline : text[lead.length + gap.length]? = some '\n' := by
    rw [onward, List.getElem?_append_right (Nat.le_refl _), Nat.sub_self]
    rfl
  cases found : find lead.length with
  | none => exact absurd newline (finds.missed _ found _ (Nat.le_add_right _ _))
  | some i =>
    obtain ⟨low, broken, first⟩ := finds.found _ _ found
    obtain ⟨column, rfl⟩ := Nat.exists_eq_add_of_le low
    rcases Nat.lt_trichotomy column gap.length with inside | rfl | past
    · rw [onward, List.getElem?_append_left inside] at broken
      exact absurd (List.mem_of_getElem? broken) unbroken
    · rfl
    · exact absurd newline (first _ (Nat.le_add_right _ _) (Nat.add_lt_add_left past _))

theorem missedBehind (finds : FindsNext text find) {lead rest : Text} (split : lead ++ rest = text)
    (unbroken : '\n' ∉ rest) : find lead.length = none := by
  cases found : find lead.length with
  | none => rfl
  | some i =>
    obtain ⟨low, broken, _⟩ := finds.found _ _ found
    rw [← split, List.getElem?_append_right low] at broken
    exact absurd (List.mem_of_getElem? broken) unbroken

end FindsNext

structure LineSearch where
  starts : List Nat
  found : Option Nat
  deriving DecidableEq, Repr

namespace LineSearch

def begun (find : Nat → Option Nat) : LineSearch := ⟨[0], find 0⟩

/- One round. There is no further one once nothing was found. -/
def step (find : Nat → Option Nat) (s : LineSearch) : Option LineSearch :=
  s.found.map fun i => ⟨s.starts ++ [i + 1], find (i + 1)⟩

def rounds (find : Nat → Option Nat) : Nat → LineSearch → Option LineSearch
  | 0, s => some s
  | n + 1, s => (step find s).bind (rounds find n)

/-! What each round keeps: the line starts up to the last one found are noted, and the next newline
was asked for from there on. -/
structure Upto (text : Text) (find : Nat → Option Nat) (s : LineSearch) (lead rest : Text) : Prop where
  split : lead ++ rest = text
  noted : s.starts = Lines.starts lead
  asked : s.found = find lead.length

variable {text : Text} {find : Nat → Option Nat} {s : LineSearch} {lead rest : Text}

theorem begunUpto (text : Text) (find : Nat → Option Nat) : Upto text find (begun find) [] text :=
  ⟨rfl, rfl, rfl⟩

theorem stepUpto (finds : FindsNext text find) {gap : Text}
    (upto : Upto text find s lead (gap ++ '\n' :: rest)) (unbroken : '\n' ∉ gap) :
    ∃ next, step find s = some next ∧ Upto text find next (lead ++ gap ++ ['\n']) rest := by
  have found := upto.asked.trans (finds.foundBehind upto.split unbroken)
  refine ⟨⟨s.starts ++ [lead.length + gap.length + 1], find (lead.length + gap.length + 1)⟩,
    ?_, ?_, ?_, ?_⟩
  · rw [step, found]
    rfl
  · rw [← upto.split]
    simp only [List.append_assoc, List.singleton_append]
  · rw [upto.noted, Lines.startsAppend, Lines.startsAppend, Lines.breaksUnbroken _ unbroken,
      List.append_nil, List.length_append]
    rfl
  · rw [List.length_append, List.length_append, List.length_singleton]

theorem endUpto (finds : FindsNext text find) (upto : Upto text find s lead rest)
    (unbroken : '\n' ∉ rest) : step find s = none ∧ s.starts = Lines.starts text := by
  have missed := upto.asked.trans (finds.missedBehind upto.split unbroken)
  refine ⟨by rw [step, missed]; rfl, ?_⟩
  rw [upto.noted, ← upto.split, Lines.startsAppend, Lines.breaksUnbroken _ unbroken, List.append_nil]

/- Each round takes one newline from what is left of the text, so that it cannot go on for ever. -/
theorem roundsUpto (finds : FindsNext text find) (upto : Upto text find s lead rest) :
    ∃ last, rounds find (rest.count '\n') s = some last ∧
      step find last = none ∧ last.starts = Lines.starts text := by
  induction left : rest.count '\n' generalizing s lead rest with
  | zero => exact ⟨s, rfl, endUpto finds upto (List.count_eq_zero.mp left)⟩
  | succ n ih =>
    have broken : '\n' ∈ rest := List.count_pos_iff.mp (by omega)
    obtain ⟨gap, after, rfl, unbroken⟩ := List.eq_append_cons_of_mem broken
    obtain ⟨next, stepped, upto⟩ := stepUpto finds upto unbroken
    rw [List.count_append, List.count_eq_zero.mpr unbroken, List.count_cons_self] at left
    obtain ⟨last, ran, ended⟩ := ih upto (by omega)
    exact ⟨last, by rw [rounds, stepped]; exact ran, ended⟩

end LineSearch

theorem lineSearchExact (name text : Text) :
    FindsNext text (nextBreak text) ∧
    ∀ find, FindsNext text find → ∃ last,
      LineSearch.rounds find (text.count '\n') (LineSearch.begun find) = some last ∧
      LineSearch.step find last = none ∧
      (Document.lineStarts.run (Document.ofText name text)).1 = .ok last.starts ∧
      last.starts[0]? = some 0 ∧ last.starts.Pairwise (· < ·) ∧
      (∀ start ∈ last.starts, start ≤ text.length) ∧
      ∀ start, start ∈ last.starts ↔ start = 0 ∨ ∃ i, text[i]? = some '\n' ∧ start = i + 1 := by
  refine ⟨nextBreakFinds text, ?_⟩
  intro find finds
  obtain ⟨last, ran, ended, noted⟩ := LineSearch.roundsUpto finds (LineSearch.begunUpto text find)
  have index := LineIndex.ofText text
  refine ⟨last, ran, ended, ?_⟩
  rw [noted]
  exact ⟨rfl, index.first, index.increasing, fun _ => LineIndex.startsInside,
    fun _ => LineIndex.startsMember⟩

/- Two newlines on end, and one with nothing after it. -/
theorem lineSearchExactAdjacent :
    FindsNext ['\n', '\n', 'a', '\n'] (nextBreak ['\n', '\n', 'a', '\n']) ∧
    ∃ last, LineSearch.rounds (nextBreak ['\n', '\n', 'a', '\n']) 3
        (LineSearch.begun (nextBreak ['\n', '\n', 'a', '\n'])) = some last ∧
      LineSearch.step (nextBreak ['\n', '\n', 'a', '\n']) last = none ∧
      (Document.lineStarts.run (Document.ofText ['a'] ['\n', '\n', 'a', '\n'])).1 = .ok last.starts ∧
      last.starts = [0, 1, 2, 4] ∧ last.starts.Pairwise (· < ·) := by
  obtain ⟨finds, exact⟩ := lineSearchExact ['a'] ['\n', '\n', 'a', '\n']
  obtain ⟨last, ran, ended, answered, _, increasing, _⟩ := exact _ finds
  have starts : last.starts = [0, 1, 2, 4] := (Except.ok.inj answered).symm
  exact ⟨finds, last, ran, ended, answered, starts, increasing⟩

end SourceExcerpt
