import SourceExcerpt.Proofs.LineCut
/-! The lines of a text are what is between its newlines. Their extents follow each other with one
newline from each to the next, so that every offset lies in exactly one of them. -/
namespace SourceExcerpt
open Text

theorem splitLength (text : Text) : (text.splitOn '\n').length = text.count '\n' + 1 := by
  induction text with
  | nil => rfl
  | cons c rest ih =>
    rw [List.splitOn_cons_eq_if_modifyHead, List.count_cons]
    split <;> simp [ih]

theorem splitUnbroken {text line : Text} (member : line ∈ text.splitOn '\n') : '\n' ∉ line := by
  induction text generalizing line with
  | nil =>
    rw [List.splitOn_nil, List.mem_singleton] at member
    exact member ▸ List.not_mem_nil
  | cons c rest ih =>
    rw [List.splitOn_cons_eq_if_modifyHead] at member
    split at member
    · rcases List.mem_cons.mp member with rfl | later
      · exact List.not_mem_nil
      · exact ih later
    · rename_i other
      obtain ⟨first, others, split⟩ := List.exists_cons_of_ne_nil (List.splitOn_ne_nil '\n' rest)
      rw [split, List.modifyHead_cons] at member
      rcases List.mem_cons.mp member with rfl | later
      · have unbroken := ih (split ▸ List.mem_cons_self)
        simp only [List.mem_cons, not_or]
        exact ⟨fun same => other (beq_iff_eq.mpr same.symm), unbroken⟩
      · exact ih (split ▸ List.mem_cons_of_mem first later)

namespace LineCut
variable {text : Text} {offset : Int}

/- A line of a joined text, cut out where it was joined. -/
theorem cutJoined {lines : List Text} (unbroken : ∀ line ∈ lines, '\n' ∉ line) {i : Nat}
    {line : Text} (found : lines[i]? = some line) :
    ∃ cut : LineCut (List.intercalate ['\n'] lines), cut.number = i ∧ cut.line = line := by
  induction lines generalizing i with
  | nil => cases found
  | cons first others ih =>
    have here := unbroken first List.mem_cons_self
    cases others with
    | nil =>
      cases i with
      | succ i => cases found
      | zero =>
        cases Option.some.inj found
        exact ⟨⟨[], line, [], by simp, .inl rfl, here, .inl rfl⟩, rfl, rfl⟩
    | cons second others =>
      rw [List.intercalate_cons_cons]
      cases i with
      | zero =>
        cases Option.some.inj found
        exact ⟨⟨[], line, '\n' :: List.intercalate ['\n'] (second :: others), by simp, .inl rfl,
          here, .inr rfl⟩, rfl, rfl⟩
      | succ i =>
        obtain ⟨cut, number, same⟩ :=
          ih (fun line member => unbroken line (List.mem_cons_of_mem _ member)) found
        have begun : (first ++ ['\n']).getLast? = some '\n' := by simp
        have counted : (first ++ ['\n']).count '\n' = 1 := by
          rw [List.count_append, List.count_eq_zero.mpr here]
          rfl
        rw [← List.append_nil (first ++ ['\n'] ++ _)]
        refine ⟨cut.within (.inr begun) (.inl rfl), ?_, same⟩
        rw [withinNumber, counted, number, Nat.add_comm]

theorem cutNumbered {i : Nat} {line : Text} (found : (text.splitOn '\n')[i]? = some line) :
    ∃ cut : LineCut text, cut.number = i ∧ cut.line = line := by
  have cut := cutJoined (fun _ => splitUnbroken) found
  rwa [List.intercalate_splitOn] at cut

theorem extentNumbered {cut other : LineCut text} (same : cut.number = other.number) :
    cut.extent = other.extent := by
  have first := cut.startFound
  have stop := cut.lineStopOf
  rw [same, other.startFound] at first
  rw [same, other.lineStopOf] at stop
  simp only [extent, Span.mk.injEq]
  have := Option.some.inj first
  omega

theorem lineNumbered (cut : LineCut text) :
    (text.splitOn '\n')[cut.number]? = some cut.line := by
  have known : cut.number < (text.splitOn '\n').length := by
    rw [splitLength, ← Lines.startsLength]
    exact (List.getElem?_eq_some_iff.mp cut.startFound).1
  have found := List.getElem?_eq_getElem known
  obtain ⟨other, same, line⟩ := cutNumbered found
  have lines : cut.line = other.line := by
    rw [← cut.extentSlice, ← other.extentSlice, extentNumbered same]
  rw [found, lines, line]

theorem aroundNumbered {cut other : LineCut text} (around : other.Around offset) :
    cut.Around offset ↔ other.number = cut.number := by
  constructor
  · intro also
    have index := LineIndex.ofText text
    have located := (index.locateOf (other.lineOf around)).symm.trans
      (index.locateOf (cut.lineOf also))
    exact Int.ofNat_inj.mp (congrArg Position.line located)
  · intro same
    rw [← extentHolds, ← extentNumbered same, extentHolds]
    exact around

end LineCut

theorem linesPartitioned (name text : Text) :
    ∃ lines : List Text,
      (Document.lineCount.run (Document.ofText name text)).1 = .ok lines.length ∧
      List.intercalate ['\n'] lines = text ∧
      (∀ (i : Nat) line, lines[i]? = some line → '\n' ∉ line ∧ ∃ extent : Span,
        ((Document.lineRange i).run (Document.ofText name text)).1 = .ok extent ∧
        extent.sliceOf text = line ∧
        ∀ offset : Nat, offset ≤ text.length → ∃ p,
          ((Document.lineColumn offset).run (Document.ofText name text)).1 = .ok p ∧
          (extent.containsInclusive offset = true ↔ p.line = i)) ∧
      (∀ offset : Nat, offset ≤ text.length → ∃ p, ∃ i : Nat, ∃ line shown,
        ((Document.lineColumn offset).run (Document.ofText name text)).1 = .ok p ∧
        p.line = i ∧ lines[i]? = some line ∧
        ((Document.lineAt offset).run (Document.ofText name text)).1 = .ok shown ∧
        (line = shown ++ ['\r'] ∨ line = shown ∧ line.getLast? ≠ some '\r')) := by
  refine ⟨text.splitOn '\n', ?_, List.intercalate_splitOn '\n', ?_, ?_⟩
  · rw [splitLength, ← Lines.startsLength]
    rfl
  · intro i line found
    obtain ⟨cut, rfl, rfl⟩ := LineCut.cutNumbered found
    refine ⟨cut.unbroken, cut.extent, congrArg Prod.fst (cut.answersExtent name),
      cut.extentSlice, ?_⟩
    intro offset inside
    obtain ⟨other, around⟩ := LineCut.cutAround (Int.natCast_nonneg offset)
      (Int.ofNat_le.mpr inside)
    have numbered : cut.Around offset ↔ (other.number : Int) = cut.number :=
      (LineCut.aroundNumbered around).trans Int.ofNat_inj.symm
    exact ⟨_, congrArg Prod.fst (other.answersColumn name around), cut.extentHolds.trans numbered⟩
  · intro offset inside
    obtain ⟨cut, around⟩ := LineCut.cutAround (Int.natCast_nonneg offset) (Int.ofNat_le.mpr inside)
    exact ⟨_, cut.number, cut.line, _, congrArg Prod.fst (cut.answersColumn name around), rfl,
      cut.lineNumbered, congrArg Prod.fst (cut.answersLine name around),
      Lines.dropReturnOnce cut.line⟩

theorem linesPartitionedTrailing :
    ∃ lines : List Text, lines.length = 2 ∧
      (∃ last extent, lines[1]? = some last ∧ '\n' ∉ last ∧
        ((Document.lineRange (1 : Nat)).run (Document.ofText ['a'] ['\r', '\n'])).1 = .ok extent ∧
        extent.containsInclusive (2 : Nat) = true) ∧
      (∃ first shown, lines[0]? = some first ∧
        ((Document.lineAt (1 : Nat)).run (Document.ofText ['a'] ['\r', '\n'])).1 = .ok shown ∧
        (first = shown ++ ['\r'] ∨ first = shown ∧ first.getLast? ≠ some '\r')) := by
  obtain ⟨lines, counted, _, slices, shows⟩ := linesPartitioned ['a'] ['\r', '\n']
  have two : lines.length = 2 := (Except.ok.inj counted).symm
  have last : lines[1]? = some lines[1] := List.getElem?_eq_getElem (by omega)
  obtain ⟨unbroken, extent, ranged, _, holds⟩ := slices 1 _ last
  obtain ⟨p, located, within⟩ := holds 2 (by decide)
  cases located
  obtain ⟨q, i, first, shown, found, number, atFirst, answered, once⟩ := shows 1 (by decide)
  cases found
  cases Int.ofNat_inj.mp number
  exact ⟨lines, two, ⟨_, extent, last, unbroken, ranged, within.mpr rfl⟩,
    first, shown, atFirst, answered, once⟩

end SourceExcerpt
