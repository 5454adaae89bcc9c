import SourceExcerpt.Proofs.Shortening
/-! What windowing shows of a long line: the flagged range with its context on both sides, as far as
the line goes, and a marker on each side where something was cut off. -/
namespace SourceExcerpt
open Text

theorem windowFlag {limits : Limits} (low : 0 ≤ limits.context) {m : Marked} (inside : m.Inside)
    (wide : limits.maxWidth < m.text.length) :
    (limits.window m).Inside ∧
      (limits.window m).text.slice (limits.window m).start (limits.window m).stop =
        m.text.slice m.start m.stop := by
  rw [limits.windowInside low inside wide]
  exact ⟨partsInside _ _ _, partsFlagged _ _ _⟩

theorem windowShown {limits : Limits} (low : 0 ≤ limits.context) {m : Marked} (inside : m.Inside)
    (wide : limits.maxWidth < m.text.length) :
    let first := max 0 (m.start - limits.context)
    let last := min (m.text.length : Int) (m.stop + limits.context)
    let w := limits.window m
    w.text = (if 0 < first then limits.separator else []) ++ m.text.slice first last ++
      (if last < m.text.length then limits.trailingMarker else []) ∧
    w.start = (if first = 0 then m.start else limits.context + limits.separator.length) ∧
    w.stop - w.start = m.stop - m.start ∧
    w.Inside ∧
    w.text.slice w.start w.stop = m.text.slice m.start m.stop := by
  intro first last w
  have head : limits.cutsHead m = decide (0 < first) := by
    rw [Limits.cutsHead, decide_eq_decide]
    omega
  have tail : limits.cutsTail m = decide (last < m.text.length) := by
    rw [Limits.cutsTailAt, decide_eq_decide]
    omega
  have cut : w = _ := Limits.windowWide wide
  rw [head, tail, Limits.visibleSlice] at cut
  simp only [Limits.markerColumn, decide_eq_true_eq] at cut
  have start : w.start = if first = 0 then m.start else limits.context + limits.separator.length := by
    rw [cut]
    simp only
    split <;> split <;> omega
  have width : w.stop - w.start = m.stop - m.start := by
    rw [cut]
    simp only
    omega
  exact ⟨congrArg Marked.text cut, start, width, windowFlag low inside wide⟩

theorem windowShownBoth :
    let m : Marked := ⟨"0123456789".toList, 4, 6⟩
    let w := (⟨5, 2, ['.', '.'], ['>']⟩ : Limits).window m
    m.Inside ∧ w.text = "..234567>".toList ∧ w.start = 4 ∧ w.Inside ∧
      w.text.slice w.start w.stop = ['4', '5'] := by
  intro m w
  have inside : m.Inside := ⟨by decide, by decide, by decide⟩
  obtain ⟨shown, start, _, within, flag⟩ :=
    @windowShown ⟨5, 2, ['.', '.'], ['>']⟩ (by decide) m inside (by decide)
  exact ⟨inside, shown.trans (by decide), start.trans (by decide), within,
    flag.trans (by decide)⟩

end SourceExcerpt
