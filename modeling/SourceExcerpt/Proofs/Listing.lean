import Mathlib.Data.List.Basic
import Mathlib.Data.Set.Image
import SourceExcerpt.Proofs.ReadBack
import SourceExcerpt.Reference
/-! The listing of a reference has its fields on lines of their own and loses nothing. No field can
break its line, whatever is in it, and two references are listed alike only if they are the same. -/
namespace SourceExcerpt
open Text

namespace Reference

/-! Two numbers with a comma between them, as positions and columns are written. -/
theorem numbersInjective {lead between tail : Text} (clear : ',' ∉ between) (ended : ',' ∉ tail)
    {a b c d : Int}
    (same : lead ++ Decimal.render a ++ (',' :: between) ++ Decimal.render b ++ tail =
      lead ++ Decimal.render c ++ (',' :: between) ++ Decimal.render d ++ tail) : a = c ∧ b = d := by
  have outside := Decimal.renderOutside (c := ',') (by decide) rfl
  have apart : ',' ∉ between ++ (Decimal.render b ++ tail) := by
    simp only [List.mem_append, not_or]
    exact ⟨clear, outside b, ended⟩
  simp only [List.append_assoc, List.cons_append, List.append_cancel_left_eq] at same
  obtain ⟨first, _, last⟩ := (List.append_cons_inj_of_notMem (outside a) apart).mp same
  have second := List.append_cancel_right (List.append_cancel_left last)
  exact ⟨Decimal.renderInjective first, Decimal.renderInjective second⟩

theorem numbersLine {lead between tail : Text} (begun : '\n' ∉ lead) (clear : '\n' ∉ between)
    (ended : '\n' ∉ tail) (a b : Int) :
    '\n' ∉ lead ++ Decimal.render a ++ between ++ Decimal.render b ++ tail := by
  have outside := Decimal.renderOutside (c := '\n') (by decide) rfl
  simp only [List.mem_append, not_or]
  exact ⟨⟨⟨⟨begun, outside a⟩, clear⟩, outside b⟩, ended⟩

theorem positionInjective : Function.Injective Position.render := by
  intro p q same
  obtain ⟨line, column⟩ := p
  obtain ⟨otherLine, otherColumn⟩ := q
  obtain ⟨rfl, rfl⟩ := numbersInjective (by decide) (by decide) same
  rfl

/-! What stands for each field. A name or a position that is not known is written apart from all that
are. -/
theorem nameInjective : Function.Injective (Quoted.quotedOr "None".toList) := by
  refine Option.injective_iff.mpr ⟨Quoted.quotedInjective, ?_⟩
  rintro ⟨text, unnamed⟩
  have quote := (List.cons.inj unnamed).1
  rcases Quoted.quoteForUsed text with used | used <;> rw [used] at quote <;>
    exact absurd quote (by decide)

theorem placeInjective :
    Function.Injective fun place : Option Position => place.elim "None".toList Position.render := by
  refine Option.injective_iff.mpr ⟨positionInjective, ?_⟩
  rintro ⟨p, unplaced⟩
  exact absurd (List.cons.inj unplaced).1 (by decide)

theorem positionTextElim (r : Reference) :
    r.positionText = r.position.elim "None".toList Position.render := by
  unfold positionText
  cases r.position <;> rfl

theorem truthTextInjective : ∀ a b : Bool, truthText a = truthText b → a = b := by decide

theorem columnsTextInjective {r s : Reference} (same : r.columnsText = s.columnsText) :
    r.start = s.start ∧ r.stop = s.stop :=
  @numbersInjective "(".toList [] ")".toList (by decide) (by decide) _ _ _ _ same

theorem fieldsInjective : Function.Injective fields := by
  intro r s same
  -- what is flagged is not needed, since the text and the columns tell it
  simp only [fields, positionTextElim, List.cons_append, List.nil_append, List.cons.injEq,
    List.append_cancel_left_eq] at same
  obtain ⟨message, name, position, multiline, text, columns, _⟩ := same
  obtain ⟨start, stop⟩ := columnsTextInjective columns
  cases r
  cases s
  rw [mk.injEq]
  exact ⟨Quoted.quotedInjective message, nameInjective name, placeInjective position,
    truthTextInjective _ _ multiline, Quoted.quotedInjective text, start, stop⟩

/-! No field breaks its line. -/
theorem nameLine (r : Reference) : '\n' ∉ r.nameText := by
  unfold nameText
  cases r.sourceName with
  | none => decide
  | some text => exact Quoted.quotedLine text

theorem positionLine (r : Reference) : '\n' ∉ r.positionText := by
  unfold positionText
  split
  · decide
  · exact numbersLine (by decide) (by decide) (by decide) _ _

theorem columnsLine (r : Reference) : '\n' ∉ r.columnsText :=
  numbersLine (by decide) (by decide) (by decide) _ _

theorem truthLine : ∀ b : Bool, '\n' ∉ truthText b := by decide

theorem fieldsLine {r : Reference} {field : Text} (member : field ∈ r.fields) : '\n' ∉ field := by
  have labelled {label value : Text} (named : '\n' ∉ label) (clear : '\n' ∉ value) :
      '\n' ∉ label ++ value := by
    rw [List.mem_append, not_or]
    exact ⟨named, clear⟩
  simp only [fields, List.cons_append, List.nil_append, List.mem_cons] at member
  rcases member with rfl | rfl | rfl | rfl | rfl | rfl | member
  · exact labelled (by decide) (Quoted.quotedLine _)
  · exact labelled (by decide) r.nameLine
  · exact labelled (by decide) r.positionLine
  · exact labelled (by decide) (truthLine _)
  · exact labelled (by decide) (Quoted.quotedLine _)
  · exact labelled (by decide) r.columnsLine
  · split at member
    · rw [List.mem_singleton.mp member]
      exact labelled (by decide) (Quoted.quotedLine _)
    · cases member

theorem listingLines (r : Reference) : r.listing.splitOn '\n' = r.fields :=
  List.splitOn_intercalate '\n' (fun _ => fieldsLine) (List.cons_ne_nil _ _)

theorem listingLossless :
    (∀ r s : Reference, r.listing = s.listing → r = s) ∧
    ∀ r : Reference, r.listing.splitOn '\n' = r.fields ∧
      (r.listing.splitOn '\n').length = if r.text = [] then 6 else 7 := by
  refine ⟨?_, ?_⟩
  · intro r s same
    apply fieldsInjective
    rw [← listingLines, same, listingLines]
  · intro r
    refine ⟨listingLines r, ?_⟩
    rw [listingLines, fieldsLength, hasExcerpt]
    cases r.text <;> rfl

/- A name that reads like no name at all, and a message with lines that read like fields. -/
theorem listingLosslessLookalike :
    let named : Reference := { message := "\ntext='x'".toList, sourceName := some "None".toList }
    named.listing ≠ { named with sourceName := none }.listing ∧
      (named.listing.splitOn '\n').length = 6 := by
  intro named
  refine ⟨fun same => ?_, (listingLossless.2 named).2⟩
  exact absurd (listingLossless.1 _ _ same) (by decide)

end Reference
end SourceExcerpt
