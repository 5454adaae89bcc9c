import SourceExcerpt.Command.Pattern
/-! Which names a pattern matches. The matcher goes through the glyphs once, with an answer for every
tail of the name; what it answers for the whole name is what the glyphs mean one by one. -/
namespace SourceExcerpt.Command
open Text

inductive Matches : List Glyph → Text → Prop where
  | ended : Matches [] []
  | stop {rest : List Glyph} {name : Text} (onward : Matches rest name) :
      Matches (.run :: rest) name
  | more {rest : List Glyph} {c : Char} {name : Text} (longer : Matches (.run :: rest) name) :
      Matches (.run :: rest) (c :: name)
  | one {g : Glyph} {rest : List Glyph} {c : Char} {name : Text} (single : g ≠ .run)
      (accepted : g.accepts c = true) (onward : Matches rest name) : Matches (g :: rest) (c :: name)

theorem tailMatchesMore (glyphs : List Glyph) (c : Char) (name : Text) :
    tailMatches glyphs (c :: name) = matchesName glyphs (c :: name) :: tailMatches glyphs name := by
  have size := tailMatchesLength glyphs (c :: name)
  have tail := tailMatchesTail glyphs c name
  unfold matchesName
  cases whole : tailMatches glyphs (c :: name) with
  | nil => rw [whole] at size; simp at size
  | cons first others =>
    rw [whole] at tail
    rw [← tail]
    rfl

theorem matchesRunEnd (rest : List Glyph) : matchesName (.run :: rest) [] = matchesName rest [] := by
  have size := tailMatchesLength rest []
  rw [matchesRun]
  unfold matchesName
  obtain ⟨only, single⟩ := List.length_eq_one_iff.mp size
  simp [single]

theorem matchesRunMore (rest : List Glyph) (c : Char) (name : Text) :
    matchesName (.run :: rest) (c :: name) =
      (matchesName rest (c :: name) || matchesName (.run :: rest) name) := by
  rw [matchesRun, matchesRun, tailMatchesMore]
  rfl

theorem matchesOneEnd {g : Glyph} (single : g ≠ .run) (rest : List Glyph) :
    matchesName (g :: rest) [] = false := by
  cases g <;> first | rfl | contradiction

theorem matchesExact {glyphs : List Glyph} {name : Text} :
    matchesName glyphs name = true ↔ Matches glyphs name := by
  constructor
  · intro matched
    induction glyphs generalizing name with
    | nil =>
      rw [matchesNothing, List.isEmpty_iff] at matched
      exact matched ▸ .ended
    | cons g rest ih =>
      by_cases run : g = .run
      · subst run
        induction name with
        | nil => exact .stop (ih (matchesRunEnd rest ▸ matched))
        | cons c name longer =>
          rw [matchesRunMore, Bool.or_eq_true] at matched
          exact matched.elim (fun here => .stop (ih here)) fun later => .more (longer later)
      · cases name with
        | nil => rw [matchesOneEnd run] at matched; cases matched
        | cons c name =>
          rw [matchesOne run, Bool.and_eq_true] at matched
          exact .one run matched.1 (ih matched.2)
  · intro matched
    induction matched with
    | ended => rfl
    | @stop rest name _ ih =>
      cases name with
      | nil => rw [matchesRunEnd, ih]
      | cons c name => rw [matchesRunMore, ih, Bool.true_or]
    | more _ ih => rw [matchesRunMore, ih, Bool.or_true]
    | one single accepted _ ih => rw [matchesOne single, accepted, ih, Bool.and_self]

theorem matchesLiteral {literal name : Text} : Matches (literal.map .exactly) name ↔ name = literal := by
  induction literal generalizing name with
  | nil =>
    constructor
    · rintro ⟨⟩
      rfl
    · rintro rfl
      exact .ended
  | cons c rest ih =>
    constructor
    · rintro (_ | _ | _ | ⟨_, accepted, onward⟩)
      rw [ih.mp onward]
      simp only [Glyph.accepts, decide_eq_true_eq] at accepted
      rw [accepted]
    · rintro rfl
      exact .one (by simp) (by simp [Glyph.accepts]) (ih.mpr rfl)

theorem matchesSuffix {literal name : Text} :
    Matches (.run :: literal.map .exactly) name ↔ literal <:+ name := by
  constructor
  · intro matched
    generalize glyphs : Glyph.run :: literal.map .exactly = pattern at matched
    induction matched with
    | ended => cases glyphs
    | stop onward => cases glyphs; exact matchesLiteral.mp onward ▸ List.suffix_rfl
    | more _ ih => exact (ih glyphs).trans (List.suffix_cons _ _)
    | one single => cases glyphs; exact absurd rfl single
  · rintro ⟨before, rfl⟩
    induction before with
    | nil => exact .stop (matchesLiteral.mpr rfl)
    | cons c rest ih => exact .more ih

/-! A star in front of a text without wild characters. -/
def Literal (text : Text) : Prop := ∀ c ∈ text, Pattern.isWild c = false ∧ c ≠ '/'

theorem splitAtNone {separator : Char} {text : Text} (absent : separator ∉ text) :
    splitAt separator text = [text] := by
  induction text with
  | nil => rfl
  | cons c rest ih =>
    have other : c ≠ separator := fun same => absent (same ▸ List.mem_cons_self)
    rw [splitAt, if_neg other, ih fun member => absent (.tail _ member)]

theorem glyphsLiteral {text : Text} (literal : Literal text) {fuel : Nat}
    (enough : text.length ≤ fuel) : glyphsWithin fuel text = text.map .exactly := by
  induction text generalizing fuel with
  | nil => cases fuel <;> rfl
  | cons c rest ih =>
    obtain ⟨fuel, rfl⟩ := Nat.exists_eq_succ_of_ne_zero (Nat.ne_of_gt (Nat.zero_lt_of_lt enough))
    have tame := (literal c List.mem_cons_self).1
    simp only [Pattern.isWild, Bool.or_eq_false_iff, decide_eq_false_iff_not] at tame
    obtain ⟨⟨star, mark⟩, bracket⟩ := tame
    have others := ih (fun d member => literal d (.tail _ member)) (Nat.le_of_succ_le_succ enough)
    rw [glyphsWithin, if_neg star, if_neg mark, if_neg bracket, others]
    rfl

theorem twoStarsOnward {c : Char} {text : Text} (other : text.head? ≠ some '*') :
    Pattern.twoStars (c :: text) = Pattern.twoStars text := by
  rw [Pattern.twoStars]
  rintro rest - rfl
  exact other rfl

theorem Literal.head {text : Text} (literal : Literal text) : text.head? ≠ some '*' := by
  intro star
  cases (literal '*' (List.mem_of_head? star)).1

theorem twoStarsLiteral {text : Text} (literal : Literal text) : Pattern.twoStars text = false := by
  induction text with
  | nil => rfl
  | cons c rest ih =>
    have others : Literal rest := fun d member => literal d (.tail _ member)
    rw [twoStarsOnward others.head, ih others]

theorem Pattern.ofStarred {suffix : Text} (literal : Literal suffix) :
    ofText ('*' :: suffix) = .ok ⟨[.like (.run :: suffix.map .exactly)]⟩ := by
  have slashes : '/' ∉ '*' :: suffix := by
    simp only [List.mem_cons, not_or]
    exact ⟨by decide, fun member => (literal '/' member).2 rfl⟩
  have path : Path.ofText ('*' :: suffix) = ⟨[], ['*' :: suffix]⟩ := by
    rw [Path.ofText, splitAtNone slashes]
    simp
  have stars : twoStars ('*' :: suffix) = false := by
    rw [twoStarsOnward literal.head, twoStarsLiteral literal]
  have other : '*' :: suffix ≠ ['*', '*'] := fun same =>
    literal.head (by rw [(List.cons.inj same).2]; rfl)
  have marks : glyphs ('*' :: suffix) = .run :: suffix.map .exactly := by
    rw [glyphs, List.length_cons, glyphsWithin, if_pos rfl, glyphsLiteral literal (Nat.le_refl _)]
  have wild : ('*' :: suffix).any isWild = true := rfl
  have only : level ('*' :: suffix) = .ok (.like (.run :: suffix.map .exactly)) := by
    rw [level, if_neg other, stars, wild, marks]
    rfl
  have last : ('*' :: suffix).getLast? ≠ some '/' := fun slash =>
    slashes (List.mem_of_getLast? slash)
  simp only [ofText, path, ne_eq, not_true_eq_false, if_false, if_neg last, List.mapM_cons,
    List.mapM_nil, only]
  rfl

end SourceExcerpt.Command
