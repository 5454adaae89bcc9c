import SourceExcerpt.Span.Steps
/-! Spans over runs of steps. A machine of plain bounds takes every run in the same way: it knows
nothing of the bounds that it holds, and checks those that a step asks for, wherever they come from.
That check alone keeps bounds in order, and it never refuses to cover what has passed it. -/
namespace SourceExcerpt.Span

def Outcome.refusal : Outcome → Option Refusal
  | .ok _ => none
  | .error r => some r

/- What is seen of a span that was not known to be one. -/
def plain (entry : Outcome × Option Span) : Option Refusal × Option (Int × Int) :=
  (Outcome.refusal entry.1, entry.2.map bounds)

namespace Plain

def Valid (b : Int × Int) : Prop := 0 ≤ b.1 ∧ b.1 ≤ b.2

def check (start stop : Int) : Except Refusal (Int × Int) :=
  if start < 0 ∨ stop < 0 then .error (.fault .negativeBound)
  else if stop < start then .error (.fault .crossedBounds)
  else .ok (start, stop)

def held : Option (Int × Int) → Except Refusal (Int × Int)
  | none => .error .noSpan
  | some b => .ok b

/- The bounds that a step leaves if it is not refused. A question leaves those it is asked of. -/
def asked (current : Option (Int × Int)) : Step → Except Refusal (Int × Int)
  | .new start stop => check start stop
  | .ofLength offset length => check offset (offset + length)
  | .emptyAt offset => check offset offset
  | .shift delta => do
    let b ← held current
    check (b.1 + delta) (b.2 + delta)
  | .cover start stop => do
    let b ← held current
    let other ← check start stop
    check (min b.1 other.1) (max b.2 other.2)
  | .compare start stop => do
    let b ← held current
    let _ ← check start stop
    return b
  | _ => held current

def settle (current : Option (Int × Int)) :
    Except Refusal (Int × Int) → Option Refusal × Option (Int × Int)
  | .ok b => (none, some b)
  | .error r => (some r, current)

def step (current : Option (Int × Int)) (s : Step) : Option Refusal × Option (Int × Int) :=
  settle current (asked current s)

def run (current : Option (Int × Int)) : List Step → List (Option Refusal × Option (Int × Int))
  | [] => []
  | s :: rest => step current s :: run (step current s).2 rest

/-! Whatever passes the check is in order, so a run never holds anything else. -/
theorem checkedValid {start stop : Int} {b : Int × Int} (ok : check start stop = .ok b) :
    Valid b := by
  unfold check at ok
  split at ok <;> try contradiction
  split at ok <;> try contradiction
  cases ok
  simp only [Valid]
  omega

def Holds (current : Option (Int × Int)) : Prop := ∀ b, current = some b → Valid b

theorem heldValid {current : Option (Int × Int)} {b : Int × Int} (valid : Holds current)
    (ok : held current = .ok b) : Valid b := by
  cases current with
  | none => cases ok
  | some own => cases ok; exact valid _ rfl

theorem bindOk {first : Except Refusal α} {next : α → Except Refusal β} {b : β}
    (ok : (first >>= next) = .ok b) : ∃ a, first = .ok a ∧ next a = .ok b := by
  cases first with
  | error r => cases ok
  | ok a => exact ⟨a, rfl, ok⟩

theorem askedValid {current : Option (Int × Int)} (valid : Holds current) {s : Step}
    {b : Int × Int} (ok : asked current s = .ok b) : Valid b := by
  cases s with
  | new start stop => exact checkedValid ok
  | ofLength offset length => exact checkedValid ok
  | emptyAt offset => exact checkedValid ok
  | shift delta =>
    obtain ⟨own, _, ok⟩ := bindOk ok
    exact checkedValid ok
  | cover start stop =>
    obtain ⟨own, _, ok⟩ := bindOk ok
    obtain ⟨other, _, ok⟩ := bindOk ok
    exact checkedValid ok
  | compare start stop =>
    obtain ⟨own, kept, ok⟩ := bindOk ok
    obtain ⟨other, _, ok⟩ := bindOk ok
    cases ok
    exact heldValid valid kept
  | _ => exact heldValid valid ok

theorem stepHolds {current : Option (Int × Int)} (valid : Holds current) (s : Step) :
    Holds (step current s).2 := by
  unfold step
  cases ran : asked current s with
  | ok b =>
    intro own same
    cases same
    exact askedValid valid ran
  | error r => exact valid

theorem runHolds {current : Option (Int × Int)} (valid : Holds current) (steps : List Step) :
    ∀ entry ∈ run current steps, Holds entry.2 := by
  induction steps generalizing current with
  | nil => simp [run]
  | cons s rest ih =>
    have here := stepHolds valid s
    intro entry member
    rcases List.mem_cons.mp member with rfl | later
    · exact here
    · exact ih here entry later

end Plain

/-! The simulation. -/
theorem checkPlain (start stop : Int) : Plain.check start stop =
    match ofBounds start stop with
    | .ok span => .ok span.bounds
    | .error f => .error (.fault f) := by
  unfold Plain.check ofBounds
  split
  · rfl
  · split <;> rfl

theorem checkSelf (span : Span) : Plain.check span.start span.stop = .ok span.bounds := by
  rw [checkPlain, ofBoundsSelf]

theorem replacePlain (current : Option Span) (start stop : Int) :
    Plain.settle (current.map bounds) (Plain.check start stop) =
      plain (replace current (ofBounds start stop)) := by
  rw [checkPlain]
  cases ofBounds start stop <;> rfl

theorem stepPlain (current : Option Span) (s : Step) :
    Plain.step (current.map bounds) s = plain (step current s) := by
  cases s with
  | new start stop => exact replacePlain current start stop
  | ofLength offset length => exact replacePlain current offset (offset + length)
  | emptyAt offset => exact replacePlain current offset offset
  | shift delta =>
    cases current with
    | none => rfl
    | some span => exact replacePlain (some span) (span.start + delta) (span.stop + delta)
  | cover start stop =>
    cases current with
    | none => rfl
    | some span =>
      have passed := checkPlain start stop
      simp only [step, withCurrent, Plain.step, Plain.asked]
      cases built : ofBounds start stop with
      | error f => rw [built] at passed; rw [passed]; rfl
      | ok other =>
        rw [built] at passed
        rw [passed]
        exact congrArg (Plain.settle _) (checkSelf (span.cover other))
  | compare start stop =>
    cases current with
    | none => rfl
    | some span =>
      have passed := checkPlain start stop
      simp only [step, withCurrent, Plain.step, Plain.asked]
      cases built : ofBounds start stop <;> rw [built] at passed <;> rw [passed] <;> rfl
  | _ => cases current <;> rfl

theorem runPlain (current : Option Span) (steps : List Step) :
    Plain.run (current.map bounds) steps = (run current steps).map plain := by
  induction steps generalizing current with
  | nil => rfl
  | cons s rest ih =>
    have later : Plain.run (plain (step current s)).2 rest = (run (step current s).2 rest).map plain :=
      ih (step current s).2
    simp only [Plain.run, run, List.map_cons, stepPlain, later]

/-! The span that a run has come to. -/
def after (current : Option Span) (steps : List Step) : Option Span :=
  steps.foldl (fun span s => (step span s).2) current

theorem runAt (current : Option Span) (before : List Step) (s : Step) (rest : List Step) :
    (run current (before ++ s :: rest))[before.length]? = some (step (after current before) s) := by
  induction before generalizing current with
  | nil => rfl
  | cons first before ih => exact ih (step current first).2

/-! When a step is refused, and what it is told. -/
def Refused (current : Option Span) (s : Step) : Prop := ∃ r, (step current s).1 = .error r

def ToldNegative (current : Option Span) (s : Step) : Prop :=
  ∃ f, (step current s).1 = .error (.fault f) ∧
    f.message = "TextRange positions cannot be negative".toList

theorem refusedKeeps {current : Option Span} {s : Step} (refused : Refused current s) :
    (step current s).2 = current := by
  obtain ⟨r, refused⟩ := refused
  exact stepError (Prod.ext refused rfl)

theorem replaceError {current : Option Span} {result : Except Fault Span} {r : Refusal} :
    (replace current result).1 = .error r ↔ ∃ f, result = .error f ∧ r = .fault f := by
  cases result <;> simp [replace, eq_comm]

section
variable {current : Option Span} {s : Step} {start stop : Int}
  (asks : step current s = replace current (ofBounds start stop))
include asks

theorem refusedBounds : Refused current s ↔ start < 0 ∨ stop < 0 ∨ stop < start := by
  simp only [Refused, asks, replaceError, boundsFault]
  constructor
  · rintro ⟨_, f, ⟨_, negative⟩ | ⟨_, crossed⟩, _⟩ <;> omega
  · intro bad
    by_cases negative : start < 0 ∨ stop < 0
    · exact ⟨_, _, .inl ⟨rfl, negative⟩, rfl⟩
    · exact ⟨_, _, .inr ⟨rfl, by omega, by omega⟩, rfl⟩

theorem toldNegativeBounds : ToldNegative current s ↔ start < 0 ∨ stop < 0 := by
  simp only [ToldNegative, asks, replaceError, boundsFault, Refusal.fault.injEq]
  constructor
  · rintro ⟨f, ⟨_, ⟨rfl, negative⟩ | ⟨rfl, _⟩, rfl⟩, told⟩
    · exact negative
    · exact absurd told (by decide)
  · intro negative
    exact ⟨_, ⟨_, .inl ⟨rfl, negative⟩, rfl⟩, rfl⟩

theorem refusedOrdered (ordered : start ≤ stop) :
    (Refused current s ↔ start < 0) ∧ (Refused current s → ToldNegative current s) := by
  have refused := refusedBounds asks
  have told := toldNegativeBounds asks
  constructor
  · exact refused.trans (by omega)
  · intro refusal
    have bad := refused.mp refusal
    exact told.mpr (by omega)

end

theorem refusedLength {current : Option Span} {offset length : Int} :
    Refused current (.ofLength offset length) ↔ offset < 0 ∨ length < 0 := by
  have refused : Refused current (.ofLength offset length) ↔
      offset < 0 ∨ offset + length < 0 ∨ offset + length < offset := refusedBounds rfl
  exact refused.trans (by omega)

/- Shifted bounds are still in order, so that they can only be negative. -/
theorem refusedShift (span : Span) (delta : Int) :
    (Refused (some span) (.shift delta) ↔ span.start + delta < 0) ∧
      (Refused (some span) (.shift delta) → ToldNegative (some span) (.shift delta)) :=
  refusedOrdered rfl (Int.add_le_add_right span.ordered delta)

/-! Covering two spans. -/
def Encloses (outer inner : Span) : Prop := outer.start ≤ inner.start ∧ inner.stop ≤ outer.stop

theorem coverLeft (a b : Span) : (a.cover b).Encloses a := by
  simp only [Encloses, cover]
  omega

theorem coverRight (a b : Span) : (a.cover b).Encloses b := by
  simp only [Encloses, cover]
  omega

theorem coverLeast {a b outer : Span} (left : outer.Encloses a) (right : outer.Encloses b) :
    outer.Encloses (a.cover b) := by
  simp only [Encloses, cover] at *
  omega

theorem coverStep (span : Span) (start stop : Int) : step (some span) (.cover start stop) =
    replace (some span) ((ofBounds start stop).map span.cover) := rfl

theorem coverError {span : Span} {start stop : Int} {r : Refusal} :
    (step (some span) (.cover start stop)).1 = .error r ↔
      ∃ f, ofBounds start stop = .error f ∧ r = .fault f := by
  rw [coverStep, replaceError]
  cases ofBounds start stop <;> simp [Except.map]

theorem coverBuilt {span : Span} {start stop : Int} (other : Span)
    (built : ofBounds start stop = .ok other) : ∃ whole,
      step (some span) (.cover start stop) = (.ok .done, some whole) ∧
      whole.Encloses span ∧ whole.Encloses other ∧
      ∀ outer : Span, outer.Encloses span → outer.Encloses other → outer.Encloses whole := by
  refine ⟨span.cover other, ?_, coverLeft span other, coverRight span other, fun outer => coverLeast⟩
  rw [coverStep, built]
  rfl

theorem runsStayValid (initial : Option Span) :
    (∀ steps, Plain.run (initial.map bounds) steps = (run initial steps).map plain ∧
      ∀ refusal b, (refusal, some b) ∈ Plain.run (initial.map bounds) steps → 0 ≤ b.1 ∧ b.1 ≤ b.2) ∧
    (∀ before s rest,
      (run initial (before ++ s :: rest))[before.length]? = some (step (after initial before) s) ∧
      (Refused (after initial before) s →
        (step (after initial before) s).2 = after initial before)) ∧
    ∀ before, let current := after initial before
      (∀ start stop, (Refused current (.new start stop) ↔ start < 0 ∨ stop < 0 ∨ stop < start) ∧
        (ToldNegative current (.new start stop) ↔ start < 0 ∨ stop < 0)) ∧
      (∀ offset length, (Refused current (.ofLength offset length) ↔ offset < 0 ∨ length < 0) ∧
        (ToldNegative current (.ofLength offset length) ↔ offset < 0 ∨ offset + length < 0)) ∧
      (∀ offset, (Refused current (.emptyAt offset) ↔ offset < 0) ∧
        (Refused current (.emptyAt offset) → ToldNegative current (.emptyAt offset))) ∧
      ∀ span, current = some span →
        (∀ delta, (Refused current (.shift delta) ↔ span.start + delta < 0) ∧
          (Refused current (.shift delta) → ToldNegative current (.shift delta))) ∧
        ∀ start stop,
          (∀ r, (step current (.cover start stop)).1 = .error r ↔
            ∃ f, ofBounds start stop = .error f ∧ r = .fault f) ∧
          ∀ other, ofBounds start stop = .ok other → ∃ whole,
            step current (.cover start stop) = (.ok .done, some whole) ∧
            whole.Encloses span ∧ whole.Encloses other ∧
            ∀ outer : Span, outer.Encloses span → outer.Encloses other → outer.Encloses whole := by
  have valid : Plain.Holds (initial.map bounds) := by
    intro b same
    obtain ⟨span, _, rfl⟩ := Option.map_eq_some_iff.mp same
    exact ⟨span.nonnegative, span.ordered⟩
  refine ⟨fun steps => ⟨runPlain initial steps, ?_⟩, ?_, ?_⟩
  · intro refusal b member
    exact Plain.runHolds valid steps _ member b rfl
  · intro before s rest
    exact ⟨runAt initial before s rest, refusedKeeps⟩
  · intro before current
    refine ⟨?_, ?_, ?_, ?_⟩
    · intro start stop
      exact ⟨refusedBounds rfl, toldNegativeBounds rfl⟩
    · intro offset length
      exact ⟨refusedLength, toldNegativeBounds rfl⟩
    · intro offset
      exact refusedOrdered rfl (Int.le_refl offset)
    · intro span here
      rw [here]
      exact ⟨refusedShift span, fun start stop => ⟨fun r => coverError, coverBuilt⟩⟩

/- The shift is refused, and the range that it leaves is covered together with another one. -/
theorem runsStayValidCovered :
    Plain.run none [.new 3 5, .shift (-4), .cover 0 4] =
      [(none, some (3, 5)), (some (.fault .negativeBound), some (3, 5)), (none, some (0, 5))] ∧
    (0 : Int) ≤ 0 ∧ (0 : Int) ≤ 5 ∧
    ToldNegative (after none [.new 3 5]) (.shift (-4)) ∧
    after none [.new 3 5, .shift (-4)] = after none [.new 3 5] ∧
    ∃ whole, step (after none [.new 3 5, .shift (-4)]) (.cover 0 4) = (.ok .done, some whole) ∧
      whole.bounds = (0, 5) ∧ ∀ outer : Span, outer.Encloses ⟨3, 5, by decide, by decide⟩ →
        outer.Encloses ⟨0, 4, by decide, by decide⟩ → outer.Encloses whole := by
  obtain ⟨runs, places, exact⟩ := runsStayValid none
  have plainRun : Plain.run none [.new 3 5, .shift (-4), .cover 0 4] =
      [(none, some (3, 5)), (some (.fault .negativeBound), some (3, 5)), (none, some (0, 5))] := rfl
  obtain ⟨low, ordered⟩ := (runs [.new 3 5, .shift (-4), .cover 0 4]).2 none (0, 5) (by decide)
  have shifted := (exact [.new 3 5]).2.2.2 ⟨3, 5, by decide, by decide⟩ rfl
  have refusal := (shifted.1 (-4)).1.mpr (by decide)
  have covered := (exact [.new 3 5, .shift (-4)]).2.2.2 ⟨3, 5, by decide, by decide⟩ rfl
  obtain ⟨whole, built, _, _, least⟩ :=
    (covered.2 0 4).2 ⟨0, 4, by decide, by decide⟩ rfl
  have bounds : whole.bounds = (0, 5) := by
    cases built
    rfl
  exact ⟨plainRun, low, ordered, (shifted.1 (-4)).2 refusal,
    (places [.new 3 5] (.shift (-4)) []).2 refusal, whole, built, bounds, least⟩

end SourceExcerpt.Span
