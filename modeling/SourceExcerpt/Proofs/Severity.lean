import SourceExcerpt.Proofs.Independence
/-! Errors and warnings, counted in diagnostics and read off their messages. Groups of diagnostics are
shown one after the other, and the category of a message is that of its diagnostic, so both ways to tell
whether there is an error agree. -/
namespace SourceExcerpt
open Text

/-! Queries of a list in groups. -/
namespace Query
variable {query : α → Query σ β} {s t : σ}

theorem eachAppend {first second : List α} {bs : List β}
    (answered : (each query (first ++ second)).run s = (.ok bs, t)) :
    ∃ left right between, (each query first).run s = (.ok left, between) ∧
      (each query second).run between = (.ok right, t) ∧ bs = left ++ right := by
  induction first generalizing s bs with
  | nil => exact ⟨[], bs, s, rfl, answered, rfl⟩
  | cons a rest ih =>
    obtain ⟨b, next, here, answered⟩ := bindAnswered answered
    obtain ⟨others, last, later, answered⟩ := bindAnswered answered
    cases answered
    obtain ⟨left, right, between, start, stop, rfl⟩ := ih later
    exact ⟨b :: left, right, between, (bindOk here).trans (bindOk start), stop, rfl⟩

theorem eachFlatten {groups : List (List α)} {bs : List β}
    (answered : (each query groups.flatten).run s = (.ok bs, t)) :
    ∃ parts, (each (each query) groups).run s = (.ok parts, t) ∧ bs = parts.flatten := by
  induction groups generalizing s bs with
  | nil => cases answered; exact ⟨[], rfl, rfl⟩
  | cons group rest ih =>
    obtain ⟨left, right, between, start, stop, rfl⟩ := eachAppend answered
    obtain ⟨parts, later, rfl⟩ := ih stop
    exact ⟨left :: parts, (bindOk start).trans (bindOk later), rfl⟩

theorem eachMapped {f : α → γ} {g : β → γ}
    (kept : ∀ {a b s t}, (query a).run s = (.ok b, t) → g b = f a) {as : List α} {bs : List β}
    (answered : (each query as).run s = (.ok bs, t)) : bs.map g = as.map f := by
  induction as generalizing s bs with
  | nil => cases answered; rfl
  | cons a rest ih =>
    obtain ⟨b, next, here, answered⟩ := bindAnswered answered
    obtain ⟨others, last, later, answered⟩ := bindAnswered answered
    cases answered
    simp only [List.map_cons, kept here, ih later]

end Query

/-! What a message keeps of its diagnostic. -/
namespace Message

theorem ofDiagnosticKeeps [Buffer σ] {limits : Limits} {d : Diagnostic} {m : Message}
    {store after : Store σ} (answered : (ofDiagnostic limits d).run store = (.ok m, after)) :
    m.category = categoryOf d ∧ m.id = some d.id := by
  obtain ⟨own, between, built, answered⟩ := Query.bindAnswered answered
  cases answered
  obtain ⟨primary, _, _, built⟩ := Query.bindAnswered built
  obtain ⟨secondary, _, _, built⟩ := Query.bindAnswered built
  cases built
  exact ⟨rfl, rfl⟩

theorem categoryError {d : Diagnostic} : categoryOf d = "Error".toList ↔ d.isWarning = false := by
  unfold categoryOf
  cases d.isWarning <;> decide

theorem categoryWarning {d : Diagnostic} : categoryOf d = "Warning".toList ↔ d.isWarning = true := by
  unfold categoryOf
  cases d.isWarning <;> decide

end Message

namespace Diagnostic

theorem containErrorsMember {ds : List Diagnostic} :
    containErrors ds = true ↔ ∃ d ∈ ds, d.isWarning = false := by
  simp [containErrors]

theorem onlyWarningsMember {ds : List Diagnostic} :
    onlyWarnings ds = true ↔ ∀ d ∈ ds, d.isWarning = true := by
  simp [onlyWarnings]

theorem containErrorsNot (ds : List Diagnostic) : containErrors ds = !onlyWarnings ds := by
  induction ds with
  | nil => rfl
  | cons d rest ih =>
    have head : containErrors (d :: rest) = (!d.isWarning || containErrors rest) := rfl
    have only : onlyWarnings (d :: rest) = (d.isWarning && onlyWarnings rest) := rfl
    rw [head, only, ih, Bool.not_and]

end Diagnostic

section
variable [Buffer σ] {limits : Limits} {ds : List Diagnostic} {ms : List Message}
  {store after : Store σ} (answered : (Message.ofDiagnostics limits ds).run store = (.ok ms, after))
include answered

theorem categoriesShown : ms.map Message.category = ds.map Message.categoryOf :=
  Query.eachMapped (fun built => (Message.ofDiagnosticKeeps built).1) answered

theorem errorShown :
    (∃ m ∈ ms, m.category = "Error".toList) ↔ Diagnostic.containErrors ds = true := by
  have told : "Error".toList ∈ ms.map Message.category ↔
      "Error".toList ∈ ds.map Message.categoryOf := by rw [categoriesShown answered]
  simpa only [List.mem_map, Message.categoryError, ← Diagnostic.containErrorsMember] using told

theorem onlyWarningsShown :
    (∀ m ∈ ms, m.category = "Warning".toList) ↔ Diagnostic.onlyWarnings ds = true := by
  have told : (∀ category ∈ ms.map Message.category, category = "Warning".toList) ↔
      ∀ category ∈ ds.map Message.categoryOf, category = "Warning".toList := by
    rw [categoriesShown answered]
  simpa only [List.forall_mem_map, Message.categoryWarning, ← Diagnostic.onlyWarningsMember] using told

end

/- Where extraction alone succeeds for all that is shown, so do all the messages. -/
theorem messagesAnswered {limits : Limits} {ds : List Diagnostic} {store : Store Document}
    (extracted : ∀ d ∈ ds, ∀ note ∈ d.shown, faultAt limits store note = none) :
    ∃ ms after, (Message.ofDiagnostics limits ds).run store = (.ok ms, after) := by
  have noFault : (ds.flatMap fun d => d.shown).findSome? (faultAt limits store) = none := by
    refine List.findSome?_eq_none_iff.mpr fun note member => ?_
    obtain ⟨d, inside, shown⟩ := List.mem_flatMap.mp member
    exact extracted d inside note shown
  rw [← diagnosticsFault documentSteady] at noFault
  cases ran : (Message.ofDiagnostics limits ds).run store with
  | mk outcome after =>
    cases outcome with
    | ok ms => exact ⟨ms, after, rfl⟩
    | error fault => rw [ran] at noFault; cases noFault

theorem severityAgrees (limits : Limits) (groups : List (List Diagnostic)) :
    (∀ (σ : Type) [Buffer σ] (store after : Store σ) (ms : List Message),
      (Message.ofDiagnostics limits (Diagnostic.collect groups)).run store = (.ok ms, after) →
      (∃ parts, (Query.each (Message.ofDiagnostics limits) groups).run store = (.ok parts, after) ∧
        ms = parts.flatten) ∧
      ms.map Message.id = (Diagnostic.collect groups).map (fun d => some d.id) ∧
      ((∃ m ∈ ms, m.category = "Error".toList) ↔
        Diagnostic.containErrors (Diagnostic.collect groups) = true) ∧
      ((∀ m ∈ ms, m.category = "Warning".toList) ↔
        Diagnostic.onlyWarnings (Diagnostic.collect groups) = true)) ∧
    (∀ store : Store Document,
      (∀ d ∈ Diagnostic.collect groups, ∀ note ∈ d.shown, faultAt limits store note = none) →
      ∃ (parts : List (List Message)) (after : Store Document), parts.length = groups.length ∧
        (Message.ofDiagnostics limits (Diagnostic.collect groups)).run store =
          (.ok parts.flatten, after) ∧
        ∀ (i : Nat) group, groups[i]? = some group → ∃ part, parts[i]? = some part ∧
          ((Message.ofDiagnostics limits group).run store).1 = .ok part) ∧
    (Diagnostic.containErrors (Diagnostic.collect groups) = true ↔
      ∃ group ∈ groups, Diagnostic.containErrors group = true) ∧
    (Diagnostic.onlyWarnings (Diagnostic.collect groups) = true ↔
      ∀ group ∈ groups, Diagnostic.onlyWarnings group = true) ∧
    Diagnostic.containErrors (Diagnostic.collect groups) =
      !Diagnostic.onlyWarnings (Diagnostic.collect groups) := by
  refine ⟨?_, ?_, ?_, ?_, Diagnostic.containErrorsNot _⟩
  · intro σ _ store after ms answered
    exact ⟨Query.eachFlatten answered,
      Query.eachMapped (fun built => (Message.ofDiagnosticKeeps built).2) answered,
      errorShown answered, onlyWarningsShown answered⟩
  · intro store extracted
    obtain ⟨ms, after, answered⟩ := messagesAnswered extracted
    obtain ⟨parts, ran, rfl⟩ := Query.eachFlatten answered
    refine ⟨parts, after, Query.eachLength ran, answered, ?_⟩
    intro i group found
    have steady := Query.steadyEach (diagnosticSteady documentSteady limits)
    exact Query.eachAlone steady (congrArg Prod.fst ran) found
  · rw [Diagnostic.containErrorsCollect, List.any_eq_true]
  · rw [Diagnostic.onlyWarningsCollect, List.all_eq_true]

/- A warning and an error with a note, about one document, with a group of nothing between them. -/
theorem severityAgreesShared :
    ∃ (store after : Store Document) (warned failed : Diagnostic) (parts : List (List Message)),
      store = [Document.ofText ['a'] ['x']] ∧ warned.kind = .warning ∧ failed.kind = .typeError ∧
      warned.shown = [⟨[], some ⟨some 0, ⟨0, 1, by decide, by decide⟩⟩⟩] ∧
      failed.shown = [⟨[], none⟩, ⟨['n'], some ⟨some 0, ⟨0, 1, by decide, by decide⟩⟩⟩] ∧
      (∀ d ∈ Diagnostic.collect [[warned], [], [failed]], ∀ note ∈ d.shown,
        faultAt Limits.standard store note = none) ∧
      (Message.ofDiagnostics Limits.standard [warned, failed]).run store =
        (.ok parts.flatten, after) ∧
      after ≠ store ∧ parts.length = 3 ∧
      (∃ part, parts[2]? = some part ∧
        ((Message.ofDiagnostics Limits.standard [failed]).run store).1 = .ok part) ∧
      parts.flatten.map Message.id = [some ['1'], some ['2']] ∧
      (∃ m ∈ parts.flatten, m.category = "Error".toList) ∧
      ¬ (∀ m ∈ parts.flatten, m.category = "Warning".toList) := by
  let store : Store Document := [Document.ofText ['a'] ['x']]
  let place : Location := ⟨some 0, ⟨0, 1, by decide, by decide⟩⟩
  let warned : Diagnostic := ⟨⟨none, some place, none⟩, ['1'], .warning⟩
  let failed : Diagnostic := ⟨⟨none, none, some [⟨['n'], some place⟩]⟩, ['2'], .typeError⟩
  have extracted : ∀ d ∈ Diagnostic.collect [[warned], [], [failed]], ∀ note ∈ d.shown,
      faultAt Limits.standard store note = none := by decide
  have changed : ((Message.ofDiagnostics Limits.standard [warned, failed]).run store).2 ≠ store := by
    decide
  obtain ⟨agree, answer, _⟩ := severityAgrees Limits.standard [[warned], [], [failed]]
  obtain ⟨parts, after, count, ran, alone⟩ := answer store extracted
  obtain ⟨_, ids, errors, warnings⟩ := agree Document store after parts.flatten ran
  have moved : after ≠ store := by
    intro same
    exact changed ((congrArg Prod.snd ran).trans same)
  refine ⟨store, after, warned, failed, parts, rfl, rfl, rfl, rfl, rfl, extracted, ran, moved, count,
    alone 2 [failed] rfl, ids, errors.mpr rfl, ?_⟩
  intro all
  cases warnings.mp all

end SourceExcerpt
