import SourceExcerpt.Message
import SourceExcerpt.Proofs.Steady
/-! Messages for many diagnostics over one store. Extractions leave what they read as it was, so a
message does not depend on those made before it, and the first fault is that of the first place, in
the order in which places are shown, where extraction alone fails. -/
namespace SourceExcerpt
open Text

/-! What is shown of a failure, in order: itself first, then its notes. -/
def Failure.shown (f : Failure) : List Note := ⟨f.message, f.location⟩ :: f.notes.getD []

def faultAt [Buffer σ] (limits : Limits) (store : Store σ) (note : Note) : Option Fault :=
  Query.faultOf ((extract limits note.message note.location).run store).1

theorem referenceFault [Buffer σ] (limits : Limits) (store : Store σ) (note : Note) :
    Query.faultOf ((Message.referenceTo limits note.message note.location).run store).1 =
      faultAt limits store note := by
  rw [Message.referenceTo, Query.mapRun, Query.faultOfMap, faultAt]

section
variable {σ τ : Type} [Buffer σ] {view : σ → τ} (steady : Buffer.Steady σ view) (limits : Limits)
open Query (faultOf steadyPure steadyBind steadyEach)
include steady

theorem noteSteady (note : Note) :
    (Message.referenceTo limits note.message note.location : Query (Store σ) Reference).Steady
      (List.map view) :=
  steadyBind (extractSteady steady limits note.message note.location) fun _ => steadyPure _

theorem failureSteady (category : Text) (f : Failure) :
    (Message.ofFailure limits category f : Query (Store σ) Message).Steady (List.map view) :=
  steadyBind (noteSteady steady limits ⟨f.message, f.location⟩) fun _ =>
    steadyBind (steadyEach (noteSteady steady limits) _) fun _ => steadyPure _

theorem diagnosticSteady (d : Diagnostic) :
    (Message.ofDiagnostic limits d : Query (Store σ) Message).Steady (List.map view) :=
  steadyBind (failureSteady steady limits (Message.categoryOf d) d.toFailure) fun _ => steadyPure _

theorem failureFault (category : Text) (f : Failure) (store : Store σ) :
    faultOf ((Message.ofFailure limits category f).run store).1 =
      f.shown.findSome? (faultAt limits store) := by
  have notes := noteSteady steady limits
  have both := Query.bothOutcome (notes ⟨f.message, f.location⟩)
    (steadyEach notes (f.notes.getD []))
    (fun primary secondary => (⟨primary, category, secondary, none⟩ : Message)) store
  have fault := (congrArg faultOf both).trans (Query.faultOfBoth _ _ _)
  rw [Query.eachFault notes, referenceFault] at fault
  refine fault.trans ?_
  rw [Failure.shown, List.findSome?_cons]
  simp only [referenceFault]
  cases faultAt limits store ⟨f.message, f.location⟩ <;> rfl

theorem diagnosticsFault (ds : List Diagnostic) (store : Store σ) :
    faultOf ((Message.ofDiagnostics limits ds).run store).1 =
      (ds.flatMap fun d => d.shown).findSome? (faultAt limits store) := by
  refine (Query.eachFault (diagnosticSteady steady limits) ds store).trans ?_
  induction ds with
  | nil => rfl
  | cons d rest ih =>
    have fault : faultOf ((Message.ofDiagnostic limits d).run store).1 =
        d.shown.findSome? (faultAt limits store) := by
      rw [Message.ofDiagnostic, Query.mapRun, Query.faultOfMap, failureFault steady]
    rw [List.findSome?_cons, List.flatMap_cons, List.findSome?_append, fault, ih]
    cases d.shown.findSome? (faultAt limits store) <;> rfl

end

/-! Messages over documents in any state: lines counted or not, of this text or an earlier one. -/
theorem messagesIndependent (limits : Limits) (ds : List Diagnostic) (store : Store Document) :
    (∀ ms after, (Message.ofDiagnostics limits ds).run store = (.ok ms, after) →
      ms.length = ds.length ∧
      (∀ (i : Nat) d, ds[i]? = some d → ∃ m, ms[i]? = some m ∧
        ((Message.ofDiagnostic limits d).run store).1 = .ok m) ∧
      (∀ order : List Nat,
        ((Message.ofDiagnostics limits (order.filterMap (ds[·]?))).run store).1 =
          .ok (order.filterMap (ms[·]?)))) ∧
    (∀ fault, ((Message.ofDiagnostics limits ds).run store).1 = .error fault ↔
      (ds.flatMap fun d => d.shown).findSome? (faultAt limits store) = some fault) := by
  have steady := diagnosticSteady documentSteady limits
  refine ⟨?_, ?_⟩
  · intro ms after answered
    refine ⟨Query.eachLength answered, ?_, Query.eachPicked steady answered⟩
    intro i d found
    exact Query.eachAlone steady (congrArg Prod.fst answered) found
  · intro fault
    rw [← diagnosticsFault documentSteady]
    exact Query.faultOfSome.symm

/- The line starts of the first document are those of a text it no longer has, and the last
diagnostic has a note that runs past it. -/
theorem messagesIndependentStale :
    ∃ (store after : Store Document) (first second last : Diagnostic) (ms : List Message),
      store = [⟨['a'], ['x'], some [0, 2]⟩, Document.ofText ['b'] ['y', '\n']] ∧
      first.shown = [⟨[], some ⟨some 0, ⟨0, 1, by decide, by decide⟩⟩⟩,
        ⟨['n'], some ⟨some 1, ⟨2, 2, by decide, by decide⟩⟩⟩] ∧
      second.shown = [⟨[], some ⟨some 0, ⟨1, 1, by decide, by decide⟩⟩⟩] ∧
      last.shown = [⟨[], none⟩, ⟨[], some ⟨some 0, ⟨1, 2, by decide, by decide⟩⟩⟩] ∧
      (Message.ofDiagnostics Limits.standard [first, second]).run store = (.ok ms, after) ∧
      after ≠ store ∧
      (∃ m, ms[1]? = some m ∧
        ((Message.ofDiagnostic Limits.standard second).run store).1 = .ok m) ∧
      ((Message.ofDiagnostics Limits.standard [second, first]).run store).1 =
        .ok ([1, 0].filterMap (ms[·]?)) ∧
      ((Message.ofDiagnostics Limits.standard [first, last, second]).run store).1 =
        .error (.offsetOutside 2 ['a'] 1) := by
  let store : Store Document := [⟨['a'], ['x'], some [0, 2]⟩, Document.ofText ['b'] ['y', '\n']]
  let first : Diagnostic := ⟨⟨none, some ⟨some 0, ⟨0, 1, by decide, by decide⟩⟩,
    some [⟨['n'], some ⟨some 1, ⟨2, 2, by decide, by decide⟩⟩⟩]⟩, ['1'], .typeError⟩
  let second : Diagnostic :=
    ⟨⟨none, some ⟨some 0, ⟨1, 1, by decide, by decide⟩⟩, none⟩, ['2'], .warning⟩
  let last : Diagnostic :=
    ⟨⟨none, none, some [⟨[], some ⟨some 0, ⟨1, 2, by decide, by decide⟩⟩⟩]⟩, ['3'], .syntaxError⟩
  obtain ⟨ms, after, ran, changed⟩ : ∃ ms after,
      (Message.ofDiagnostics Limits.standard [first, second]).run store = (.ok ms, after) ∧
        after ≠ store := ⟨_, _, rfl, by decide⟩
  obtain ⟨_, alone, picked⟩ :=
    (messagesIndependent Limits.standard [first, second] store).1 ms after ran
  have faulted := (messagesIndependent Limits.standard [first, last, second] store).2
    (.offsetOutside 2 ['a'] 1)
  exact ⟨store, after, first, second, last, ms, rfl, rfl, rfl, rfl, ran, changed, alone 1 second rfl,
    picked [1, 0], faulted.mpr rfl⟩

end SourceExcerpt
