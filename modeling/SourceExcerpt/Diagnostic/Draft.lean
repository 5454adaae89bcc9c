import SourceExcerpt.Diagnostic
/-! Failures and diagnostics as they are written down, before their locations and kinds are
checked. Checking goes note by note, then to the location, then to the kind, and ends at the
first fault. -/
namespace SourceExcerpt
open Text

structure NoteDraft where
  message : Text
  location : LocationDraft
  deriving DecidableEq, Repr

def NoteDraft.check (draft : NoteDraft) : Except Fault Note :=
  draft.location.check.map fun location => ⟨draft.message, location⟩

structure FailureDraft where
  comment : Option Text
  location : LocationDraft
  notes : Option (List NoteDraft)
  deriving DecidableEq, Repr

def FailureDraft.check (draft : FailureDraft) : Except Fault Failure := do
  let notes ← match draft.notes with
    | none => pure none
    | some drafts => (drafts.mapM NoteDraft.check).map some
  let location ← draft.location.check
  return ⟨draft.comment, location, notes⟩

structure DiagnosticDraft extends FailureDraft where
  id : Text
  kind : Text
  deriving DecidableEq, Repr

def DiagnosticDraft.check (draft : DiagnosticDraft) : Except Fault Diagnostic := do
  let failure ← draft.toFailureDraft.check
  let kind ← Kind.ofDisplay draft.kind
  return ⟨failure, draft.id, kind⟩

def checkAll (drafts : List DiagnosticDraft) : Except Fault (List Diagnostic) :=
  drafts.mapM DiagnosticDraft.check

def checkGroups (groups : List (List DiagnosticDraft)) : Except Fault (List (List Diagnostic)) :=
  groups.mapM checkAll

end SourceExcerpt
