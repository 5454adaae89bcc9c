import SourceExcerpt.Fault
/-! A query of a stateful value: an answer or a fault, and the value afterwards. What a query
did to the value before it failed is kept. -/
namespace SourceExcerpt

structure Query (σ α : Type) where
  run : σ → Except Fault α × σ

namespace Query

def answer (a : α) : Query σ α := ⟨fun s => (.ok a, s)⟩

def fail (fault : Fault) : Query σ α := ⟨fun s => (.error fault, s)⟩

def followedBy (first : Query σ α) (next : α → Query σ β) : Query σ β :=
  ⟨fun s =>
    match first.run s with
    | (.ok a, s') => (next a).run s'
    | (.error fault, s') => (.error fault, s')⟩

instance : Monad (Query σ) where
  pure := answer
  bind := followedBy

def current : Query σ σ := ⟨fun s => (.ok s, s)⟩

def ofExcept (result : Except Fault α) : Query σ α := ⟨fun s => (result, s)⟩

@[simp] theorem pureRun (a : α) (s : σ) : (pure a : Query σ α).run s = (.ok a, s) := rfl

@[simp] theorem failRun (fault : Fault) (s : σ) :
    (fail fault : Query σ α).run s = (.error fault, s) := rfl

@[simp] theorem currentRun (s : σ) : current.run s = (.ok s, s) := rfl

@[simp] theorem ofExceptRun (result : Except Fault α) (s : σ) :
    (ofExcept result : Query σ α).run s = (result, s) := rfl

theorem bindRun (first : Query σ α) (next : α → Query σ β) (s : σ) :
    (first >>= next).run s =
      match first.run s with
      | (.ok a, s') => (next a).run s'
      | (.error fault, s') => (.error fault, s') := rfl

theorem bindOk {first : Query σ α} {next : α → Query σ β} {s s' : σ} {a : α}
    (h : first.run s = (.ok a, s')) : (first >>= next).run s = (next a).run s' := by
  rw [bindRun, h]

theorem bindError {first : Query σ α} {next : α → Query σ β} {s s' : σ} {fault : Fault}
    (h : first.run s = (.error fault, s')) : (first >>= next).run s = (.error fault, s') := by
  rw [bindRun, h]

theorem mapRun (query : Query σ α) (f : α → β) (s : σ) :
    (query >>= fun a => pure (f a)).run s = ((query.run s).1.map f, (query.run s).2) := by
  rw [bindRun]
  split <;> rename_i answered <;> rw [answered] <;> rfl

theorem bindAnswered {first : Query σ α} {next : α → Query σ β} {s t : σ} {b : β}
    (h : (first >>= next).run s = (.ok b, t)) :
    ∃ a s', first.run s = (.ok a, s') ∧ (next a).run s' = (.ok b, t) := by
  rw [bindRun] at h
  split at h
  · rename_i a s' answered
    exact ⟨a, s', answered, h⟩
  · cases h

def each (query : α → Query σ β) : List α → Query σ (List β)
  | [] => return []
  | a :: rest => do
    let b ← query a
    let bs ← each query rest
    return b :: bs

theorem eachLength {query : α → Query σ β} {as : List α} {bs : List β} {s t : σ}
    (h : (each query as).run s = (.ok bs, t)) : bs.length = as.length := by
  induction as generalizing bs s with
  | nil => cases h; rfl
  | cons a rest ih =>
    obtain ⟨b, s', _, h⟩ := bindAnswered h
    obtain ⟨tail, s'', last, h⟩ := bindAnswered h
    cases h
    simpa using ih last

end Query
end SourceExcerpt
