import SourceExcerpt.Extraction
/-! Counts over documents: how many references their lines give, one for each line, and how
many of those do not show the line as it stands. -/
namespace SourceExcerpt
open Text

structure Census where
  references : Nat
  truncated : Nat
  deriving DecidableEq, Repr

namespace Census

def empty : Census := ⟨0, 0⟩

def add (a b : Census) : Census := ⟨a.references + b.references, a.truncated + b.truncated⟩

def sum (counts : List Census) : Census := counts.foldl add empty

/- A line counts as truncated when its excerpt differs from it in length; a carriage return
dropped from its end is enough. -/
def ofLine (line : Nat) : Query Document Census := do
  let extent ← Document.lineRange line
  let extraction ← extractFrom Limits.standard [] extent
  return ⟨1, if (extraction.reference.text.length : Int) = extent.length then 0 else 1⟩

def ofDocument : Query Document Census := do
  let count ← Document.lineCount
  return sum (← Query.each ofLine (List.range count))

def ofDocuments : List Document → Except Fault Census × List Document
  | [] => (.ok empty, [])
  | d :: rest =>
    match ofDocument.run d with
    | (.error fault, d) => (.error fault, d :: rest)
    | (.ok census, d) =>
      let (others, rest) := ofDocuments rest
      (others.map census.add, d :: rest)

end Census
end SourceExcerpt
