import SourceExcerpt.Command.Path
import SourceExcerpt.Text.Utf8
/-! Files and directories below one top. A directory is there if it was made, if something is in
it, or if the working directory is. Places are lists of names from the top. A name too long is
noticed where it is looked for, so only if the names before it lead to a directory. -/
namespace SourceExcerpt.Command
open Text

inductive DeadEnd where
  | nothing
  | tooLong
  deriving DecidableEq, Repr

structure Entry where
  names : List Text
  contents : Option Utf8.Bytes
  deriving DecidableEq, Repr

structure FileTree where
  working : List Text
  entries : List Entry
  deriving DecidableEq, Repr

namespace FileTree

def isDirectory (tree : FileTree) (place : List Text) : Bool :=
  place.isPrefixOf tree.working || tree.entries.any fun entry =>
    if entry.names = place then entry.contents = none
    else place.isPrefixOf entry.names

def bytesAt (tree : FileTree) (place : List Text) : Option Utf8.Bytes := do
  let entry ← tree.entries.find? fun entry => entry.names = place ∧ entry.contents.isSome
  entry.contents

def step (here : List Text) (name : Text) : List Text :=
  if name = ['.', '.'] then here.dropLast else here ++ [name]

def follow (tree : FileTree) (here : List Text) : List Text → Except DeadEnd (List Text)
  | [] => .ok here
  | name :: rest =>
    if Path.nameTooLong name then .error .tooLong
    else
      let next := step here name
      if rest = [] ∨ tree.isDirectory next then follow tree next rest else .error .nothing

/- No name holds a NUL. A path that is too long as a whole is not followed at all. -/
def locate (tree : FileTree) (path : Path) : Except DeadEnd (List Text) :=
  if path.render.contains '\x00' then .error .nothing
  else if path.isTooLong then .error .tooLong
  else tree.follow (if path.lead = [] then tree.working else []) path.names

def read (tree : FileTree) (path : Path) : Except DeadEnd Utf8.Bytes := do
  match tree.bytesAt (← tree.locate path) with
  | some bytes => return bytes
  | none => throw .nothing

def directory (tree : FileTree) (path : Path) : Except DeadEnd (List Text) := do
  let place ← tree.locate path
  if tree.isDirectory place then return place else throw .nothing

def known (tree : FileTree) : List (List Text) := tree.working :: tree.entries.map Entry.names

def directories (tree : FileTree) : List (List Text) :=
  let places := tree.known.flatMap fun names => (List.range (names.length + 1)).map names.take
  places.eraseDups.filter tree.isDirectory

def namesIn (tree : FileTree) (place : List Text) : List Text :=
  (tree.known.filterMap fun names =>
    if place.isPrefixOf names then (names.drop place.length).head? else none).eraseDups

end FileTree
end SourceExcerpt.Command
