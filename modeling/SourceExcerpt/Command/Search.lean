import SourceExcerpt.Command.FileTree
import SourceExcerpt.Command.Pattern
/-! The files that a pattern means, looked for level by level. What is found is kept as it is
written: `..` may lead to one file on several ways, and each of them counts, once. A path that is
too long to be asked for ends the search; of several such paths the one that is come upon first
counts. -/
namespace SourceExcerpt.Command
open Text

structure Trail where
  path : Path
  place : List Text
  deriving DecidableEq, Repr

def Trail.onward (t : Trail) (name : Text) : Trail :=
  ⟨t.path.onward [name], FileTree.step t.place name⟩

/-- What a search comes upon. Lists of these are in the order of the search, a directory before
what is in it. -/
inductive Find where
  | trail (t : Trail)
  | tooLong (path : Path)
  deriving DecidableEq, Repr

namespace FileTree

def downward (tree : FileTree) (t : Trail) : List Trail :=
  (tree.directories.filter fun place => t.place.isPrefixOf place).map fun place =>
    ⟨t.path.onward (place.drop t.place.length), place⟩

def listing (t : Trail) (finds : List Find) : List Find :=
  if t.path.isTooLong then [.tooLong t.path] else finds

def ask (wanted : List Text → Bool) (t : Trail) (name : Text) : List Find :=
  let next := t.onward name
  if name.contains '\x00' then []
  else if Path.nameTooLong name || next.path.isTooLong then [.tooLong next.path]
  else if wanted next.place then [.trail next] else []

def isThere (tree : FileTree) (place : List Text) : Bool :=
  tree.isDirectory place || (tree.bytesAt place).isSome

def reach (tree : FileTree) (wanted : List Text → Bool) (t : Trail) : Level → List Find
  | .here => [.trail t]
  | .anyDepth => (tree.downward t).flatMap fun d => .trail d :: listing d []
  | .exactly name => ask wanted t name
  | .like glyphs => listing t (((((tree.namesIn t.place).filter (matchesName glyphs)).map
      t.onward).filter fun next => wanted next.place).map .trail)

def search (tree : FileTree) : List Level → List Find → List Find
  | [], finds => finds
  | level :: rest, finds =>
    let wanted := if rest.isEmpty then tree.isThere else tree.isDirectory
    let reached := finds.flatMap fun
      | .trail t => tree.reach wanted t level
      | .tooLong path => [.tooLong path]
    search tree rest reached.eraseDups

/- The files among what was found, unless a path that is too long comes first. -/
def filesAmong (tree : FileTree) : List Find → Except Path (List (Path × Utf8.Bytes))
  | [] => .ok []
  | .tooLong path :: _ => .error path
  | .trail t :: rest =>
    if t.path.isTooLong then .error t.path
    else match tree.bytesAt t.place with
      | none => filesAmong tree rest
      | some bytes => (filesAmong tree rest).map ((t.path, bytes) :: ·)

def found (tree : FileTree) (root : Path) (here : List Text) (p : Pattern) :
    Except Path (List (Path × Utf8.Bytes)) :=
  tree.filesAmong (tree.search (.anyDepth :: p.levels) [.trail ⟨root, here⟩])

end FileTree
end SourceExcerpt.Command
