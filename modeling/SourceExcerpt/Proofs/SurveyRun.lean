import SourceExcerpt.Command.Survey
import SourceExcerpt.Proofs.Counts
import SourceExcerpt.Proofs.Encoding
import SourceExcerpt.Proofs.Finding
/-! Runs of the command that counts references, over all arguments and all trees of files. Nothing in
a file can make it fail; what it prints are two counts of the texts of the files that the pattern
means, whether or not their bytes are the encoding of a text. -/
namespace SourceExcerpt.Command.Survey
open Text

variable {tree : FileTree} {arguments : List Text} {r : Request} {pattern : Pattern}
  {files : List (Path × Utf8.Bytes)}

def textOf (bytes : Utf8.Bytes) : Text := Lines.unify (Utf8.decodeLenient bytes)

theorem textOfEncoded (text : Text) : textOf (Utf8.encode text) = Lines.unify text :=
  congrArg Lines.unify (Utf8.decodeLenientEncoded text)

theorem textOfPlain (bytes : Utf8.Bytes) : '\r' ∉ textOf bytes := Lines.unifyNoReturn _

def isLong (line : Text) : Bool := 150 < line.length

def counts (texts : List Text) : Census :=
  ⟨(texts.map fun text => 1 + text.count '\n').foldr (· + ·) 0,
    (texts.map fun text => (text.splitOn '\n').countP isLong).foldr (· + ·) 0⟩

theorem countsPlain {texts : List Text} (plain : ∀ text ∈ texts, '\r' ∉ text) :
    Census.ofTexts texts = counts texts := by
  have long {text : Text} (member : text ∈ texts) :
      (text.splitOn '\n').countP Census.counted = (text.splitOn '\n').countP isLong := by
    refine List.countP_congr fun line inside => ?_
    have shown := Lines.plainEnd (plainLine (plain text member) inside)
    simp only [Census.counted, isLong, decide_eq_true_eq, shown, or_false]
  rw [Census.ofTexts, counts]
  congr 2
  exact List.map_congr_left fun text => long

def texts (files : List (Path × Utf8.Bytes)) : List Text := files.map fun file => textOf file.2

def printed (files : List (Path × Utf8.Bytes)) : Outcome :=
  Outcome.success (summary files.length (counts (texts files)))

theorem filesCounted (files : List (Path × Utf8.Bytes)) :
    (Census.ofDocuments (files.map fun (path, bytes) => documentOf path.render bytes)).1 =
      .ok (counts (texts files)) := by
  have upToDate : ∀ d ∈ files.map fun (path, bytes) => documentOf path.render bytes,
      d.starts = Lines.starts d.text := by
    intro d member
    obtain ⟨file, _, rfl⟩ := List.mem_map.mp member
    rfl
  have plain : ∀ text ∈ texts files, '\r' ∉ text := by
    intro text member
    obtain ⟨file, _, rfl⟩ := List.mem_map.mp member
    exact textOfPlain file.2
  rw [Census.documentsCounted upToDate, List.map_map]
  exact congrArg Except.ok (countsPlain plain)

theorem countFiles (r : Request) (files : List (Path × Utf8.Bytes)) : count r files =
    if r.runs = none then Outcome.troubled (.blank .above) else printed files := by
  rw [count, filesCounted]
  cases r.runs <;> rfl

/-! What a survey may come to, and what a path has to do with it. -/
theorem runUnderstood (understood : request arguments = .ok r) {place : List Text}
    (there : tree.directory r.root = .ok place) : run tree arguments = report r tree place := by
  rw [run, understood]
  dsimp only
  rw [there]

theorem runUnopened {e : DeadEnd} (understood : request arguments = .ok r)
    (nowhere : tree.directory r.root = .error e) : run tree arguments = unopened r e := by
  rw [run, understood]
  dsimp only
  rw [nowhere]

theorem reportFound {place : List Text} (read : Pattern.ofText (r.glob.getD []) = .ok pattern)
    (found : tree.found r.root place pattern = .ok files) :
    report r tree place = if files = [] then noFiles r else count r files := by
  rw [report, read]
  dsimp only
  rw [found]
  cases files <;> rfl

inductive Ends (tree : FileTree) (r : Request) : Ending → Prop where
  | counted : Ends tree r (.exit 0)
  | refused : Ends tree r (.exit 1)
  | pattern {f : PatternFault} (misread : Pattern.ofText (r.glob.getD []) = .error f) :
      Ends tree r (.trouble (.pattern f))
  | tooLong {path : Path} (unfit : ¬ path.Fits) : Ends tree r (.trouble (.pathTooLong path))
  | blank (runs : r.runs = none) : Ends tree r (.trouble (.blank .above))

theorem reportEnds (r : Request) (tree : FileTree) (place : List Text) :
    Ends tree r (report r tree place).ending := by
  unfold report
  cases read : Pattern.ofText (r.glob.getD []) with
  | error f => exact .pattern read
  | ok pattern =>
    dsimp only
    cases found : tree.found r.root place pattern with
    | error path => exact .tooLong (FileTree.foundFault found)
    | ok files =>
      cases files with
      | nil => exact .refused
      | cons file rest =>
        dsimp only
        rw [countFiles]
        split
        · exact .blank (by assumption)
        · exact .counted

theorem runEnds (understood : request arguments = .ok r) : Ends tree r (run tree arguments).ending := by
  cases there : tree.directory r.root with
  | ok place =>
    rw [runUnderstood understood there]
    exact reportEnds r tree place
  | error e =>
    rw [runUnopened understood there]
    cases e with
    | nothing => exact .refused
    | tooLong =>
      refine .tooLong fun fits => ?_
      cases FileTree.directoryFault fits there

/-! What stands behind two counts that were printed. -/
structure Counted (tree : FileTree) (r : Request) (o : Outcome) (pattern : Pattern)
    (files : List (Path × Utf8.Bytes)) : Prop where
  fits : r.root.Fits
  there : tree.isDirectory (tree.goal r.root) = true
  read : Pattern.ofText (r.glob.getD []) = .ok pattern
  filled : files ≠ []
  member : ∀ path bytes, (path, bytes) ∈ files ↔ ∃ place,
    FileTree.Walk tree (.anyDepth :: pattern.levels) ⟨r.root, tree.goal r.root⟩ ⟨path, place⟩ ∧
      tree.bytesAt place = some bytes
  outcome : o = printed files

theorem reportSource {place : List Text} (shown : (report r tree place).output ≠ []) :
    ∃ pattern files, Pattern.ofText (r.glob.getD []) = .ok pattern ∧
      tree.found r.root place pattern = .ok files ∧ files ≠ [] ∧
      report r tree place = printed files := by
  cases read : Pattern.ofText (r.glob.getD []) with
  | error f => rw [report, read] at shown; exact absurd rfl shown
  | ok pattern =>
    cases found : tree.found r.root place pattern with
    | error path =>
      rw [report, read] at shown
      dsimp only at shown
      rw [found] at shown
      exact absurd rfl shown
    | ok files =>
      have answer := reportFound read found
      rw [answer] at shown
      split at shown
      · exact absurd rfl shown
      · rename_i filled
        rw [if_neg filled] at answer
        rw [countFiles] at answer shown
        split at shown
        · exact absurd rfl shown
        · rename_i runs
          exact ⟨pattern, files, rfl, found, filled, by rw [answer, if_neg runs]⟩

theorem printedSource (shown : (run tree arguments).output ≠ []) : ∃ r pattern files,
    request arguments = .ok r ∧ Counted tree r (run tree arguments) pattern files := by
  cases understood : request arguments with
  | error halt => rw [run, understood] at shown; cases halt <;> exact absurd rfl shown
  | ok r =>
    cases there : tree.directory r.root with
    | error e =>
      rw [runUnopened understood there] at shown
      cases e <;> exact absurd rfl shown
    | ok place =>
      rw [runUnderstood understood there] at shown ⊢
      obtain ⟨pattern, files, read, found, filled, outcome⟩ := reportSource shown
      obtain ⟨fits, rfl, directory⟩ := FileTree.directorySource there
      exact ⟨r, pattern, files, rfl, fits, directory, read, filled,
        fun _ _ => FileTree.foundExact found, outcome⟩

/-! Files whose names end in one text, as they are looked for unless something else is asked for. -/
structure Request.Starred (r : Request) (suffix : Text) : Prop where
  glob : r.glob = some ('*' :: suffix)
  literal : Literal suffix
  runs : r.runs ≠ none

/-- The trees of a file system, with a root that is in one. -/
structure Searchable (tree : FileTree) (root : Path) : Prop where
  fits : root.Fits
  upward : ['.', '.'] ∉ root.names
  there : tree.isDirectory (tree.goal root) = true
  plain : tree.Plain
  roomy : tree.Roomy root (tree.goal root)

theorem starredExact {suffix : Text} (understood : request arguments = .ok r)
    (starred : r.Starred suffix) (searchable : Searchable tree r.root) :
    ∃ files : List (Path × Utf8.Bytes), (files.map Prod.fst).Nodup ∧
      (∀ path bytes, (path, bytes) ∈ files ↔ ∃ names name, suffix <:+ name ∧
        path = r.root.onward (names ++ [name]) ∧
        tree.bytesAt (tree.goal r.root ++ (names ++ [name])) = some bytes) ∧
      run tree arguments = if files = [] then noFiles r else printed files := by
  have opened : tree.directory r.root = .ok (tree.goal r.root) :=
    (FileTree.directoryExact searchable.upward).mpr ⟨searchable.fits, rfl, searchable.there⟩
  have read : Pattern.ofText (r.glob.getD []) = .ok ⟨[.like (.run :: suffix.map .exactly)]⟩ := by
    rw [starred.glob]
    exact Pattern.ofStarred starred.literal
  obtain ⟨files, found⟩ := FileTree.foundRoomy searchable.plain searchable.roomy searchable.there
    (p := ⟨[.like (.run :: suffix.map .exactly)]⟩) (by simp)
  refine ⟨files, FileTree.foundOnce searchable.plain found, fun path bytes => ?_, ?_⟩
  · simp only [FileTree.foundNamed searchable.plain found, matchesSuffix]
  · rw [runUnderstood understood opened, reportFound read found, countFiles, if_neg starred.runs]

theorem starredRefused {suffix : Text} (understood : request arguments = .ok r)
    (starred : r.Starred suffix) (searchable : Searchable tree r.root) :
    (run tree arguments).ending = .exit 1 ↔ ∀ names name, suffix <:+ name →
      tree.bytesAt (tree.goal r.root ++ (names ++ [name])) = none := by
  obtain ⟨files, _, member, ran⟩ := starredExact understood starred searchable
  rw [ran]
  constructor
  · intro refused names name ends
    split at refused
    · rename_i empty
      subst empty
      refine Option.eq_none_iff_forall_ne_some.mpr fun bytes there => ?_
      exact List.not_mem_nil ((member _ bytes).mpr ⟨names, name, ends, rfl, there⟩)
    · cases refused
  · intro absent
    have empty : files = [] := by
      refine List.eq_nil_iff_forall_not_mem.mpr fun (path, bytes) found => ?_
      obtain ⟨names, name, ends, _, there⟩ := (member path bytes).mp found
      cases (absent names name ends).symm.trans there
    rw [if_pos empty]
    rfl

example : ∃ tree, Searchable tree ⟨[], []⟩ ∧ run tree [".".toList] =
    Outcome.success "Files: 1\nReferences: 2 (0 truncated)\n".toList := by
  refine ⟨⟨[], [⟨[['d'], "a.sol".toList], some (Utf8.encode ['b', '\r', '\n', 'c'])⟩,
    ⟨["a.txt".toList], some (Utf8.encode ['b'])⟩]⟩, ?_, by decide +kernel⟩
  exact ⟨⟨by decide, by decide, by decide⟩, by decide, by decide, by decide, by decide +kernel⟩

end SourceExcerpt.Command.Survey
