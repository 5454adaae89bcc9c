import SourceExcerpt.Command.FileTree
/-! Where a path leads. Each name is one step, and what is in the tree decides only whether the
next step is taken; on the way to a file that is there, all of them are. -/
namespace SourceExcerpt.Command
open Text

structure Path.Fits (path : Path) : Prop where
  clean : '\x00' ∉ path.render
  short : path.isTooLong = false
  names : ∀ name ∈ path.names, Path.nameTooLong name = false

theorem Path.unfit {path : Path} (long : path.isTooLong = true) : ¬ path.Fits := fun fits =>
  Bool.false_ne_true (fits.short.symm.trans long)

theorem boundOk {first : Except ε α} {next : α → Except ε β} {b : β}
    (h : (first >>= next) = .ok b) : ∃ a, first = .ok a ∧ next a = .ok b := by
  cases first with
  | error e => cases h
  | ok a => exact ⟨a, rfl, h⟩

theorem boundError {first : Except ε α} {next : α → Except ε β} {e : ε}
    (h : (first >>= next) = .error e) : first = .error e ∨ ∃ a, first = .ok a ∧ next a = .error e := by
  cases first with
  | error other => cases h; exact .inl rfl
  | ok a => exact .inr ⟨a, rfl, h⟩

namespace FileTree
variable {tree : FileTree} {here place names : List Text} {path : Path} {bytes : Utf8.Bytes}

def start (tree : FileTree) (path : Path) : List Text :=
  if path.lead = [] then tree.working else []

def goal (tree : FileTree) (path : Path) : List Text := path.names.foldl step (tree.start path)

theorem stepsPlain (plain : ['.', '.'] ∉ names) : names.foldl step here = here ++ names := by
  induction names generalizing here with
  | nil => exact (List.append_nil here).symm
  | cons name rest ih =>
    have other : name ≠ ['.', '.'] := fun same => plain (same ▸ List.mem_cons_self)
    have others : ['.', '.'] ∉ rest := fun member => plain (.tail _ member)
    rw [List.foldl_cons, ih others, step, if_neg other, List.append_assoc]
    rfl

theorem bytesStored (h : tree.bytesAt place = some bytes) : ⟨place, some bytes⟩ ∈ tree.entries := by
  simp only [bytesAt, bind, Option.bind_eq_some_iff] at h
  obtain ⟨entry, found, contents⟩ := h
  have wanted := List.find?_some found
  simp only [decide_eq_true_eq] at wanted
  obtain ⟨rfl, _⟩ := wanted
  rw [← contents]
  exact List.mem_of_find?_eq_some found

/-! Above whatever is in the tree there are directories. -/
def Rooted (tree : FileTree) (place : List Text) : Prop :=
  ∀ above below, place = above ++ below → below ≠ [] → tree.isDirectory above = true

theorem entryRooted {entry : Entry} (stored : entry ∈ tree.entries) : tree.Rooted entry.names := by
  intro above below split inside
  have other : entry.names ≠ above := fun same => inside (by simpa [same] using split)
  have begins : above.isPrefixOf entry.names = true := by
    rw [List.isPrefixOf_iff_prefix, split]
    exact List.prefix_append _ _
  simp only [isDirectory, Bool.or_eq_true, List.any_eq_true]
  exact .inr ⟨entry, stored, by rw [if_neg other, begins]⟩

theorem directoryRooted (directory : tree.isDirectory place = true) : tree.Rooted place := by
  rintro above below rfl inside
  simp only [isDirectory, Bool.or_eq_true, List.any_eq_true] at directory
  rcases directory with working | ⟨entry, stored, there⟩
  · obtain ⟨rest, whole⟩ := List.isPrefixOf_iff_prefix.mp working
    have begins : above.isPrefixOf tree.working = true := by
      rw [List.isPrefixOf_iff_prefix, ← whole, List.append_assoc]
      exact List.prefix_append _ _
    simp only [isDirectory, begins, Bool.true_or]
  · by_cases same : entry.names = above ++ below
    · exact entryRooted stored above below same inside
    · rw [if_neg same, List.isPrefixOf_iff_prefix] at there
      obtain ⟨rest, whole⟩ := there
      rw [List.append_assoc] at whole
      exact entryRooted stored above (below ++ rest) whole.symm (by simp [inside])

theorem followed (h : tree.follow here names = .ok place) :
    (∀ name ∈ names, Path.nameTooLong name = false) ∧ place = names.foldl step here := by
  induction names generalizing here with
  | nil => cases h; simp
  | cons name rest ih =>
    simp only [follow] at h
    split at h <;> try contradiction
    rename_i short
    split at h <;> try contradiction
    obtain ⟨shorts, leads⟩ := ih h
    refine ⟨?_, leads⟩
    intro other member
    rcases List.mem_cons.1 member with rfl | member
    · simpa using short
    · exact shorts other member

theorem followRooted (rooted : tree.Rooted (here ++ names)) (plain : ['.', '.'] ∉ names)
    (short : ∀ name ∈ names, Path.nameTooLong name = false) :
    tree.follow here names = .ok (here ++ names) := by
  induction names generalizing here with
  | nil => simp [follow]
  | cons name rest ih =>
    have other : name ≠ ['.', '.'] := fun same => plain (same ▸ List.mem_cons_self)
    have next : step here name = here ++ [name] := if_neg other
    have whole : here ++ name :: rest = here ++ [name] ++ rest := (List.append_assoc _ [name] _).symm
    rw [whole] at rooted
    have opened : rest = [] ∨ tree.isDirectory (here ++ [name]) = true := by
      by_cases last : rest = []
      · exact .inl last
      · exact .inr (rooted _ rest rfl last)
    have fits : ¬ Path.nameTooLong name = true := by simp [short name List.mem_cons_self]
    have onward := ih rooted (fun member => plain (.tail _ member)) fun n member =>
      short n (.tail _ member)
    rw [follow, if_neg fits, next, if_pos opened, onward, whole]

theorem locateGoal (h : tree.locate path = .ok place) : path.Fits ∧ place = tree.goal path := by
  unfold locate at h
  split at h <;> try contradiction
  rename_i clean
  split at h <;> try contradiction
  rename_i short
  obtain ⟨names, leads⟩ := followed h
  exact ⟨⟨by simpa using clean, by simpa using short, names⟩, leads⟩

theorem locateRooted (rooted : tree.Rooted (tree.goal path)) (fits : path.Fits)
    (plain : ['.', '.'] ∉ path.names) : tree.locate path = .ok (tree.goal path) := by
  have goal : tree.goal path = tree.start path ++ path.names := stepsPlain plain
  have clean : ¬ path.render.contains '\x00' = true := by simpa using fits.clean
  have short : ¬ path.isTooLong = true := by simp [fits.short]
  rw [goal] at rooted
  rw [locate, if_neg clean, if_neg short, goal]
  exact followRooted rooted plain fits.names

theorem readSource (h : tree.read path = .ok bytes) :
    path.Fits ∧ tree.bytesAt (tree.goal path) = some bytes := by
  obtain ⟨place, located, h⟩ := boundOk h
  obtain ⟨fits, rfl⟩ := locateGoal located
  split at h <;> try contradiction
  rename_i own there
  cases h
  exact ⟨fits, there⟩

theorem readExact (plain : ['.', '.'] ∉ path.names) :
    tree.read path = .ok bytes ↔ path.Fits ∧ tree.bytesAt (tree.goal path) = some bytes := by
  refine ⟨readSource, ?_⟩
  rintro ⟨fits, there⟩
  have located := locateRooted (entryRooted (bytesStored there)) fits plain
  rw [read, located]
  simp only [bind, Except.bind, there]
  rfl

/- Where nothing on the way is too long, a path can only lead to nothing. -/
theorem followFault {fault : DeadEnd} (short : ∀ name ∈ names, Path.nameTooLong name = false)
    (h : tree.follow here names = .error fault) : fault = .nothing := by
  induction names generalizing here with
  | nil => cases h
  | cons name rest ih =>
    have fits : ¬ Path.nameTooLong name = true := by simp [short name List.mem_cons_self]
    rw [follow, if_neg fits] at h
    dsimp only at h
    split at h
    · exact ih (fun n member => short n (.tail _ member)) h
    · cases h
      rfl

theorem locateFault {fault : DeadEnd} (fits : path.Fits) (h : tree.locate path = .error fault) :
    fault = .nothing := by
  have clean : ¬ path.render.contains '\x00' = true := by simpa using fits.clean
  have short : ¬ path.isTooLong = true := by simp [fits.short]
  rw [locate, if_neg clean, if_neg short] at h
  exact followFault fits.names h

theorem readFault {fault : DeadEnd} (fits : path.Fits) (h : tree.read path = .error fault) :
    fault = .nothing := by
  rcases boundError h with failed | ⟨found, _, failed⟩
  · exact locateFault fits failed
  · split at failed <;> cases failed
    rfl

theorem directoryFault {fault : DeadEnd} (fits : path.Fits)
    (h : tree.directory path = .error fault) : fault = .nothing := by
  rcases boundError h with failed | ⟨found, _, failed⟩
  · exact locateFault fits failed
  · split at failed <;> cases failed
    rfl

theorem directorySource (h : tree.directory path = .ok place) :
    path.Fits ∧ place = tree.goal path ∧ tree.isDirectory place = true := by
  obtain ⟨found, located, h⟩ := boundOk h
  obtain ⟨fits, rfl⟩ := locateGoal located
  split at h <;> try contradiction
  rename_i there
  cases h
  exact ⟨fits, rfl, there⟩

theorem directoryExact (plain : ['.', '.'] ∉ path.names) : tree.directory path = .ok place ↔
    path.Fits ∧ place = tree.goal path ∧ tree.isDirectory place = true := by
  refine ⟨directorySource, ?_⟩
  rintro ⟨fits, rfl, there⟩
  have located := locateRooted (directoryRooted there) fits plain
  rw [directory, located]
  exact if_pos there

end FileTree
end SourceExcerpt.Command
