import SourceExcerpt.Proofs.Walks
/-! Which files are found. They are those at the ends of the walks along a pattern, each once; a
search that gives no files has met a path that is too long. -/
namespace SourceExcerpt.Command.FileTree
open Text

variable {tree : FileTree} {root path : Path} {here : List Text} {p : Pattern} {finds : List Find}
  {files : List (Path × Utf8.Bytes)} {bytes : Utf8.Bytes}

def fileOf (tree : FileTree) : Find → Option (Path × Utf8.Bytes)
  | .trail t => (tree.bytesAt t.place).map (t.path, ·)
  | .tooLong _ => none

theorem fileSource {find : Find} (h : tree.fileOf find = some (path, bytes)) :
    ∃ place, find = .trail ⟨path, place⟩ ∧ tree.bytesAt place = some bytes := by
  cases find with
  | tooLong own => cases h
  | trail t =>
    obtain ⟨own, there, same⟩ := Option.map_eq_some_iff.mp h
    cases same
    exact ⟨t.place, rfl, there⟩

theorem filesAmongTrail (t : Trail) (rest : List Find) : tree.filesAmong (.trail t :: rest) =
    if t.path.isTooLong then .error t.path
    else (tree.filesAmong rest).map ((tree.fileOf (.trail t)).toList ++ ·) := by
  rw [filesAmong, fileOf]
  cases tree.bytesAt t.place with
  | none => cases tree.filesAmong rest <;> rfl
  | some bytes => rfl

theorem filesAmongOk (h : tree.filesAmong finds = .ok files) :
    Fit finds ∧ files = finds.filterMap tree.fileOf := by
  induction finds generalizing files with
  | nil =>
    cases h
    exact ⟨fun _ => List.not_mem_nil, rfl⟩
  | cons find rest ih =>
    cases find with
    | tooLong path => cases h
    | trail t =>
      rw [filesAmongTrail] at h
      split at h <;> try contradiction
      cases others : tree.filesAmong rest with
      | error path => rw [others] at h; cases h
      | ok found =>
        rw [others] at h
        cases h
        obtain ⟨fit, rfl⟩ := ih others
        refine ⟨fun path member => fit path (List.mem_of_ne_of_mem (by simp) member), ?_⟩
        cases file : tree.fileOf (.trail t) with
        | none => exact (List.filterMap_cons_none file).symm
        | some own => exact (List.filterMap_cons_some file).symm

theorem filesAmongFault (h : tree.filesAmong finds = .error path) :
    .tooLong path ∈ finds ∨ path.isTooLong = true ∧ ∃ place, .trail ⟨path, place⟩ ∈ finds := by
  induction finds with
  | nil => cases h
  | cons find rest ih =>
    cases find with
    | tooLong own =>
      cases h
      exact .inl List.mem_cons_self
    | trail t =>
      rw [filesAmongTrail] at h
      split at h
      · rename_i long
        cases h
        exact .inr ⟨long, t.place, List.mem_cons_self⟩
      · cases others : tree.filesAmong rest with
        | ok found => rw [others] at h; cases h
        | error own =>
          rw [others] at h
          cases h
          rcases ih others with member | ⟨long, place, member⟩
          · exact .inl (List.mem_cons_of_mem _ member)
          · exact .inr ⟨long, place, List.mem_cons_of_mem _ member⟩

theorem foundExact (h : tree.found root here p = .ok files) : (path, bytes) ∈ files ↔
    ∃ place, Walk tree (.anyDepth :: p.levels) ⟨root, here⟩ ⟨path, place⟩ ∧
      tree.bytesAt place = some bytes := by
  obtain ⟨fit, rfl⟩ := filesAmongOk h
  rw [List.mem_filterMap]
  constructor
  · rintro ⟨find, member, file⟩
    obtain ⟨place, rfl, there⟩ := fileSource file
    exact ⟨place, (searchFrom fit).mp member, there⟩
  · rintro ⟨place, walk, there⟩
    refine ⟨_, (searchFrom fit).mpr walk, ?_⟩
    rw [fileOf, there, Option.map_some]

theorem foundFault (h : tree.found root here p = .error path) : ¬ path.Fits := by
  rcases filesAmongFault h with member | ⟨long, _⟩
  · exact searchUnfit (fun own inside => by simp at inside) member
  · exact Path.unfit long

theorem foundOnce (plain : tree.Plain) (h : tree.found root here p = .ok files) :
    (files.map Prod.fst).Nodup := by
  obtain ⟨fit, rfl⟩ := filesAmongOk h
  have once : (tree.search (.anyDepth :: p.levels) [.trail ⟨root, here⟩]).Nodup :=
    searchNodup (List.nodup_cons.mpr ⟨List.not_mem_nil, List.nodup_nil⟩)
  rw [List.Nodup, List.pairwise_map, List.pairwise_filterMap]
  refine once.imp_of_mem ?_
  intro first second found later different file one other two same
  obtain ⟨_, rfl, _⟩ := fileSource one
  obtain ⟨_, rfl, _⟩ := fileSource two
  have alike := walkOnce plain ((searchFrom fit).mp found) ((searchFrom fit).mp later) same
  exact different (congrArg Find.trail alike)

theorem foundRoomy (plain : tree.Plain) (roomy : tree.Roomy root here)
    (there : tree.isDirectory here = true) (unnamed : ∀ name, .exactly name ∉ p.levels) :
    ∃ files, tree.found root here p = .ok files := by
  have start : tree.Inside root here ⟨root, here⟩ :=
    ⟨[], by simp [Path.onward], directoryKnown there⟩
  have others : ∀ name, .exactly name ∉ .anyDepth :: p.levels := by simpa using unnamed
  have first : ∀ find ∈ [Find.trail ⟨root, here⟩], ∃ t, find = .trail t ∧ tree.Inside root here t := by
    simpa using start
  have inside := searchInside plain roomy others first
  cases found : tree.found root here p with
  | ok files => exact ⟨files, rfl⟩
  | error path =>
    rcases filesAmongFault found with member | ⟨long, place, member⟩
    · obtain ⟨_, other, _⟩ := inside _ member
      cases other
    · obtain ⟨t, same, within⟩ := inside _ member
      cases same
      cases (insideShort roomy within).symm.trans long

theorem foundNamed (plain : tree.Plain) {glyphs : List Glyph}
    (h : tree.found root here ⟨[.like glyphs]⟩ = .ok files) : (path, bytes) ∈ files ↔
      ∃ names name, Matches glyphs name ∧ path = root.onward (names ++ [name]) ∧
        tree.bytesAt (here ++ (names ++ [name])) = some bytes := by
  rw [foundExact h]
  constructor
  · rintro ⟨place, walk, there⟩
    obtain ⟨names, name, matched, same, there⟩ := (walkNamed plain).mp ⟨walk, there⟩
    cases same
    exact ⟨names, name, matched, rfl, there⟩
  · rintro ⟨names, name, matched, rfl, there⟩
    obtain ⟨walk, _⟩ := (walkNamed plain (t := ⟨root, here⟩)).mpr ⟨names, name, matched, rfl, there⟩
    exact ⟨_, walk, there⟩

end SourceExcerpt.Command.FileTree
