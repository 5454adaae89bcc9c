import SourceExcerpt.Command.Search
import SourceExcerpt.Proofs.Matching
import SourceExcerpt.Proofs.Places
/-! What a search comes upon. It is breadth first, one level of the pattern after the other; what it
comes upon is at the end of a walk along the pattern, and every walk ends at something that it comes
upon, unless a path on the way is too long. -/
namespace SourceExcerpt.Command
open Text

namespace FileTree
variable {tree : FileTree} {wanted : List Text → Bool} {level : Level} {t u v : Trail}

theorem directoriesExact {place : List Text} : place ∈ tree.directories ↔
    tree.isDirectory place = true ∧ ∃ names ∈ tree.known, place <+: names := by
  simp only [directories, List.mem_filter, List.mem_eraseDups, List.mem_flatMap, List.mem_map,
    List.mem_range]
  rw [And.comm]
  refine and_congr_right fun _ => exists_congr fun names => and_congr_right fun _ => ?_
  constructor
  · rintro ⟨count, _, rfl⟩
    exact List.take_prefix count names
  · intro above
    exact ⟨place.length, Nat.lt_succ_of_le above.length_le, (List.prefix_iff_eq_take.mp above).symm⟩

theorem namesInExact {place : List Text} {name : Text} : name ∈ tree.namesIn place ↔
    ∃ below, place ++ name :: below ∈ tree.known := by
  simp only [namesIn, List.mem_eraseDups, List.mem_filterMap]
  constructor
  · rintro ⟨names, known, first⟩
    split at first
    · rename_i above
      obtain ⟨rest, rfl⟩ := List.isPrefixOf_iff_prefix.mp above
      rw [List.drop_left] at first
      cases rest with
      | nil => cases first
      | cons other below => cases first; exact ⟨below, known⟩
    · cases first
  · rintro ⟨below, known⟩
    refine ⟨_, known, ?_⟩
    rw [if_pos (List.isPrefixOf_iff_prefix.mpr (List.prefix_append _ _)), List.drop_left]
    rfl

theorem downwardExact : u ∈ tree.downward t ↔ ∃ names,
    t.place ++ names ∈ tree.directories ∧ u = ⟨t.path.onward names, t.place ++ names⟩ := by
  simp only [downward, List.mem_map, List.mem_filter]
  constructor
  · rintro ⟨place, ⟨directory, above⟩, rfl⟩
    obtain ⟨names, rfl⟩ := List.isPrefixOf_iff_prefix.mp above
    exact ⟨names, directory, by rw [List.drop_left]⟩
  · rintro ⟨names, directory, rfl⟩
    refine ⟨_, ⟨directory, List.isPrefixOf_iff_prefix.mpr (List.prefix_append _ _)⟩, ?_⟩
    rw [List.drop_left]

/-! One level of a pattern, and all of them. -/
inductive Step (tree : FileTree) (wanted : List Text → Bool) : Level → Trail → Trail → Prop where
  | here {t : Trail} : Step tree wanted .here t t
  | down {t : Trail} {names : List Text} (directory : t.place ++ names ∈ tree.directories) :
      Step tree wanted .anyDepth t ⟨t.path.onward names, t.place ++ names⟩
  | exactly {t : Trail} {name : Text} (clean : '\x00' ∉ name)
      (there : wanted (t.onward name).place = true) :
      Step tree wanted (.exactly name) t (t.onward name)
  | like {t : Trail} {glyphs : List Glyph} {name : Text} (listed : name ∈ tree.namesIn t.place)
      (matched : Matches glyphs name) (there : wanted (t.onward name).place = true) :
      Step tree wanted (.like glyphs) t (t.onward name)

def wantedAt (tree : FileTree) (rest : List Level) : List Text → Bool :=
  if rest.isEmpty then tree.isThere else tree.isDirectory

inductive Walk (tree : FileTree) : List Level → Trail → Trail → Prop where
  | ended {t : Trail} : Walk tree [] t t
  | step {level : Level} {rest : List Level} {t u v : Trail}
      (first : Step tree (tree.wantedAt rest) level t u) (onward : Walk tree rest u v) :
      Walk tree (level :: rest) t v

def Fit (finds : List Find) : Prop := ∀ path, .tooLong path ∉ finds

theorem listingFit {finds : List Find} (fit : Fit (listing t finds)) : listing t finds = finds := by
  unfold listing at fit ⊢
  split
  · rename_i long
    rw [if_pos long] at fit
    exact absurd List.mem_cons_self (fit _)
  · rfl

theorem askStep {name : Text} (fit : Fit (ask wanted t name)) :
    .trail u ∈ ask wanted t name ↔ Step tree wanted (.exactly name) t u := by
  have only : Step tree wanted (.exactly name) t u ↔
      '\x00' ∉ name ∧ wanted (t.onward name).place = true ∧ u = t.onward name := by
    constructor
    · rintro ⟨⟩
      exact ⟨‹_›, ‹_›, rfl⟩
    · rintro ⟨clean, there, rfl⟩
      exact .exactly clean there
  rw [only]
  simp only [ask] at fit ⊢
  split at fit
  · rename_i torn
    rw [if_pos torn]
    exact iff_of_false List.not_mem_nil fun ⟨clean, _⟩ => clean (List.contains_iff_mem.mp torn)
  · rename_i whole
    have clean : '\x00' ∉ name := fun torn => whole (List.contains_iff_mem.mpr torn)
    rw [if_neg whole]
    split at fit
    · exact absurd List.mem_cons_self (fit _)
    · rename_i short
      rw [if_neg short]
      split
      · rename_i there
        simp only [List.mem_singleton, Find.trail.injEq, clean, there, not_false_eq_true, true_and]
      · rename_i absent
        exact iff_of_false List.not_mem_nil fun ⟨_, there, _⟩ => absent there

theorem reachStep (fit : Fit (tree.reach wanted t level)) :
    .trail u ∈ tree.reach wanted t level ↔ Step tree wanted level t u := by
  cases level with
  | here =>
    rw [reach, List.mem_singleton, Find.trail.injEq]
    constructor
    · rintro rfl
      exact .here
    · rintro ⟨⟩
      rfl
  | anyDepth =>
    have only : .trail u ∈ tree.reach wanted t .anyDepth ↔ u ∈ tree.downward t := by
      simp only [reach, List.mem_flatMap, List.mem_cons, Find.trail.injEq, listing]
      constructor
      · rintro ⟨d, member, rfl | other⟩
        · exact member
        · split at other <;> simp at other
      · intro member
        exact ⟨u, member, .inl rfl⟩
    rw [only, downwardExact]
    constructor
    · rintro ⟨names, directory, rfl⟩
      exact .down directory
    · rintro ⟨⟩
      exact ⟨_, ‹_›, rfl⟩
  | exactly name => exact askStep fit
  | like glyphs =>
    rw [reach] at fit ⊢
    rw [listingFit fit]
    simp only [List.mem_map, List.mem_filter, matchesExact, Find.trail.injEq, exists_eq_right]
    constructor
    · rintro ⟨⟨name, ⟨listed, matched⟩, rfl⟩, there⟩
      exact .like listed matched there
    · rintro ⟨⟩
      exact ⟨⟨_, ⟨‹_›, ‹_›⟩, rfl⟩, ‹_›⟩

/-! A search of several levels. What is too long stays to its end, so a search that ends without
any has met none. -/
def next (tree : FileTree) (rest : List Level) (level : Level) : Find → List Find
  | .trail t => tree.reach (tree.wantedAt rest) t level
  | .tooLong path => [.tooLong path]

def round (tree : FileTree) (rest : List Level) (level : Level) (finds : List Find) : List Find :=
  (finds.flatMap (tree.next rest level)).eraseDups

theorem roundMember {rest : List Level} {finds : List Find} {find : Find} :
    find ∈ tree.round rest level finds ↔
      ∃ before ∈ finds, find ∈ tree.next rest level before := by
  rw [round, List.mem_eraseDups, List.mem_flatMap]

theorem searchOnward (rest : List Level) (level : Level) (finds : List Find) :
    tree.search (level :: rest) finds = tree.search rest (tree.round rest level finds) := by
  rw [search, round]
  refine congrArg (fun reach => tree.search rest (finds.flatMap reach).eraseDups)
    (funext fun find => ?_)
  cases find <;> rfl

theorem searchTooLong {levels : List Level} {finds : List Find} {path : Path}
    (member : .tooLong path ∈ finds) : .tooLong path ∈ tree.search levels finds := by
  induction levels generalizing finds with
  | nil => exact member
  | cons level rest ih =>
    rw [searchOnward]
    exact ih (roundMember.mpr ⟨_, member, List.mem_cons_self⟩)

theorem searchWalk {levels : List Level} {finds : List Find} (fit : Fit (tree.search levels finds)) :
    .trail v ∈ tree.search levels finds ↔ ∃ t, .trail t ∈ finds ∧ Walk tree levels t v := by
  induction levels generalizing finds with
  | nil =>
    constructor
    · intro member
      exact ⟨v, member, .ended⟩
    · rintro ⟨t, member, ⟨⟩⟩
      exact member
  | cons level rest ih =>
    rw [searchOnward] at fit ⊢
    have short : Fit (tree.round rest level finds) := fun path member =>
      fit path (searchTooLong member)
    have reached {t u : Trail} (member : .trail t ∈ finds) :
        .trail u ∈ tree.next rest level (.trail t) ↔ Step tree (tree.wantedAt rest) level t u :=
      reachStep fun path inside => short path (roundMember.mpr ⟨.trail t, member, inside⟩)
    rw [ih fit]
    constructor
    · rintro ⟨u, member, onward⟩
      obtain ⟨find, known, inside⟩ := roundMember.mp member
      cases find with
      | trail t => exact ⟨t, known, .step ((reached known).mp inside) onward⟩
      | tooLong path => simp [next] at inside
    · rintro ⟨t, known, walk⟩
      cases walk with
      | @step _ _ _ u _ first onward =>
        have inside := (reached known).mpr first
        exact ⟨u, roundMember.mpr ⟨_, known, inside⟩, onward⟩

theorem searchFrom {levels : List Level} (fit : Fit (tree.search levels [.trail t])) :
    .trail v ∈ tree.search levels [.trail t] ↔ Walk tree levels t v := by
  rw [searchWalk fit]
  simp

theorem eraseDupsNodup [BEq α] [LawfulBEq α] (as : List α) : as.eraseDups.Nodup := by
  cases as with
  | nil => exact List.nodup_nil
  | cons a rest =>
    rw [List.eraseDups_cons, List.nodup_cons]
    exact ⟨by simp [List.mem_eraseDups], eraseDupsNodup _⟩
termination_by as.length
decreasing_by exact Nat.lt_succ_of_le (List.length_filter_le _ _)

theorem searchNodup {levels : List Level} {finds : List Find} (once : finds.Nodup) :
    (tree.search levels finds).Nodup := by
  induction levels generalizing finds with
  | nil => exact once
  | cons level rest ih =>
    rw [searchOnward]
    exact ih (eraseDupsNodup _)

/-! A path that ends a search is one that cannot be asked for. -/
theorem askTooLong {name : Text} {path : Path} (member : .tooLong path ∈ ask wanted t name) :
    ¬ path.Fits := by
  unfold ask at member
  dsimp only at member
  split at member
  · cases member
  · split at member
    · rename_i long
      rcases List.mem_singleton.mp member with ⟨⟩
      rintro ⟨_, short, names⟩
      rw [short, Bool.or_false, names name (List.mem_append_right _ List.mem_cons_self)] at long
      cases long
    · split at member <;> simp at member

theorem listingTooLong {finds : List Find} {path : Path}
    (member : .tooLong path ∈ listing t finds) : .tooLong path ∈ finds ∨ ¬ path.Fits := by
  unfold listing at member
  split at member
  · rename_i long
    rcases List.mem_singleton.mp member with ⟨⟩
    exact .inr (Path.unfit long)
  · exact .inl member

theorem reachTooLong {path : Path} (member : .tooLong path ∈ tree.reach wanted t level) :
    ¬ path.Fits := by
  cases level with
  | here => simp [reach] at member
  | anyDepth =>
    obtain ⟨d, _, inside⟩ := List.mem_flatMap.mp member
    have below := (List.mem_cons.mp inside).resolve_left (by simp)
    exact (listingTooLong below).resolve_left List.not_mem_nil
  | exactly name => exact askTooLong member
  | like glyphs =>
    rcases listingTooLong member with inside | unfit
    · simp at inside
    · exact unfit

theorem searchUnfit {levels : List Level} {finds : List Find} {path : Path}
    (unfit : ∀ path, .tooLong path ∈ finds → ¬ path.Fits)
    (member : .tooLong path ∈ tree.search levels finds) : ¬ path.Fits := by
  induction levels generalizing finds with
  | nil => exact unfit path member
  | cons level rest ih =>
    rw [searchOnward] at member
    refine ih (fun other inside => ?_) member
    obtain ⟨find, known, inside⟩ := roundMember.mp inside
    cases find with
    | trail t => exact reachTooLong inside
    | tooLong own =>
      rcases List.mem_singleton.mp inside with ⟨⟩
      exact unfit other known

/-! No directory of a tree has a name that leads upward. -/
def Plain (tree : FileTree) : Prop := ∀ names ∈ tree.known, ['.', '.'] ∉ names

instance (tree : FileTree) : Decidable tree.Plain :=
  inferInstanceAs (Decidable (∀ names ∈ tree.known, ['.', '.'] ∉ names))

theorem directoryPlain (plain : tree.Plain) {place : List Text} (member : place ∈ tree.directories) :
    ['.', '.'] ∉ place := by
  obtain ⟨_, names, known, above⟩ := directoriesExact.mp member
  exact fun upward => plain names known (above.subset upward)

theorem onwardListed (plain : tree.Plain) {name : Text} (listed : name ∈ tree.namesIn t.place) :
    t.onward name = ⟨t.path.onward [name], t.place ++ [name]⟩ := by
  obtain ⟨below, known⟩ := namesInExact.mp listed
  have other : name ≠ ['.', '.'] := fun same =>
    plain _ known (List.mem_append_right _ (same ▸ List.mem_cons_self))
  rw [Trail.onward, FileTree.step, if_neg other]

theorem stepPlace (plain : tree.Plain) (first : Step tree wanted level t u) :
    ∃ names, u = ⟨t.path.onward names, names.foldl step t.place⟩ := by
  cases first with
  | here => exact ⟨[], by simp [Path.onward]⟩
  | @down _ names directory =>
    have upward : ['.', '.'] ∉ names := fun member =>
      directoryPlain plain directory (List.mem_append_right _ member)
    exact ⟨names, by rw [stepsPlain upward]⟩
  | @exactly _ name => exact ⟨[name], rfl⟩
  | @like _ _ name => exact ⟨[name], rfl⟩

theorem walkPlace (plain : tree.Plain) {levels : List Level} (walk : Walk tree levels t v) :
    ∃ names, v = ⟨t.path.onward names, names.foldl step t.place⟩ := by
  induction walk with
  | ended => exact ⟨[], by simp [Path.onward]⟩
  | step first _ ih =>
    obtain ⟨names, rfl⟩ := stepPlace plain first
    obtain ⟨others, rfl⟩ := ih
    exact ⟨names ++ others, by simp [Path.onward, List.foldl_append]⟩

theorem walkOnce (plain : tree.Plain) {levels : List Level} (first : Walk tree levels t u)
    (second : Walk tree levels t v) (same : u.path = v.path) : u = v := by
  obtain ⟨names, rfl⟩ := walkPlace plain first
  obtain ⟨others, rfl⟩ := walkPlace plain second
  have alike : names = others := List.append_cancel_left (congrArg Path.names same)
  rw [alike]

/-! Where there is room for every path below the root, a search comes to its end, unless the pattern
names something itself. -/
section
variable {root : Path} {here : List Text}

def Inside (tree : FileTree) (root : Path) (here : List Text) (t : Trail) : Prop :=
  ∃ names, t = ⟨root.onward names, here ++ names⟩ ∧ ∃ full ∈ tree.known, t.place <+: full

def Roomy (tree : FileTree) (root : Path) (here : List Text) : Prop :=
  ∀ full ∈ tree.known, here <+: full → ∀ count < full.length + 1,
    (root.onward ((full.drop here.length).take count)).isTooLong = false

instance (tree : FileTree) (root : Path) (here : List Text) : Decidable (tree.Roomy root here) :=
  inferInstanceAs (Decidable (∀ full ∈ tree.known, here <+: full → ∀ count < full.length + 1,
    (root.onward ((full.drop here.length).take count)).isTooLong = false))

theorem insideShort (roomy : tree.Roomy root here) (inside : tree.Inside root here t) :
    t.path.isTooLong = false := by
  obtain ⟨names, rfl, _, known, rest, rfl⟩ := inside
  have below : here <+: here ++ names ++ rest := ⟨names ++ rest, (List.append_assoc _ _ _).symm⟩
  have short := roomy _ known below names.length (by simp; omega)
  rw [List.append_assoc, List.drop_left, List.take_left] at short
  exact short

theorem directoryKnown (there : tree.isDirectory here = true) : ∃ full ∈ tree.known, here <+: full := by
  simp only [isDirectory, Bool.or_eq_true, List.any_eq_true] at there
  rcases there with working | ⟨entry, stored, there⟩
  · exact ⟨_, List.mem_cons_self, List.isPrefixOf_iff_prefix.mp working⟩
  · have known := List.mem_cons_of_mem tree.working (List.mem_map_of_mem (f := Entry.names) stored)
    refine ⟨_, known, ?_⟩
    split at there
    · rename_i same
      exact same ▸ List.prefix_rfl
    · exact List.isPrefixOf_iff_prefix.mp there

theorem listingInside (roomy : tree.Roomy root here) (inside : tree.Inside root here t)
    (finds : List Find) : listing t finds = finds := by
  rw [listing, insideShort roomy inside]
  rfl

theorem downwardInside (inside : tree.Inside root here t) (member : u ∈ tree.downward t) :
    tree.Inside root here u := by
  obtain ⟨names, rfl, _⟩ := inside
  obtain ⟨below, directory, rfl⟩ := downwardExact.mp member
  obtain ⟨_, known⟩ := directoriesExact.mp directory
  exact ⟨names ++ below, by simp [Path.onward], known⟩

theorem onwardInside (plain : tree.Plain) (inside : tree.Inside root here t) {name : Text}
    (listed : name ∈ tree.namesIn t.place) : tree.Inside root here (t.onward name) := by
  rw [onwardListed plain listed]
  obtain ⟨names, rfl, _⟩ := inside
  obtain ⟨below, known⟩ := namesInExact.mp listed
  exact ⟨names ++ [name], by simp [Path.onward], _, known, below, by simp⟩

theorem reachInside (plain : tree.Plain) (roomy : tree.Roomy root here)
    (unnamed : ∀ name, level ≠ .exactly name) (inside : tree.Inside root here t)
    {find : Find} (member : find ∈ tree.reach wanted t level) :
    ∃ u, find = .trail u ∧ tree.Inside root here u := by
  cases level with
  | here => exact ⟨t, List.mem_singleton.mp member, inside⟩
  | anyDepth =>
    obtain ⟨d, below, member⟩ := List.mem_flatMap.mp member
    have within := downwardInside inside below
    rw [listingInside roomy within] at member
    exact ⟨d, List.mem_singleton.mp member, within⟩
  | exactly name => exact absurd rfl (unnamed name)
  | like glyphs =>
    rw [reach, listingInside roomy inside] at member
    simp only [List.mem_map, List.mem_filter] at member
    obtain ⟨_, ⟨⟨name, ⟨listed, _⟩, rfl⟩, _⟩, rfl⟩ := member
    exact ⟨_, rfl, onwardInside plain inside listed⟩

theorem searchInside (plain : tree.Plain) (roomy : tree.Roomy root here) {levels : List Level}
    {finds : List Find} (unnamed : ∀ name, .exactly name ∉ levels)
    (inside : ∀ find ∈ finds, ∃ t, find = .trail t ∧ tree.Inside root here t) :
    ∀ find ∈ tree.search levels finds, ∃ t, find = .trail t ∧ tree.Inside root here t := by
  induction levels generalizing finds with
  | nil => exact inside
  | cons level rest ih =>
    rw [searchOnward]
    refine ih (fun name member => unnamed name (.tail _ member)) fun find member => ?_
    obtain ⟨before, known, reached⟩ := roundMember.mp member
    obtain ⟨t, rfl, within⟩ := inside before known
    have first : ∀ name, level ≠ .exactly name := fun name same =>
      unnamed name (same ▸ List.mem_cons_self)
    exact reachInside plain roomy first within reached

end

/-! With one name for a pattern the files are those anywhere below that have such a name. -/
theorem walkNamed (plain : tree.Plain) {glyphs : List Glyph} {bytes : Utf8.Bytes} :
    (Walk tree [.anyDepth, .like glyphs] t u ∧ tree.bytesAt u.place = some bytes) ↔
      ∃ names name, Matches glyphs name ∧
        u = ⟨t.path.onward (names ++ [name]), t.place ++ (names ++ [name])⟩ ∧
        tree.bytesAt u.place = some bytes := by
  have onward {names : List Text} {name : Text} (member : name ∈ tree.namesIn (t.place ++ names)) :
      (⟨t.path.onward names, t.place ++ names⟩ : Trail).onward name =
        ⟨t.path.onward (names ++ [name]), t.place ++ (names ++ [name])⟩ := by
    rw [onwardListed plain member]
    simp [Path.onward]
  constructor
  · rintro ⟨walk, there⟩
    cases walk with
    | step first rest =>
      cases first with
      | @down _ names directory =>
        cases rest with
        | step second last =>
          cases last
          cases second with
          | @like _ _ name listed matched _ =>
            exact ⟨names, name, matched, onward listed, there⟩
  · rintro ⟨names, name, matched, rfl, there⟩
    have stored := bytesStored there
    have rooted := entryRooted stored
    have known : t.place ++ (names ++ [name]) ∈ tree.known :=
      List.mem_cons_of_mem _ (List.mem_map_of_mem stored)
    have whole : t.place ++ (names ++ [name]) = t.place ++ names ++ [name] :=
      (List.append_assoc _ _ _).symm
    have directory : t.place ++ names ∈ tree.directories :=
      directoriesExact.mpr ⟨rooted _ [name] whole (List.cons_ne_nil _ _),
        _, known, whole ▸ List.prefix_append _ _⟩
    have listed : name ∈ tree.namesIn (t.place ++ names) :=
      namesInExact.mpr ⟨[], whole ▸ known⟩
    refine ⟨.step (.down directory) (.step ?_ .ended), there⟩
    rw [← onward listed]
    refine .like listed matched ?_
    rw [onward listed]
    simp [wantedAt, isThere, there]

end FileTree
end SourceExcerpt.Command
