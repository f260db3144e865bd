import BaseApi.Files.Storage
import BaseApi.Proofs.Fallible

/-!
# What operations change in a file tree

Making directories puts directories where nothing was, and nothing else changes, even if it fails
half way (`FileTree.gains_makeDirectories`). Writing a file changes one location, which held no
directory (`FileTree.writeBytes_eq_ok`). Both are said of locations; that a new location belongs to
the path that was asked for is said by walking the path through the tree after the operation, which
still has every directory that it had before (`FileTree.KeepsDirectories`). So what is written to a
path can be read from it (`FileTree.readText_of_writeText`).
-/

namespace BaseApi.FileTree

open Fallible

/-! ## Walking through a tree that has grown -/

/-- Every directory is still there. -/
def KeepsDirectories (before after : FileTree) : Prop :=
  ∀ location, before.get? location = some .directory → after.get? location = some .directory

theorem lookupName_eq_ok_iff {tree : FileTree} {location : Location} {name : String}
    {entry : Option FileEntry} :
    tree.lookupName location name = .ok entry ↔
      name.utf8ByteSize ≤ Path.maxNameSize ∧ tree.get? (location ++ [name]) = entry := by
  unfold lookupName
  split
  · next long => simp [Nat.not_le.mpr long]
  · next short => simp [Nat.not_lt.mp short]

/-- A name that is no dot segment leads to the directory with that name. -/
theorem enter_eq_ok_of_name {tree : FileTree} {location : Location} {name : String}
    (isName : isRelative name = false) (short : name.utf8ByteSize ≤ Path.maxNameSize)
    (isDirectory : tree.get? (location ++ [name]) = some .directory) :
    tree.enter location name = .ok (location ++ [name]) := by
  simp only [isRelative, Bool.or_eq_false_iff, beq_eq_false_iff_ne] at isName
  obtain ⟨⟨notEmpty, notDot⟩, notDots⟩ := isName
  rw [FileTree.enter, if_neg (by simp [notEmpty, notDot]), if_neg notDots,
    lookupName_eq_ok_iff.mpr ⟨short, isDirectory⟩]
  rfl

theorem KeepsDirectories.enter {before after : FileTree} (keeps : before.KeepsDirectories after)
    {location reached : Location} {segment : String}
    (entered : before.enter location segment = .ok reached) :
    after.enter location segment = .ok reached := by
  unfold FileTree.enter at entered ⊢
  split at entered
  · next stays => rwa [if_pos stays]
  · next moves =>
      split at entered
      · next up => rwa [if_neg moves, if_pos up]
      · next down =>
          obtain ⟨entry, found, isDirectory⟩ := bind_eq_ok_iff.mp entered
          obtain ⟨short, present⟩ := lookupName_eq_ok_iff.mp found
          rw [if_neg moves, if_neg down]
          split at isDirectory
          · cases isDirectory
            rw [lookupName_eq_ok_iff.mpr ⟨short, keeps _ present⟩]
            rfl
          · cases isDirectory
          · cases isDirectory

theorem KeepsDirectories.foldlM_enter {before after : FileTree}
    (keeps : before.KeepsDirectories after) {segments : List String} {start reached : Location}
    (walked : segments.foldlM before.enter start = .ok reached) :
    segments.foldlM after.enter start = .ok reached := by
  induction segments generalizing start with
  | nil => exact walked
  | cons segment segments ih =>
      rw [List.foldlM_cons, bind_eq_ok_iff] at walked ⊢
      obtain ⟨next, entered, rest⟩ := walked
      exact ⟨next, keeps.enter entered, ih rest⟩

theorem KeepsDirectories.directoryAt {before after : FileTree}
    (keeps : before.KeepsDirectories after) {segments : List String} {location : Location}
    (walked : before.directoryAt segments = .ok location) :
    after.directoryAt segments = .ok location :=
  keeps.foldlM_enter walked

theorem directoryAt_append_eq_ok_iff {tree : FileTree} {first second : List String}
    {location : Location} :
    tree.directoryAt (first ++ second) = .ok location ↔
      ∃ middle, tree.directoryAt first = .ok middle ∧
        second.foldlM tree.enter middle = .ok location := by
  rw [FileTree.directoryAt, List.foldlM_append, bind_eq_ok_iff]
  rfl

/-! ## Setting one entry -/

/-- A directory is set where nothing was, or a file where no directory was. -/
theorem keepsDirectories_set {tree : FileTree} {location : Location}
    (free : tree.get? location ≠ some .directory) (entry : FileEntry) :
    tree.KeepsDirectories (tree.set location entry) := by
  intro other isDirectory
  have differs : other ≠ location := by
    rintro rfl
    exact free isDirectory
  rwa [get?_set_of_ne tree differs]

/-! ## The last name of a path -/

theorem approach_eq_ok_iff {tree : FileTree} {segments : List String} {location : Location}
    {last : String} :
    tree.approach segments = .ok (location, last) ↔
      tree.directoryAt segments.dropLast = .ok location ∧ segments.getLastD "" = last := by
  simp only [approach, bind_eq_ok_iff, pure_eq_ok_iff, Prod.mk.injEq]
  constructor
  · rintro ⟨_, walked, rfl, named⟩
    exact ⟨walked, named⟩
  · rintro ⟨walked, named⟩
    exact ⟨location, walked, rfl, named⟩

/-- The slashes at the end of a path are segments that lead nowhere. -/
theorem exists_eq_withoutEndSlashes_append (segments : List String) :
    ∃ slashes, segments = withoutEndSlashes segments ++ slashes ∧
      ∀ slash ∈ slashes, slash = "" := by
  refine ⟨(segments.reverse.takeWhile (· == "")).reverse, ?_, ?_⟩
  · rw [withoutEndSlashes, ← List.reverse_append, List.takeWhile_append_dropWhile,
      List.reverse_reverse]
  · intro slash member
    simpa using List.mem_takeWhile_imp (List.mem_reverse.mp member)

theorem foldlM_enter_of_slashes {tree : FileTree} {slashes : List String}
    (empty : ∀ slash ∈ slashes, slash = "") (location : Location) :
    slashes.foldlM tree.enter location = .ok location := by
  induction slashes with
  | nil => rfl
  | cons slash slashes ih =>
      rw [List.forall_mem_cons] at empty
      rw [List.foldlM_cons, bind_eq_ok_iff]
      refine ⟨location, ?_, ih empty.2⟩
      rw [FileTree.enter, if_pos (.inl empty.1)]

theorem eq_dropLast_append_of_isName {segments : List String}
    (isName : isRelative (segments.getLastD "") = false) :
    segments = segments.dropLast ++ [segments.getLastD ""] := by
  rcases segments.eq_nil_or_concat with rfl | ⟨before, last, rfl⟩
  · cases isName
  · simp

/-! ## Making directories -/

/-- A directory that is made was not there, and is where its path leads from now on. -/
theorem makeDirectory_eq_ok {tree made : FileTree} {path : String}
    (created : tree.makeDirectory path = .ok made) :
    ∃ location, tree.get? location = none ∧ made = tree.set location .directory ∧
      made.directoryAt (Path.segments path) = .ok location := by
  unfold makeDirectory at created
  simp only [bind_eq_ok_iff] at created
  obtain ⟨-, -, ⟨above, last⟩, approached, created⟩ := created
  dsimp only at created
  split at created
  · cases created
  · next notRelative =>
      obtain ⟨entry, found, created⟩ := bind_eq_ok_iff.mp created
      obtain ⟨short, present⟩ := lookupName_eq_ok_iff.mp found
      split at created
      · cases created
      · cases created
        refine ⟨above ++ [last], present, rfl, ?_⟩
        have isName := Bool.eq_false_iff.mpr notRelative
        have keeps : tree.KeepsDirectories (tree.set (above ++ [last]) .directory) := by
          apply keepsDirectories_set
          simp [present]
        have isDirectory := get?_set_self tree (List.append_ne_nil_of_right_ne_nil above
          (List.cons_ne_nil last [])) .directory
        obtain ⟨slashes, whole, empty⟩ := exists_eq_withoutEndSlashes_append (Path.segments path)
        obtain ⟨walked, named⟩ := approach_eq_ok_iff.mp approached
        have names := eq_dropLast_append_of_isName (named ▸ isName)
        rw [named] at names
        rw [whole, directoryAt_append_eq_ok_iff]
        refine ⟨above ++ [last], ?_, foldlM_enter_of_slashes empty _⟩
        rw [names, directoryAt_append_eq_ok_iff]
        refine ⟨above, keeps.directoryAt walked, ?_⟩
        rw [List.foldlM_cons, bind_eq_ok_iff]
        exact ⟨above ++ [last], enter_eq_ok_of_name isName short isDirectory, rfl⟩

/-- There is a directory where nothing was, and one of the paths leads to it. -/
def IsNewDirectory (paths : List String) (before after : FileTree) (location : Location) : Prop :=
  before.get? location = none ∧ after.get? location = some .directory ∧
    ∃ path ∈ paths, after.directoryAt (Path.segments path) = .ok location

/-- Nothing has changed but that there are new directories to which some of the paths lead. -/
def Gains (paths : List String) (before after : FileTree) : Prop :=
  ∀ location, after.get? location = before.get? location ∨
    IsNewDirectory paths before after location

namespace Gains

variable {paths : List String} {before between after : FileTree}

theorem refl (tree : FileTree) : Gains paths tree tree := fun _ => .inl rfl

theorem keepsDirectories (gains : Gains paths before after) : before.KeepsDirectories after := by
  intro location isDirectory
  rcases gains location with same | ⟨new, -, -⟩
  · rwa [same]
  · rw [new] at isDirectory
    cases isDirectory

theorem mono {more : List String} (subset : ∀ path ∈ paths, path ∈ more)
    (gains : Gains paths before after) : Gains more before after := by
  intro location
  rcases gains location with same | ⟨new, made, path, member, leads⟩
  · exact .inl same
  · exact .inr ⟨new, made, path, subset path member, leads⟩

theorem trans (first : Gains paths before between) (second : Gains paths between after) :
    Gains paths before after := by
  intro location
  rcases second location with same | ⟨new, made, path, member, leads⟩
  · rcases first location with unchanged | ⟨new, made, path, member, leads⟩
    · exact .inl (same.trans unchanged)
    · exact .inr ⟨new, same.trans made, path, member, second.keepsDirectories.directoryAt leads⟩
  · rcases first location with unchanged | ⟨-, old, -⟩
    · exact .inr ⟨unchanged ▸ new, made, path, member, leads⟩
    · rw [new] at old
      cases old

/-- Files are as they were. -/
theorem get?_eq_file_iff (gains : Gains paths before after) (location : Location)
    (bytes : ByteArray) :
    after.get? location = some (.file bytes) ↔ before.get? location = some (.file bytes) := by
  rcases gains location with same | ⟨new, made, -⟩
  · rw [same]
  · simp [new, made]

end Gains

theorem gains_makeDirectory {tree made : FileTree} {path : String}
    (created : tree.makeDirectory path = .ok made) : Gains [path] tree made := by
  obtain ⟨location, free, rfl, leads⟩ := makeDirectory_eq_ok created
  intro other
  by_cases same : other = location
  · subst same
    have notRoot : other ≠ [] := by
      rintro rfl
      cases free
    exact .inr ⟨free, get?_set_self tree notRoot _, path, List.mem_cons_self, leads⟩
  · exact .inl (get?_set_of_ne tree same _)

/-- Making directories makes no other change, even if it fails after some of them. -/
theorem gains_makeDirectories (tree : FileTree) (paths : List String) :
    Gains paths tree (tree.makeDirectories paths).2 := by
  induction paths generalizing tree with
  | nil => exact .refl tree
  | cons path ancestors ih =>
      have attempted {tree made : FileTree} (created : tree.makeDirectory path = .ok made) :
          Gains (path :: ancestors) tree made := (gains_makeDirectory created).mono (by simp)
      have above : Gains (path :: ancestors) tree (tree.makeDirectories ancestors).2 :=
        (ih tree).mono fun _ => List.mem_cons_of_mem path
      unfold makeDirectories
      dsimp only
      split
      · split
        · next grown made =>
            rw [made] at above
            split
            · next created => exact above.trans (attempted created)
            · exact above
        · exact above
      · split
        · next created => exact attempted created
        · exact .refl tree

/-! ## Reading and writing files -/

/-- The location at which a path names an entry. -/
def Names (tree : FileTree) (path : String) (location : Location) : Prop :=
  ∃ above name, tree.approach (Path.segments path) = .ok (above, name) ∧ location = above ++ [name]

theorem KeepsDirectories.approach {before after : FileTree}
    (keeps : before.KeepsDirectories after) {segments : List String} {location : Location}
    {last : String} (approached : before.approach segments = .ok (location, last)) :
    after.approach segments = .ok (location, last) := by
  obtain ⟨walked, named⟩ := approach_eq_ok_iff.mp approached
  exact approach_eq_ok_iff.mpr ⟨keeps.directoryAt walked, named⟩

/-- The last name of a path is that of a file if it is no dot segment and not too long. -/
def IsFileName (name : String) : Prop :=
  isRelative name = false ∧ name.utf8ByteSize ≤ Path.maxNameSize

theorem readBytes_eq_ok_iff {tree : FileTree} {path : String} {bytes : ByteArray} :
    tree.readBytes path = .ok bytes ↔
      checkPath path = .ok () ∧ ∃ above name,
        tree.approach (Path.segments path) = .ok (above, name) ∧ IsFileName name ∧
          tree.get? (above ++ [name]) = some (.file bytes) := by
  simp only [readBytes, bind_eq_ok_iff]
  constructor
  · rintro ⟨⟨⟩, checked, ⟨above, last⟩, approached, read⟩
    dsimp only at read
    split at read
    · cases read
    · next notRelative =>
        obtain ⟨entry, found, read⟩ := bind_eq_ok_iff.mp read
        obtain ⟨short, present⟩ := lookupName_eq_ok_iff.mp found
        split at read <;> cases read
        exact ⟨checked, above, last, approached, ⟨Bool.eq_false_iff.mpr notRelative, short⟩,
          present⟩
  · rintro ⟨checked, above, name, approached, ⟨isName, short⟩, present⟩
    refine ⟨(), checked, (above, name), approached, ?_⟩
    dsimp only
    rw [if_neg (Bool.eq_false_iff.mp isName), bind_eq_ok_iff]
    exact ⟨_, lookupName_eq_ok_iff.mpr ⟨short, present⟩, rfl⟩

/-- A write that succeeds has set one location, at which there was no directory. -/
theorem exists_of_writeBytes {tree written : FileTree} {path : String} {bytes : ByteArray}
    (wrote : tree.writeBytes path bytes = .ok written) :
    checkPath path = .ok () ∧ ∃ above name,
      tree.approach (Path.segments path) = .ok (above, name) ∧ IsFileName name ∧
        tree.get? (above ++ [name]) ≠ some .directory ∧
        written = tree.set (above ++ [name]) (.file bytes) := by
  unfold writeBytes at wrote
  simp only [bind_eq_ok_iff] at wrote
  obtain ⟨⟨⟩, checked, ⟨above, last⟩, approached, wrote⟩ := wrote
  dsimp only at wrote
  split at wrote
  · cases wrote
  · next plain =>
      obtain ⟨notRelative, whole⟩ := not_or.mp plain
      rw [not_not.mp whole] at approached
      obtain ⟨entry, found, wrote⟩ := bind_eq_ok_iff.mp wrote
      obtain ⟨short, present⟩ := lookupName_eq_ok_iff.mp found
      split at wrote
      · cases wrote
      · next notDirectory =>
          cases wrote
          exact ⟨checked, above, last, approached, ⟨Bool.eq_false_iff.mpr notRelative, short⟩,
            present ▸ notDirectory, rfl⟩

/-- A file that is written is where its path names it, and there was no directory. -/
theorem writeBytes_eq_ok {tree written : FileTree} {path : String} {bytes : ByteArray}
    (wrote : tree.writeBytes path bytes = .ok written) :
    ∃ location, tree.get? location ≠ some .directory ∧
      written = tree.set location (.file bytes) ∧ written.Names path location := by
  obtain ⟨-, above, name, approached, -, free, rfl⟩ := exists_of_writeBytes wrote
  exact ⟨_, free, rfl, above, name, (keepsDirectories_set free _).approach approached, rfl⟩

/-- What is read from a path is what was written to it. -/
theorem readBytes_of_writeBytes {tree written : FileTree} {path : String} {bytes : ByteArray}
    (wrote : tree.writeBytes path bytes = .ok written) : written.readBytes path = .ok bytes := by
  obtain ⟨checked, above, name, approached, isFileName, free, rfl⟩ := exists_of_writeBytes wrote
  have notRoot : above ++ [name] ≠ [] := List.append_ne_nil_of_right_ne_nil above
    (List.cons_ne_nil name [])
  exact readBytes_eq_ok_iff.mpr ⟨checked, above, name,
    (keepsDirectories_set free _).approach approached, isFileName, get?_set_self tree notRoot _⟩

theorem readText_of_writeText {tree written : FileTree} {path text : String}
    (wrote : tree.writeText path text = .ok written) : written.readText path = .ok text := by
  have decoded : String.fromUTF8? text.toUTF8 = some text := dif_pos text.isValidUTF8
  rw [readText, bind_eq_ok_iff]
  refine ⟨_, readBytes_of_writeBytes wrote, ?_⟩
  rw [decoded]
  rfl

end BaseApi.FileTree
