import BaseApi.Files.Path

/-!
# File trees

A `FileTree` holds files and directories by the names that lead to them from its root. Paths are
walked segment by segment; every segment before the last has to be a directory that is there. The
operations are those of a file system: reading a file as text, making a directory, and writing a
file that may or may not be there.

Main statements: `FileTree.get?_set_self` and `FileTree.get?_set_of_ne` say that an entry is set
at one location and nowhere else.
-/

namespace BaseApi

/-- Why an operation on files fails. -/
inductive FileError where
  | notFound
  | alreadyExists
  | notDirectory
  | isDirectory
  | nameTooLong
  /-- The path has a character that no name may have. -/
  | badName
  | notText
  /-- Any other failure, in the words of the system. -/
  | other (message : String)
deriving DecidableEq, Inhabited

def FileError.message : FileError → String
  | notFound => "No such file or directory (os error 2)"
  | alreadyExists => "File exists (os error 17)"
  | notDirectory => "Not a directory (os error 20)"
  | isDirectory => "Is a directory (os error 21)"
  | nameTooLong => "File name too long (os error 36)"
  | badName => "file name contained an unexpected NUL byte"
  | notText => "stream did not contain valid UTF-8"
  | other message => message

/-- What a name leads to. -/
inductive FileEntry where
  | directory
  | file (bytes : ByteArray)

instance : DecidableEq FileEntry
  | .directory, .directory => .isTrue rfl
  | .directory, .file _ | .file _, .directory => .isFalse nofun
  | .file left, .file right =>
      match ByteArray.instDecidableEq left right with
      | .isTrue same => .isTrue (congrArg FileEntry.file same)
      | .isFalse differ => .isFalse fun same => differ (FileEntry.file.inj same)

/-- The names that lead to an entry from the root. -/
abbrev Location := List String

/-- Files and directories by their location; the root is always there. -/
structure FileTree where
  entries : List (Location × FileEntry) := []
deriving DecidableEq

namespace FileTree

def get? (tree : FileTree) (location : Location) : Option FileEntry :=
  if location = [] then some .directory else tree.entries.lookup location

/-- Gives a location an entry, in place if it has one. -/
def setEntries (location : Location) (entry : FileEntry) :
    List (Location × FileEntry) → List (Location × FileEntry)
  | [] => [(location, entry)]
  | old :: rest =>
      if old.1 = location then (location, entry) :: rest
      else old :: setEntries location entry rest

def set (tree : FileTree) (location : Location) (entry : FileEntry) : FileTree :=
  { entries := setEntries location entry tree.entries }

theorem lookup_setEntries_self (location : Location) (entry : FileEntry)
    (entries : List (Location × FileEntry)) :
    (setEntries location entry entries).lookup location = some entry := by
  induction entries with
  | nil => simp [setEntries]
  | cons old rest ih =>
      obtain ⟨place, held⟩ := old
      by_cases same : place = location
      · simp [setEntries, same]
      · have differs : (location == place) = false := by simpa using Ne.symm same
        simp [setEntries, same, List.lookup_cons, differs, ih]

theorem lookup_setEntries_of_ne {location other : Location} (ne : other ≠ location)
    (entry : FileEntry) (entries : List (Location × FileEntry)) :
    (setEntries location entry entries).lookup other = entries.lookup other := by
  have differs : (other == location) = false := by simpa using ne
  induction entries with
  | nil => simp [setEntries, List.lookup_cons, differs]
  | cons old rest ih =>
      obtain ⟨place, held⟩ := old
      by_cases same : place = location
      · simp [setEntries, same, List.lookup_cons, differs]
      · simp [setEntries, same, List.lookup_cons, ih]

theorem get?_set_self (tree : FileTree) {location : Location} (notRoot : location ≠ [])
    (entry : FileEntry) : (tree.set location entry).get? location = some entry := by
  simp [set, get?, notRoot, lookup_setEntries_self]

theorem get?_set_of_ne (tree : FileTree) {location other : Location} (ne : other ≠ location)
    (entry : FileEntry) : (tree.set location entry).get? other = tree.get? other := by
  simp [set, get?, lookup_setEntries_of_ne ne]

/-! ## Walking -/

/-- A segment that leads to no new name. -/
def isRelative (segment : String) : Bool := segment == "" || segment == "." || segment == ".."

/-- Looks a name up in a directory. -/
def lookupName (tree : FileTree) (location : Location) (name : String) :
    Except FileError (Option FileEntry) :=
  if Path.maxNameSize < name.utf8ByteSize then .error .nameTooLong
  else .ok (tree.get? (location ++ [name]))

/-- Steps into a segment, which has to be a directory. -/
def enter (tree : FileTree) (location : Location) (segment : String) :
    Except FileError Location :=
  if segment = "" ∨ segment = "." then .ok location
  else if segment = ".." then .ok location.dropLast
  else do
    match ← tree.lookupName location segment with
    | some .directory => pure (location ++ [segment])
    | some (.file _) => throw .notDirectory
    | none => throw .notFound

/-- The location of a path all of whose segments are directories. -/
def directoryAt (tree : FileTree) (segments : List String) : Except FileError Location :=
  segments.foldlM tree.enter []

/-- Checks what holds for every path before it is walked. -/
def checkPath (path : String) : Except FileError Unit :=
  if path.toList.contains '\x00' then .error .badName
  else if path = "" then .error .notFound
  else if Path.maxPathSize < path.utf8ByteSize then .error .nameTooLong
  else .ok ()

/-- The segments of a path without the slashes at its end. -/
def withoutEndSlashes (segments : List String) : List String :=
  (segments.reverse.dropWhile (· == "")).reverse

/-- The directory that a path leads to and its last segment. -/
def approach (tree : FileTree) (segments : List String) :
    Except FileError (Location × String) := do
  pure (← tree.directoryAt segments.dropLast, segments.getLastD "")

/-! ## Operations -/

def isDirectory (tree : FileTree) (path : String) : Bool :=
  match checkPath path, tree.directoryAt (Path.segments path) with
  | .ok (), .ok _ => true
  | _, _ => false

def readBytes (tree : FileTree) (path : String) : Except FileError ByteArray := do
  checkPath path
  let (location, last) ← tree.approach (Path.segments path)
  if isRelative last then throw .isDirectory
  match ← tree.lookupName location last with
  | some (.file bytes) => pure bytes
  | some .directory => throw .isDirectory
  | none => throw .notFound

def readText (tree : FileTree) (path : String) : Except FileError String := do
  match String.fromUTF8? (← tree.readBytes path) with
  | some text => pure text
  | none => throw .notText

/-- Makes a directory, which may not be there yet; slashes at the end of its path do not matter. -/
def makeDirectory (tree : FileTree) (path : String) : Except FileError FileTree := do
  checkPath path
  let (location, last) ← tree.approach (withoutEndSlashes (Path.segments path))
  if isRelative last then throw .alreadyExists
  match ← tree.lookupName location last with
  | some _ => throw .alreadyExists
  | none => pure (tree.set (location ++ [last]) .directory)

/-- Writes a file, which may be there already, in a directory that is. A slash at the end of its
path asks for a directory, whatever is there. -/
def writeBytes (tree : FileTree) (path : String) (bytes : ByteArray) :
    Except FileError FileTree := do
  checkPath path
  let segments := Path.segments path
  let names := withoutEndSlashes segments
  let (location, last) ← tree.approach names
  if isRelative last ∨ names ≠ segments then throw .isDirectory
  match ← tree.lookupName location last with
  | some .directory => throw .isDirectory
  | _ => pure (tree.set (location ++ [last]) (.file bytes))

def writeText (tree : FileTree) (path : String) (text : String) : Except FileError FileTree :=
  tree.writeBytes path text.toUTF8

/-- Makes a directory and those of its ancestors that are missing, which follow it in the list, the
nearest first. What has been made stays even if making the rest fails. -/
def makeDirectories (tree : FileTree) : List String → Except FileError Unit × FileTree
  | [] => (.ok (), tree)
  | path :: ancestors =>
      let attempt := fun tree : FileTree =>
        match tree.makeDirectory path with
        | .ok made => (.ok (), made)
        | .error error => (if tree.isDirectory path then .ok () else .error error, tree)
      match tree.makeDirectory path with
      | .error .notFound =>
          match makeDirectories tree ancestors with
          | (.ok (), tree) => attempt tree
          | failed => failed
      | _ => attempt tree

end FileTree

end BaseApi
