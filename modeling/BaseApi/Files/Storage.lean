import BaseApi.Files.Tree

/-!
# Where programs keep files

A program that reads and writes files is written over a `Storage`, so the same program runs on a
`FileTree` and on the disk. `Storage.deliver` writes a file after making the directories above it.
-/

namespace BaseApi

/-- The operations on files that a program needs. -/
class Storage (m : Type → Type) where
  /-- Reads a file as text. -/
  readText : String → m (Except FileError String)
  /-- Makes a directory and its missing ancestors, given with it, the nearest first. -/
  makeDirectories : List String → m (Except FileError Unit)
  /-- Writes a text to a file in a directory that is there. -/
  writeText : String → String → m (Except FileError Unit)

/-- A file tree as the state of a computation. -/
abbrev OnTree := StateM FileTree

instance : Storage OnTree where
  readText path := do pure ((← get).readText path)
  makeDirectories paths := do
    let (result, tree) := (← get).makeDirectories paths
    set tree
    pure result
  writeText path text := do
    match (← get).writeText path text with
    | .ok tree => set tree; pure (.ok ())
    | .error error => pure (.error error)

/-- Why a file could not be delivered. -/
inductive DeliveryError where
  /-- The directory above the file could not be made. -/
  | directory (path : String) (error : FileError)
  /-- The file could not be written. -/
  | file (path : String) (error : FileError)
deriving DecidableEq

/-- Writes a text to a file after making the directories above it. -/
def Storage.deliver {m : Type → Type} [Monad m] [Storage m] (path text : String) :
    m (Except DeliveryError Unit) := do
  let above := Path.ancestors path
  match ← makeDirectories above with
  | .error error => pure (.error (.directory (above.headD "") error))
  | .ok () =>
      match ← writeText path text with
      | .error error => pure (.error (.file path error))
      | .ok () => pure (.ok ())

end BaseApi
