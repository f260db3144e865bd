/-!
# Paths

A path is text; its segments are what stands between the slashes. `Path.parent?` cuts off the last
name of a path together with the empty and dot segments around it, and `Path.ancestors` repeats
that.
-/

namespace BaseApi

namespace Path

/-- What stands between the slashes of a path. -/
def segments (path : String) : List String :=
  (path.toList.splitOn '/').map String.ofList

def join (names : List String) : String := "/".intercalate names

/-- Drops segments that name nothing from the start of a reversed path, but not its last one. -/
def trimReversed : List String → List String
  | name :: next :: rest =>
      if name = "" ∨ name = "." then trimReversed (next :: rest) else name :: next :: rest
  | few => few

/-- The path of the directory that holds what a path names: the empty path for a lone name, and
nothing for the empty path and the root. -/
def parent? (path : String) : Option String :=
  match trimReversed (segments path).reverse with
  | [] => none
  | [""] => none
  | _ :: rest =>
      match trimReversed rest with
      | [""] => some "/"
      | rest => some (join rest.reverse)

/-- The parent of a path, its parent, and so on, as long as they are not empty; `fuel` bounds their
number. -/
def ancestorsUpTo : Nat → String → List String
  | 0, _ => []
  | fuel + 1, path =>
      match parent? path with
      | none => []
      | some parent => if parent = "" then [] else parent :: ancestorsUpTo fuel parent

/-- The directories that hold what a path names, the nearest first. A parent has fewer characters
than its path, so the length bounds their number. -/
def ancestors (path : String) : List String := ancestorsUpTo path.length path

def maxNameSize : Nat := 255

def maxPathSize : Nat := 4095

end Path

end BaseApi
