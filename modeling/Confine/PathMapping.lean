/-!
Mappings from the path names that a child uses to those of the host. A sandbox and its engine share
one slot; replacing the function there takes effect with the next look-up.
-/

namespace Confine

/-- A function on path names. -/
abbrev PathMap := String → String

/-- A root without its trailing slashes. -/
def trimRoot (root : List Char) : List Char := (root.reverse.dropWhile (· = '/')).reverse

/-- Puts a root before an absolute path and leaves a relative one alone. -/
def rootedPath (root path : List Char) : List Char :=
  match path with
  | '/' :: _ => trimRoot root ++ path
  | _ => path

/-- Moves absolute paths under a root. -/
def rooted (root : String) : PathMap := fun path =>
  String.ofList (rootedPath root.toList path.toList)

/-- The slot that holds the mapping in force. -/
structure PathMapping where
  current : PathMap

namespace PathMapping

def identity : PathMapping := ⟨id⟩

def ofMap (f : PathMap) : PathMapping := ⟨f⟩

/-- Maps a path by the function in force. -/
def map (m : PathMapping) (path : String) : String := m.current path

def replace (_ : PathMapping) (f : PathMap) : PathMapping := ⟨f⟩

def reset (_ : PathMapping) : PathMapping := identity

/-- The function itself is not shown. -/
def diagnostic (_ : PathMapping) : String := "FilenameMapping \x7b .. \x7d"

end PathMapping

end Confine
