import RouterGate.Text.Cut
/-!
File paths: parts between slashes, from the root or from the working directory.
-/
namespace RouterGate.Files

structure Path where
  fromRoot : Bool
  /-- Empty parts and single dots are left out. -/
  parts : List String
  deriving DecidableEq, Repr

namespace Path

def ofString (s : String) : Path where
  fromRoot := s.toList.head? == some '/'
  parts := ((Text.fields '/' s.toList).map String.ofList).filter fun part =>
    !part.isEmpty && part != "."

def text (path : Path) : String :=
  (if path.fromRoot then "/" else "") ++ "/".intercalate path.parts

def fileName? (path : Path) : Option String :=
  match path.parts.getLast? with
  | none => none
  | some last => if last = ".." then none else some last

/-- The directory that holds what the path names; the working directory if the path tells
none. -/
def directory (path : Path) : Path :=
  if path.parts.isEmpty then ⟨false, []⟩ else ⟨path.fromRoot, path.parts.dropLast⟩

end Path

end RouterGate.Files
