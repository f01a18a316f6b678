import RouterGate.Files.Tree
/-!
Where a log goes: a directory and the name of a file in it, to which the day is added.
-/
namespace RouterGate.Log

structure Destination where
  directory : Files.Path
  fileName : String
  deriving DecidableEq, Repr

namespace Destination

def usualName : String := "trusttunnel-manager.log"

def ofPath (path : String) : Destination :=
  let parsed := Files.Path.ofString path
  ⟨parsed.directory, parsed.fileName?.getD usualName⟩

def dailyName (destination : Destination) (day : String) : String :=
  destination.fileName ++ "." ++ day

def prepare (destination : Destination) (day : String) (current : Files.Place)
    (tree : Files.Tree) : Except SystemFailure Files.Tree := do
  let directory := destination.directory
  let made ← tree.makeDirectories current directory.fromRoot directory.parts.reverse
  let place ← made.locate current directory
  return made.addFile (place ++ [destination.dailyName day]) []

end Destination

end RouterGate.Log
