import RouterGate.Fault.Basic
import RouterGate.Files.Path
import RouterGate.Text.Bytes
/-!
A tree of directories and files in memory, with the answers that a file system gives.
-/
namespace RouterGate.Files

/-- Parts from the root, without dots. -/
abbrev Place := List String

structure Tree where
  directories : List Place
  files : List (Place × Bytes)

namespace Tree

def isDirectory (tree : Tree) (place : Place) : Bool :=
  place.isEmpty || tree.directories.contains place

def isFile (tree : Tree) (place : Place) : Bool :=
  tree.files.any (·.1 == place)

def missing : SystemFailure :=
  .os 2 "NotFound" "No such file or directory"

def occupied : SystemFailure :=
  .os 17 "AlreadyExists" "File exists"

def notDirectory : SystemFailure :=
  .os 20 "NotADirectory" "Not a directory"

/-- Follow parts from a place; each step starts from a directory. -/
def follow (tree : Tree) (place : Place) : List String → Except SystemFailure Place
  | [] => .ok place
  | part :: rest =>
      if tree.isDirectory place then
        tree.follow (if part = ".." then place.dropLast else place ++ [part]) rest
      else if tree.isFile place then .error notDirectory
      else .error missing

def locate (tree : Tree) (current : Place) (path : Path) : Except SystemFailure Place :=
  tree.follow (if path.fromRoot then [] else current) path.parts

def makeDirectory (tree : Tree) (current : Place) (path : Path) : Except SystemFailure Tree := do
  let place ← tree.locate current path
  if tree.isDirectory place || tree.isFile place then .error occupied
  else .ok { tree with directories := tree.directories ++ [place] }

def leadsToDirectory (tree : Tree) (current : Place) (path : Path) : Bool :=
  match tree.locate current path with
  | .ok place => tree.isDirectory place
  | .error _ => false

/-- Make a directory and those above it that are missing; the parts come last first. -/
def makeDirectories (tree : Tree) (current : Place) (fromRoot : Bool) :
    List String → Except SystemFailure Tree
  | [] => .ok tree
  | part :: above =>
      let path : Path := ⟨fromRoot, (part :: above).reverse⟩
      match tree.makeDirectory current path with
      | .ok made => .ok made
      | .error failure =>
          if failure = missing then do
            let made ← tree.makeDirectories current fromRoot above
            match made.makeDirectory current path with
            | .ok all => .ok all
            | .error second =>
                if made.leadsToDirectory current path then .ok made else .error second
          else if tree.leadsToDirectory current path then .ok tree
          else .error failure

def addFile (tree : Tree) (place : Place) (content : Bytes) : Tree :=
  { tree with files := tree.files ++ [(place, content)] }

def plant (tree : Tree) (place : Place) (content : Bytes) : Tree :=
  let above := (List.range place.length).map place.take
  { directories := tree.directories ++ above.filter fun p => !tree.isDirectory p
    files := tree.files ++ [(place, content)] }

def read? (tree : Tree) (current : Place) (path : Path) : Option Bytes :=
  match tree.locate current path with
  | .ok place => (tree.files.find? (·.1 == place)).map (·.2)
  | .error _ => none

end Tree

end RouterGate.Files
