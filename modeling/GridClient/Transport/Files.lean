import GridClient.Text.Cut

/-!
# `GridClient.Transport.Files` — what a path leads to

## Contents
- `FileTree`: the directories and files that are there.
- `FileTree.problem?`: the reason why a path cannot be read, if there is one.
- `FileTree.usual`: the directories and files of a system with the usual layout.
-/

namespace GridClient

open Text

/-- The directories and plain files that are there, each as the steps from the root. -/
structure FileTree where
  directories : List (List String)
  files : List (List String)

/-- Why a path cannot be read. -/
inductive PathProblem
  | missing
  | isDirectory
  | notDirectory
  | nameTooLong
  | unusableName
  deriving DecidableEq, Repr

def PathProblem.message : PathProblem → String
  | missing => "No such file or directory (os error 2)"
  | isDirectory => "Is a directory (os error 21)"
  | notDirectory => "Not a directory (os error 20)"
  | nameTooLong => "File name too long (os error 36)"
  | unusableName => "file name contained an unexpected NUL byte"

namespace FileTree

/-- The greatest length of one step of a path in octets. -/
def greatestStep : Nat := 255

/-- The greatest length of a path in octets. -/
def greatestPath : Nat := 4095

/-- Goes on from a directory that is there. A step that is no directory has to be the last. -/
def walk (tree : FileTree) (here : List String) : List String → Option PathProblem
  | [] => some .isDirectory
  | step :: rest =>
    if step = "" ∨ step = "." then tree.walk here rest
    else if step = ".." then tree.walk here.dropLast rest
    else if greatestStep < step.utf8ByteSize then some .nameTooLong
    else
      let next := here ++ [step]
      if tree.directories.contains next then tree.walk next rest
      else if tree.files.contains next then
        if rest.isEmpty then none else some .notDirectory
      else some .missing

/-- Why a path cannot be read as a file, if it cannot. A path that does not begin with a slash
begins at the root too. -/
def problem? (tree : FileTree) (path : String) : Option PathProblem :=
  if has path (Char.ofNat 0) then some .unusableName
  else if path = "" then some .missing
  else if greatestPath < path.utf8ByteSize then some .nameTooLong
  else tree.walk [] ((pieces '/' path.toList).map String.ofList)

/-- The directories and files that a system of the usual layout has. -/
def usual : FileTree where
  directories :=
    [["bin"], ["boot"], ["dev"], ["etc"], ["home"], ["lib"], ["media"], ["mnt"], ["opt"], ["proc"],
      ["root"], ["run"], ["sbin"], ["srv"], ["sys"], ["tmp"], ["usr"], ["var"], ["etc", "ssl"],
      ["etc", "ssl", "certs"], ["usr", "bin"], ["usr", "lib"], ["usr", "local"], ["usr", "share"],
      ["usr", "src"], ["var", "lib"], ["var", "log"], ["var", "tmp"]]
  files :=
    [["dev", "null"], ["etc", "group"], ["etc", "hostname"], ["etc", "hosts"], ["etc", "passwd"],
      ["etc", "resolv.conf"]]

end FileTree
end GridClient
