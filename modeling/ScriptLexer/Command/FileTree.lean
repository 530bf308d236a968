import ScriptLexer.Command.Entry
import ScriptLexer.Command.Path
import ScriptLexer.Text.Utf8

set_option autoImplicit false

/-! # File trees

A file system held in memory, in which a call can be made without touching the machine. A path
is followed step by step, from the root or from the working directory, and every step, also one
that stays where it is or leads back, can only be taken in a directory that exists. -/

namespace ScriptLexer

/-- Directories and files, each by the names that lead to it from the root. -/
structure FileTree where
  /-- The directories; those that lead to a directory or to a file need not be listed. -/
  directories : List (List Text)
  /-- The files with their content. -/
  files : List (List Text × List UInt8)
  /-- The directory that a path starts from if it does not start at the root. -/
  working : List Text
deriving DecidableEq, Repr

namespace FileTree

/-- The most bytes that a path may have. -/
def longestPath : Nat := 4095

/-- The place is a directory. -/
def isDirectory (tree : FileTree) (place : List Text) : Bool :=
  place.isPrefixOf tree.working || tree.directories.any (place.isPrefixOf ·) ||
    tree.files.any fun file => place.isPrefixOf file.1.dropLast

/-- The place that steps lead to. -/
def walk (tree : FileTree) (place : List Text) : List Text → Option (List Text)
  | [] => some place
  | step :: steps =>
    if !tree.isDirectory place then none
    else if Path.stays step then tree.walk place steps
    else if Path.leadsBack step then tree.walk place.dropLast steps
    else tree.walk (place ++ [step]) steps

/-- What is at a place. -/
def entryAt (tree : FileTree) (place : List Text) : Entry :=
  if tree.isDirectory place then .directory
  else
    match tree.files.lookup place with
    | some bytes => .file bytes
    | none => .absent

/-- What a path stands for. -/
def entry (tree : FileTree) (path : Text) : Entry :=
  if path.isEmpty || decide (longestPath < (Utf8.encode path).length) then .absent
  else
    let origin := if Path.isAbsolute path then [] else tree.working
    match tree.walk origin (Path.steps path) with
    | some place => tree.entryAt place
    | none => .absent

/-- The place of a path of names below the working directory. -/
def below (tree : FileTree) (path : Text) : List Text :=
  tree.working ++ (Path.steps path).filter (!Path.stays ·)

/-- The tree with one more directory below the working directory. -/
def withDirectory (path : Text) (tree : FileTree) : FileTree :=
  { tree with directories := tree.below path :: tree.directories }

/-- The tree with one more file below the working directory. -/
def withFile (path : Text) (bytes : List UInt8) (tree : FileTree) : FileTree :=
  { tree with files := (tree.below path, bytes) :: tree.files }

/-- The directories that a system has at its root. -/
def usualDirectories : List (List Text) :=
  [["bin".toList], ["boot".toList], ["dev".toList], ["etc".toList], ["home".toList],
    ["lib".toList], ["media".toList], ["mnt".toList], ["opt".toList], ["proc".toList],
    ["root".toList], ["run".toList], ["sbin".toList], ["srv".toList], ["sys".toList],
    ["tmp".toList], ["usr".toList], ["var".toList]]

/-- A system with its usual directories, the device that is always empty, and an empty working
directory among the temporary files. -/
def fresh : FileTree :=
  ⟨usualDirectories, [(["dev".toList, "null".toList], [])], ["tmp".toList, "work".toList]⟩

end FileTree

end ScriptLexer
