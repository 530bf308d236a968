set_option autoImplicit false

/-! # Entries of a file system

What a name stands for in a file system, with or without the content of a file. -/

namespace ScriptLexer

/-- What a name stands for in the file system. -/
inductive FileKind where
  /-- Nothing. -/
  | absent
  /-- A directory. -/
  | directory
  /-- A file. -/
  | file
deriving DecidableEq, Repr

/-- What a name stands for in the file system, with the content of a file. -/
inductive Entry where
  /-- Nothing. -/
  | absent
  /-- A directory. -/
  | directory
  /-- A file that holds the bytes. -/
  | file (bytes : List UInt8)
deriving DecidableEq, Repr

namespace Entry

/-- What a name stands for, the content of a file left out. -/
def kind : Entry → FileKind
  | .absent => .absent
  | .directory => .directory
  | .file _ => .file

/-- The content of a file; anything else has none. -/
def content : Entry → List UInt8
  | .file bytes => bytes
  | _ => []

end Entry

end ScriptLexer
