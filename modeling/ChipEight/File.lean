/-
# Files

What a path leads to, or why it leads to nothing. A directory can be opened like a file, but there
is nothing to read in it.
-/

namespace ChipEight

/-- Why a file cannot be opened or read. -/
inductive FileError where
  /-- The path is empty or names something that does not exist. -/
  | notFound
  /-- The path goes on behind a file. -/
  | notDirectory
  /-- The path leads to a directory. -/
  | isDirectory
  /-- The path or a name in it has too many bytes. -/
  | nameTooLong
  /-- The path holds the character that ends a path. -/
  | zeroInPath
  /-- The system gives another reason. -/
  | other (reason : String)
  deriving DecidableEq, Repr

/-- The error in words. -/
def FileError.message : FileError → String
  | notFound => "No such file or directory (os error 2)"
  | notDirectory => "Not a directory (os error 20)"
  | isDirectory => "Is a directory (os error 21)"
  | nameTooLong => "File name too long (os error 36)"
  | zeroInPath => "file name contained an unexpected NUL byte"
  | other reason => reason

/-- What a path leads to. -/
inductive Opened where
  /-- A file with its bytes. -/
  | file (bytes : List UInt8)
  /-- A directory. -/
  | directory
  deriving DecidableEq, Repr

/-- The bytes of a file. -/
def Opened.read : Opened → Except FileError (List UInt8)
  | file bytes => .ok bytes
  | directory => .error .isDirectory

/-- The files that may be opened, by path. -/
abbrev Files := String → Except FileError Opened

end ChipEight
