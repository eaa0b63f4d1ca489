/-!
# Files

What is found at a path, and why it cannot be read as a text.

* `FileContent.text`: the text at a path.
* `pathFault?`: what is wrong with a path before anything is looked up.
-/

set_option autoImplicit false

namespace TileRealm

/-! ## What is found -/

/-- Why there is nothing at a path. -/
inductive PathFault where
  | missing
  /-- The path goes through something that is not a directory. -/
  | notDirectory
  | tooLong
  /-- The path has a NUL, which no file name can have. -/
  | nul
deriving DecidableEq

/-- The text that tells a reader why. -/
def PathFault.message : PathFault → String
  | missing => "No such file or directory (os error 2)"
  | notDirectory => "Not a directory (os error 20)"
  | tooLong => "File name too long (os error 36)"
  | nul => "file name contained an unexpected NUL byte"

/-- What is found at a path. -/
inductive FileContent where
  | absent (fault : PathFault)
  | directory
  /-- A file that may not be read. -/
  | locked
  | bytes (data : List UInt8)

/-- Why there is no text at a path. -/
inductive FileFault where
  | absent (fault : PathFault)
  | directory
  | locked
  /-- The bytes are not well-formed UTF-8. -/
  | notText
deriving DecidableEq

/-- The text that tells a reader why. -/
def FileFault.message : FileFault → String
  | absent fault => fault.message
  | directory => "Is a directory (os error 21)"
  | locked => "Permission denied (os error 13)"
  | notText => "stream did not contain valid UTF-8"

namespace FileContent

/-- Whether there is anything at the path. -/
def exists? : FileContent → Bool
  | absent _ => false
  | _ => true

/-- The text at a path. -/
def text : FileContent → Except FileFault String
  | absent fault => .error (.absent fault)
  | directory => .error .directory
  | locked => .error .locked
  | bytes data =>
    match String.fromUTF8? (ByteArray.mk data.toArray) with
    | some s => .ok s
    | none => .error .notText

end FileContent

/-! ## Paths -/

/-- How many bytes a path may have at most. -/
def maxPathSize : Nat := 4095

/-- How many bytes a name within a path may have at most. -/
def maxNameSize : Nat := 255

/-- What is wrong with a path before anything is looked up. -/
def pathFault? (path : String) : Option PathFault :=
  if path.toList.contains '\x00' then some .nul
  else if path.isEmpty then some .missing
  else if maxPathSize < path.utf8ByteSize then some .tooLong
  else none

end TileRealm
