import TileRealm.Files

/-!
# Trees of files

Directories within directories, with files in them, as a value.  A path with a slash in front is
looked up from the outermost directory, any other one from the directory in which one works.

* `FileTree.descend`: the way down from a directory along the names of a path.
* `FileTree.find`: what is found at a path.
-/

set_option autoImplicit false

namespace TileRealm

/-- A file or a directory. -/
inductive FileTree where
  | file (data : List UInt8)
  | directory (entries : List (String × FileTree))

namespace FileTree

/-- What is found at the place of a tree. -/
def content : FileTree → FileContent
  | file data => .bytes data
  | directory _ => .directory

/-- The names of a path, which are empty where two slashes meet and at its ends. -/
def names (path : String) : List String :=
  (path.splitToList (· = '/'))

/-- The way down along names, from a place within the given directories, the innermost of which is
the first.  A point and an empty name stay in a directory, and two points leave it. -/
def descend : List FileTree → FileTree → List String → Except PathFault FileTree
  | _, t, [] => .ok t
  | _, file _, _ :: _ => .error .notDirectory
  | above, directory entries, name :: rest =>
    if name = "" ∨ name = "." then descend above (directory entries) rest
    else if name = ".." then
      match above with
      | [] => descend [] (directory entries) rest
      | outer :: above => descend above outer rest
    else if maxNameSize < name.utf8ByteSize then .error .tooLong
    else
      match entries.find? (·.1 = name) with
      | none => .error .missing
      | some (_, t) => descend (directory entries :: above) t rest

/-- What is found at a path, looked up from the outermost directory or from one within it. -/
def find (root : FileTree) (work : List String) (path : String) : FileContent :=
  match pathFault? path with
  | some fault => .absent fault
  | none =>
    let names := names path
    match descend [] root (if path.startsWith "/" then names else work ++ names) with
    | .ok t => t.content
    | .error fault => .absent fault

end FileTree

end TileRealm
