import LiveVisuals.Keyed

/-!
# File trees

The part of a file system that the program reads and writes: directories and files below one
root, with modification times in microseconds.

Creating or removing an entry gives the directory that holds it a new modification time;
overwriting a file gives one to the file only.

Main definitions:

- {lit}`Files.Node`: a file or a directory.
- {lit}`Files.Path`: names that lead from the root to a node.
- {lit}`Files.Node.read`, {lit}`Files.Node.write`, {lit}`Files.Node.makeDirectories`,
  {lit}`Files.Node.remove`, {lit}`Files.Node.touch`: the operations.
-/

namespace LiveVisuals.Files

/-- Why a file operation fails. -/
inductive Error where
  | notFound
  | notDirectory
  | isDirectory
  | occupied
  | nameTooLong
deriving DecidableEq, Repr

/-- Code of a file error. -/
def Error.code : Error → String
  | notFound => "ENOENT"
  | notDirectory => "ENOTDIR"
  | isDirectory => "EISDIR"
  | occupied => "EEXIST"
  | nameTooLong => "ENAMETOOLONG"

/-- A file or a directory. -/
inductive Node where
  | file (content : String) (modified : Nat)
  | directory (entries : List (String × Node)) (modified : Nat)
deriving Inhabited

/-- Names that lead from the root to a node. -/
abbrev Path := List String

namespace Path

/-- Add a name to a path: the empty name and the dot stay, two dots go back. -/
def step (p : Path) (name : String) : Path :=
  if name = "" ∨ name = "." then p else if name = ".." then p.dropLast else p ++ [name]

/-- The path of a text with slashes, from some directory. -/
def join (base : Path) (text : String) : Path :=
  (text.splitOn "/").foldl step base

/-- The path of a text with slashes, from the root. -/
def ofString (text : String) : Path := join [] text

/-- A path as text with slashes. -/
def text (p : Path) : String := "/".intercalate p

end Path

/-- The longest name that a directory can hold, in bytes. -/
def longestName : Nat := 255

namespace Node

/-- Modification time of a node. -/
def modified : Node → Nat
  | file _ m => m
  | directory _ m => m

/-- An empty directory. -/
def emptyDirectory (now : Nat) : Node := directory [] now

/-- The node at a path. -/
def find : Path → Node → Except Error Node
  | [], n => .ok n
  | name :: rest, directory entries _ =>
      if longestName < name.utf8ByteSize then .error .nameTooLong
      else
        match Keyed.get? name entries with
        | some n => find rest n
        | none => .error .notFound
  | _ :: _, file .. => .error .notDirectory

/-- The content of the file at a path. -/
def read (p : Path) (root : Node) : Except Error String :=
  match find p root with
  | .ok (file content _) => .ok content
  | .ok (directory ..) => .error .isDirectory
  | .error e => .error e

/-- Whether there is a node at a path. -/
def has (p : Path) (root : Node) : Bool :=
  match find p root with
  | .ok _ => true
  | .error _ => false

/-- New directories along a path around a node. -/
def wrap (now : Nat) (n : Node) : Path → Node
  | [] => n
  | name :: rest => directory [(name, wrap now n rest)] now

/-- Make a directory and whatever is missing on the way to it. -/
def makeDirectories (now : Nat) : Path → Node → Except Error Node
  | [], directory entries m => .ok (directory entries m)
  | [], file .. => .error .occupied
  | name :: rest, directory entries m =>
      if longestName < name.utf8ByteSize then .error .nameTooLong
      else
        match Keyed.get? name entries with
        | some n =>
            (makeDirectories now rest n).map fun n => directory (Keyed.put name n entries) m
        | none =>
            .ok (directory (Keyed.put name (wrap now (emptyDirectory now) rest) entries) now)
  | _ :: _, file .. => .error .notDirectory

/-- Write a file in an existing directory; {lit}`change` makes its content from the old one. -/
def write (now : Nat) (change : String → String) : Path → Node → Except Error Node
  | [], file content _ => .ok (file (change content) now)
  | [], directory .. => .error .isDirectory
  | name :: rest, directory entries m =>
      if longestName < name.utf8ByteSize then .error .nameTooLong
      else
        match Keyed.get? name entries with
        | some n => (write now change rest n).map fun n => directory (Keyed.put name n entries) m
        | none =>
            if rest.isEmpty then
              .ok (directory (Keyed.put name (file (change "") now) entries) now)
            else .error .notFound
  | _ :: _, file .. => .error .notDirectory

/-- Remove the node at a path with all it holds. -/
def remove (now : Nat) : Path → Node → Except Error Node
  | [], n => .ok n
  | name :: rest, directory entries m =>
      if longestName < name.utf8ByteSize then .error .nameTooLong
      else
        match Keyed.get? name entries with
        | some n =>
            if rest.isEmpty then .ok (directory (Keyed.erase name entries) now)
            else (remove now rest n).map fun n => directory (Keyed.put name n entries) m
        | none => .error .notFound
  | _ :: _, file .. => .error .notDirectory

/-- Give the node at a path a modification time. -/
def touch (now : Nat) : Path → Node → Except Error Node
  | [], file content _ => .ok (file content now)
  | [], directory entries _ => .ok (directory entries now)
  | name :: rest, directory entries m =>
      if longestName < name.utf8ByteSize then .error .nameTooLong
      else
        match Keyed.get? name entries with
        | some n => (touch now rest n).map fun n => directory (Keyed.put name n entries) m
        | none => .error .notFound
  | _ :: _, file .. => .error .notDirectory

/-- Write a file and make the directories that are missing on the way to it. -/
def writeThrough (now : Nat) (content : String) (p : Path) (root : Node) : Except Error Node :=
  (makeDirectories now p.dropLast root).bind (write now (fun _ => content) p)

end Node

end LiveVisuals.Files
