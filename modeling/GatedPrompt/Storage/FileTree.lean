import GatedPrompt.Json.Value
import GatedPrompt.Storage.Path

/-!
# File trees

A tree of files and the way a path is followed in it.

* `Lookup` — what a path leads to: the bytes of a file, nothing, or something that is no readable
  file;
* `Tree` — a file, or a directory with named entries;
* `Tree.lookup` — what a path leads to from the top of the tree, step by step: a missing step ends
  the search, and a step from a file to something below it cannot be read. What lies above the tree
  is a directory without entries;
* `Tree.insert` and `Tree.remove` — the tree with a change at a path.
-/

namespace GatedPrompt.Storage

/-- What a path leads to. -/
inductive Lookup where
  | bytes (bytes : List UInt8)
  | missing
  /-- A directory, a path through a file, or a name that is too long. -/
  | unreadable
  /-- No path at all: it holds the character NUL. -/
  | notAPath
  deriving DecidableEq, Repr, Inhabited

/-- A file, or a directory with named entries. -/
inductive Tree where
  | file (bytes : List UInt8)
  | directory (entries : List (String × Tree))
  deriving Repr, Inhabited

namespace Tree

/-- The directory without entries. -/
def empty : Tree := .directory []

/-- The greatest number of bytes in a name. -/
def nameLimit : Nat := 255

/-- The number of bytes from which on a path is too long. -/
def pathLimit : Nat := 4096

/-- The entries of a directory; a file has none. -/
def entries : Tree → List (String × Tree)
  | .file _ => []
  | .directory es => es

/-- What the steps of a path lead to from a place in a tree, given the places above it. -/
def follow (above : List Tree) (here : Tree) : List String → Lookup
  | [] =>
    match here with
    | .file bytes => .bytes bytes
    | .directory _ => .unreadable
  | part :: parts =>
    match here with
    | .file _ => .unreadable
    | .directory es =>
      if part = ".." then
        match above with
        -- Above the top there is only a directory without entries.
        | [] => follow [] empty parts
        | parent :: others => follow others parent parts
      else if nameLimit < part.utf8ByteSize then .unreadable
      else
        match Json.member? part es with
        | none => .missing
        | some next => follow (here :: above) next parts

/-- What a path leads to, if it is followed from the top of the tree. -/
def lookup (tree : Tree) (path : Path) : Lookup :=
  if path.toString.toList.contains '\x00' then .notAPath
  else if pathLimit ≤ path.toString.utf8ByteSize then .unreadable
  else
    match path.root with
    | .relative => follow [] tree path.parts
    -- An absolute path starts above the tree too.
    | _ => follow [] empty path.parts

/-- The tree with something new at the end of the steps; directories on the way are made. -/
def insert (new : Tree) : List String → Tree → Tree
  | [], _ => new
  | part :: parts, tree =>
    let next := (Json.member? part tree.entries).getD empty
    .directory (Json.setMember part (insert new parts next) tree.entries)

/-- The tree without what stands at the end of the steps. -/
def remove : List String → Tree → Tree
  | [], _ => empty
  | [name], tree => .directory (tree.entries.filter fun entry => entry.1 ≠ name)
  | part :: parts, tree =>
    match Json.member? part tree.entries with
    | none => tree
    | some next => .directory (Json.setMember part (remove parts next) tree.entries)

end Tree

end GatedPrompt.Storage
