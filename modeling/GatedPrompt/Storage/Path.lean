import GatedPrompt.Text.Cut

/-!
# Paths

Paths as their parts. Empty parts and single dots are dropped when a path is read; a step to the
parent is kept, since what it leads to depends on the files.

* `Path.ofString` and `Path.toString` — reading and writing; two leading slashes, and no other
  number above one, are kept apart from one, and no part holds a slash (`not_mem_of_mem_parts`);
* `Path.join` — a path inside a directory; an absolute one stands for itself.
-/

namespace GatedPrompt.Storage

/-- Where a path starts. -/
inductive Root where
  /-- At the working directory. -/
  | relative
  /-- At the root. -/
  | absolute
  /-- At the second root that two slashes denote. -/
  | doubled
  deriving DecidableEq, Repr, Inhabited

/-- How the start of a path is written. -/
def Root.text : Root → String
  | relative => ""
  | absolute => "/"
  | doubled => "//"

/-- A path: where it starts and the steps from there. -/
structure Path where
  root : Root
  parts : List String
  deriving DecidableEq, Repr, Inhabited

namespace Path

/-- The start of a path with a number of leading slashes. -/
def rootOfSlashes : Nat → Root
  | 0 => .relative
  | 2 => .doubled
  | _ => .absolute

/-- The path that a text denotes. -/
def ofString (text : String) : Path :=
  let cs := text.toList
  let slashes := (cs.takeWhile (· == '/')).length
  let parts := (Text.pieces '/' cs).map String.ofList
  ⟨rootOfSlashes slashes, parts.filter fun part => part ≠ "" && part ≠ "."⟩

/-- A path as text. -/
def toString (path : Path) : String :=
  let text := path.root.text ++ "/".intercalate path.parts
  if text.isEmpty then "." else text

/-- The path that a text denotes inside a directory. -/
def join (directory : Path) (text : String) : Path :=
  let path := ofString text
  match path.root with
  | .relative => ⟨directory.root, directory.parts ++ path.parts⟩
  | _ => path

/-- No step of a path that a text denotes holds a slash. -/
theorem not_mem_of_mem_parts {text part : String} (h : part ∈ (ofString text).parts) :
    '/' ∉ part.toList := by
  simp only [ofString, List.mem_filter, List.mem_map] at h
  obtain ⟨⟨piece, hpiece, rfl⟩, _⟩ := h
  rw [String.toList_ofList]
  exact Text.not_mem_of_mem_pieces hpiece

/-- An absolute path stands for itself in every directory. -/
theorem join_of_not_relative {directory : Path} {text : String}
    (h : (ofString text).root ≠ .relative) : directory.join text = ofString text := by
  simp only [join]

end Path

end GatedPrompt.Storage
