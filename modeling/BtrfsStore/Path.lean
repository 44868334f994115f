/-!
# BtrfsStore.Path

Paths as their text, and the operations on them. A path is a start (the root,
an explicit `.`, or nothing) followed by segments between slashes. Segments
that are empty or `.` are *trivial*: they say nothing about the place, so
that `a//b/./` names the same file as `a/b`. Nothing here looks at a file
tree, and `..` is not resolved.

* `Path.parent`, `Path.fileName`, `Path.extension` take a path apart,
* `Path.join` and `Path.withFileName` put one together,
* `Path.ancestors` lists the path and its parents up to the start.
-/

namespace BtrfsStore

/-- A path, kept as the text the user wrote. -/
structure Path where
  /-- The text of the path. -/
  text : String
  deriving Repr, DecidableEq, Inhabited

namespace Path

/-! ### Segments -/

/-- The pieces between slashes, empty ones included; never an empty list. -/
def splitSlash : List Char → List (List Char)
  | [] => [[]]
  | c :: cs =>
    if c = '/' then [] :: splitSlash cs
    else
      match splitSlash cs with
      | [] => [[c]]
      | s :: ss => (c :: s) :: ss

/-- The text with a slash between neighbouring pieces. -/
def joinSlash : List (List Char) → List Char
  | [] => []
  | [s] => s
  | s :: ss => s ++ '/' :: joinSlash ss

/-- A segment that names no place of its own. -/
def isTrivial (segment : List Char) : Bool := segment.isEmpty || segment == ['.']

/-- Where a path starts. -/
inductive Start where
  /-- The root directory. -/
  | root
  /-- The current directory, written as `.`. -/
  | dot
  /-- The current directory, not written. -/
  | implicit
  deriving Repr, DecidableEq

/-- The text of a start. -/
def Start.chars : Start → List Char
  | .root => ['/']
  | .dot => ['.']
  | .implicit => []

/-- The start of a path and the text after it. -/
def splitStart : List Char → Start × List Char
  | '/' :: cs => (.root, cs)
  | ['.'] => (.dot, [])
  | '.' :: '/' :: cs => (.dot, '/' :: cs)
  | cs => (.implicit, cs)

/-- The start of a path. -/
def start (p : Path) : Start := (splitStart p.text.toList).1

/-- The segments after the start, the last one first. -/
def segmentsFromEnd (p : Path) : List (List Char) :=
  (splitSlash (splitStart p.text.toList).2).reverse

/-- Whether the path begins at the root. -/
def isAbsolute (p : Path) : Bool := p.start == .root

/-! ### Taking paths apart -/

/-- The path with the given start and segments, the last segment first;
trivial segments at its end are dropped. -/
def ofSegmentsFromEnd (start : Start) (segments : List (List Char)) : Path :=
  ⟨String.ofList (start.chars ++ joinSlash (segments.dropWhile isTrivial).reverse)⟩

/-- The parents of a path with the given start and segments (the last one
first), the nearest first. The last of them is the start itself; the parent of
a written `.` is the empty path. -/
def parentsOf (start : Start) : List (List Char) → List Path
  | [] => match start with
    | .dot => [⟨""⟩]
    | .root | .implicit => []
  | s :: ss =>
    if isTrivial s then parentsOf start ss
    else ofSegmentsFromEnd start ss :: parentsOf start ss

/-- All parents, the nearest first. -/
def parents (p : Path) : List Path := parentsOf p.start p.segmentsFromEnd

/-- The path and all its parents, the nearest first. -/
def ancestors (p : Path) : List Path := p :: p.parents

/-- The path without its last segment. The root and the empty path have no
parent. -/
def parent (p : Path) : Option Path := p.parents.head?

/-- The last segment, if the path ends in a name. -/
def fileName (p : Path) : Option String :=
  match p.segmentsFromEnd.dropWhile isTrivial with
  | [] => none
  | s :: _ => if s = ['.', '.'] then none else some (String.ofList s)

/-- The part of a file name after its last dot, if there is something before
that dot. -/
def extensionOf (name : List Char) : Option (List Char) :=
  let reversed := name.reverse
  let after := reversed.takeWhile (· != '.')
  match reversed.drop after.length with
  | _ :: _ :: _ => some after.reverse
  | _ => none

/-- The extension of the file name. -/
def extension (p : Path) : Option String :=
  p.fileName.bind fun name => (extensionOf name.toList).map String.ofList

/-! ### Putting paths together -/

/-- The path `q` seen from `p`: an absolute `q` stands for itself, any other
is appended after a slash. -/
def join (p q : Path) : Path :=
  if q.isAbsolute then q
  else if p.text.isEmpty || p.text.endsWith "/" then ⟨p.text ++ q.text⟩
  else ⟨p.text ++ "/" ++ q.text⟩

/-- The path `name` seen from `p`. -/
def child (p : Path) (name : String) : Path := p.join ⟨name⟩

/-- The path with another file name in place of its own; a path that does not
end in a name gets it appended. -/
def withFileName (p : Path) (name : String) : Path :=
  match p.fileName, p.parent with
  | some _, some dir => dir.child name
  | _, _ => p.child name

instance : ToString Path := ⟨Path.text⟩

end Path

end BtrfsStore
