import BtrfsStore.Path
import BtrfsStore.Text.Encoding
/-!
# BtrfsStore.FileTree

A tree of directories and files with a current directory, and the file
operations that provisioning needs: existence, creating directories, removing,
reading and writing files. There are no links and no permissions.

Faults are those that a kernel reports while it walks a path segment by
segment: a missing segment, a file where a directory is needed, and so on.
-/

namespace BtrfsStore

/-! ### Faults -/

/-- Why a file operation failed. -/
inductive FileFault where
  /-- A segment of the path does not exist. -/
  | notFound
  /-- There is something at the path already. -/
  | alreadyExists
  /-- A segment before the end is a file. -/
  | notADirectory
  /-- A file was needed and there is a directory. -/
  | isADirectory
  /-- A segment or the whole path is too long. -/
  | nameTooLong
  /-- The path holds a NUL character. -/
  | nulInPath
  /-- A file that had to be text is not valid UTF-8. -/
  | notText
  /-- Any other fault, by its wording. -/
  | other (text : String)
  deriving Repr, DecidableEq

/-- The wording of a fault. -/
def FileFault.message : FileFault → String
  | .notFound => "No such file or directory (os error 2)"
  | .alreadyExists => "File exists (os error 17)"
  | .notADirectory => "Not a directory (os error 20)"
  | .isADirectory => "Is a directory (os error 21)"
  | .nameTooLong => "File name too long (os error 36)"
  | .nulInPath => "file name contained an unexpected NUL byte"
  | .notText => "stream did not contain valid UTF-8"
  | .other text => text

/-! ### The tree -/

/-- What is at a place of the tree. -/
inductive Node where
  /-- A directory. -/
  | directory
  /-- A file with its bytes. -/
  | file (bytes : List UInt8)
  deriving Repr, DecidableEq

/-- A place of the tree: the names on the way from the root. -/
abbrev Place := List String

/-- A file tree. The root itself is always a directory and is not listed. -/
structure FileTree where
  /-- The nodes below the root, in the order of their creation. -/
  nodes : List (Place × Node) := []
  /-- The directory where relative paths start. -/
  current : Place := []
  deriving Repr, DecidableEq, Inhabited

namespace FileTree

/-- The node at a place. -/
def nodeAt (t : FileTree) (place : Place) : Option Node :=
  if place.isEmpty then some .directory else t.nodes.lookup place

/-- The tree with `node` at `place`, in the position of what was there. -/
def put (t : FileTree) (place : Place) (node : Node) : FileTree :=
  if t.nodes.any (·.1 == place) then
    { t with nodes := t.nodes.map fun e => if e.1 == place then (place, node) else e }
  else { t with nodes := t.nodes ++ [(place, node)] }

/-- The tree without the node at `place`. -/
def erase (t : FileTree) (place : Place) : FileTree :=
  { t with nodes := t.nodes.filter (·.1 != place) }

/-- The tree that holds `place` and all directories on the way to it. -/
def withDirectory (t : FileTree) (place : Place) : FileTree :=
  (List.range place.length).foldl
    (fun t i =>
      let place := place.take (i + 1)
      if (t.nodeAt place).isSome then t else t.put place .directory) t

/-! ### Walking a path -/

/-- The longest name of one segment, in bytes. -/
def maxNameBytes : Nat := 255

/-- The longest path, in bytes. -/
def maxPathBytes : Nat := 4095

/-- Where a path leads. -/
inductive Target where
  /-- To something that exists. -/
  | node (place : Place) (node : Node)
  /-- To a name that does not exist in a directory that does; `asDirectory` if
  the path ends in a slash. -/
  | free (place : Place) (asDirectory : Bool)
  deriving Repr, DecidableEq

/-- Follows segments from the directory `here`. -/
def follow (t : FileTree) (here : Place) : List String → Except FileFault Target
  | [] => .ok (.node here .directory)
  | s :: rest =>
    if s = "" ∨ s = "." then t.follow here rest
    else if s = ".." then t.follow here.dropLast rest
    else if maxNameBytes < s.utf8ByteSize then .error .nameTooLong
    else
      match t.nodeAt (here ++ [s]) with
      | some .directory => t.follow (here ++ [s]) rest
      | some (.file bytes) =>
        if rest.isEmpty then .ok (.node (here ++ [s]) (.file bytes)) else .error .notADirectory
      | none =>
        if rest.all (· == "") then .ok (.free (here ++ [s]) (!rest.isEmpty))
        else .error .notFound

/-- Where a path leads. -/
def walk (t : FileTree) (p : Path) : Except FileFault Target :=
  if p.text.isEmpty then .error .notFound
  else if p.text.toList.contains (Char.ofNat 0) then .error .nulInPath
  else if maxPathBytes < p.text.utf8ByteSize then .error .nameTooLong
  else
    t.follow (if p.isAbsolute then [] else t.current)
      ((Path.splitSlash p.text.toList).map String.ofList)

/-! ### Looking -/

/-- Whether there is something at the path. -/
def pathExists (t : FileTree) (p : Path) : Bool :=
  match t.walk p with
  | .ok (.node _ _) => true
  | _ => false

/-- Whether there is a directory at the path. -/
def isDirectory (t : FileTree) (p : Path) : Bool :=
  match t.walk p with
  | .ok (.node _ .directory) => true
  | _ => false

/-- The bytes of the file at the path. -/
def readBytes (t : FileTree) (p : Path) : Except FileFault (List UInt8) :=
  match t.walk p with
  | .ok (.node _ (.file bytes)) => .ok bytes
  | .ok (.node _ .directory) => .error .isADirectory
  | .ok (.free _ _) => .error .notFound
  | .error fault => .error fault

/-- The text of the file at the path. -/
def readText (t : FileTree) (p : Path) : Except FileFault String := do
  match Text.decodeStrict? (← t.readBytes p) with
  | some text => .ok text
  | none => .error .notText

/-- The names in the directory at the path. -/
def children (t : FileTree) (p : Path) : List String :=
  match t.walk p with
  | .ok (.node place .directory) =>
    t.nodes.filterMap fun (at_, _) => if at_.dropLast = place then at_.getLast? else none
  | _ => []

/-! ### Changing -/

/-- Creates one directory. -/
def makeDirectory (t : FileTree) (p : Path) : Except FileFault FileTree :=
  match t.walk p with
  | .ok (.node _ _) => .error .alreadyExists
  | .ok (.free place _) => .ok (t.put place .directory)
  | .error fault => .error fault

/-- Creates the directories of a list of ancestors, the nearest first: a
directory that cannot be created because its parent is missing is tried again
after the parent. A directory that exists is no fault. -/
def makeAll (t : FileTree) : List Path → FileTree × Except FileFault Unit
  | [] => (t, .error (.other "failed to create whole tree"))
  | p :: rest =>
    if p.text.isEmpty then (t, .ok ())
    else
      match t.makeDirectory p with
      | .ok t => (t, .ok ())
      | .error .notFound =>
        match t.makeAll rest with
        | (t, .error fault) => (t, .error fault)
        | (t, .ok ()) =>
          match t.makeDirectory p with
          | .ok t => (t, .ok ())
          | .error fault => (t, if t.isDirectory p then .ok () else .error fault)
      | .error fault => (t, if t.isDirectory p then .ok () else .error fault)

/-- Creates a directory and all that is missing on the way to it. -/
def makeDirectories (t : FileTree) (p : Path) : FileTree × Except FileFault Unit :=
  t.makeAll p.ancestors

/-- Removes a file. -/
def removeFile (t : FileTree) (p : Path) : FileTree × Except FileFault Unit :=
  match t.walk p with
  | .ok (.node place (.file _)) => (t.erase place, .ok ())
  | .ok (.node _ .directory) => (t, .error .isADirectory)
  | .ok (.free _ _) => (t, .error .notFound)
  | .error fault => (t, .error fault)

/-- Writes a file, creating it if there is none. -/
def writeBytes (t : FileTree) (p : Path) (bytes : List UInt8) :
    FileTree × Except FileFault Unit :=
  match t.walk p with
  | .ok (.node place (.file _)) => (t.put place (.file bytes), .ok ())
  | .ok (.node _ .directory) => (t, .error .isADirectory)
  | .ok (.free place false) => (t.put place (.file bytes), .ok ())
  | .ok (.free _ true) => (t, .error .isADirectory)
  | .error fault => (t, .error fault)

/-- Writes a text as a file. -/
def writeText (t : FileTree) (p : Path) (text : String) : FileTree × Except FileFault Unit :=
  t.writeBytes p (Text.encodeUtf8 text)

/-! ### Listing -/

/-- The paths below a place, relative to it, directories with a slash at the
end, sorted by their bytes. -/
def listing (t : FileTree) (place : Place) : List String :=
  let below := t.nodes.filterMap fun (at_, node) =>
    if place.isPrefixOf at_ && at_.length != place.length then
      let relative := String.intercalate "/" (at_.drop place.length)
      some (match node with
        | .directory => relative ++ "/"
        | .file _ => relative)
    else none
  below.mergeSort fun a b => decide (a ≤ b)

end FileTree

end BtrfsStore
