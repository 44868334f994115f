import BtrfsStore.Shell.Machine
/-!
# BtrfsStore.Shell.Opening

Opening files and devices as streams, searching for programs, and the reasons
why a file or a program is not to be had.
-/

namespace BtrfsStore.Shell

/-! ### Reasons -/

/-- Why a file cannot be used, as programs report it. -/
def reasonOf : FileFault → String
  | .notFound => "No such file or directory"
  | .alreadyExists => "File exists"
  | .notADirectory => "Not a directory"
  | .isADirectory => "Is a directory"
  | .nameTooLong => "File name too long"
  | .nulInPath | .notText => "Invalid argument"
  | .other text => text

/-- Whether a fault is that there is nothing at a path. -/
def isMissing (fault : FileFault) : Bool := fault == .notFound || fault == .notADirectory

/-- Why the shell cannot open a file for reading. -/
def openReason (fault : FileFault) : String :=
  if isMissing fault then "No such file" else reasonOf fault

/-- Why the shell cannot create a file. -/
def createReason (fault : FileFault) : String :=
  if isMissing fault then "Directory nonexistent" else reasonOf fault

namespace Machine

/-! ### Opening -/

/-- The descriptor that the path of a device stands for. -/
def descriptorOf? (path : String) : Option Nat :=
  match path with
  | "/dev/stdin" => some 0
  | "/dev/stdout" => some 1
  | "/dev/stderr" => some 2
  | _ => if path.startsWith "/dev/fd/" then (path.drop 8).toNat? else none

/-- Opens a device, if a path is that of a device. -/
def openDevice? (path : String) : Run (Option (Except FileFault Nat)) := do
  match descriptorOf? path with
  | some descriptor =>
    match (← currentSession).stream? descriptor with
    | some index => pure (some (.ok index))
    | none => pure (some (.error .notFound))
  | none =>
    match path with
    | "/dev/null" => return some (.ok (← openStream .null))
    | "/dev/zero" => return some (.ok (← openStream (.zeros false)))
    | "/dev/full" => return some (.ok (← openStream (.zeros true)))
    | "/dev/tty" => pure (some (.error (.other "No such device or address")))
    | _ => pure none

/-- Opens a file as a stream. A file that is written is created if there is
none, and emptied unless it is to be continued; `keepsFiles` keeps it from being
written over. -/
def openFile (mode : OpenMode) (keepsFiles : Bool) (path : String) :
    Run (Except FileFault Nat) := do
  if let some opened ← openDevice? path then
    return opened
  let target ← absolute path
  let m ← get
  let stream (atEnd readable writable : Bool) : Run (Except FileFault Nat) := do
    return .ok (← openStream (.file target 0 atEnd readable writable))
  let existing := m.files.walk target
  let writeBytes (bytes : List UInt8) (andThen : Run (Except FileFault Nat)) :
      Run (Except FileFault Nat) :=
    match m.files.writeBytes target bytes with
    | (files, .ok ()) => do
      modify fun m => { m with files }
      andThen
    | (_, .error fault) => pure (.error fault)
  let old := (m.files.readBytes target).toOption.getD []
  match mode with
  | .read =>
    match existing with
    | .ok (.node _ _) => stream false true false
    | .ok (.free _ _) => pure (.error .notFound)
    | .error fault => pure (.error fault)
  | .write =>
    match existing with
    | .ok (.node _ (.file _)) =>
      if keepsFiles then pure (.error .alreadyExists)
      else writeBytes [] (stream false false true)
    | _ => writeBytes [] (stream false false true)
  | .overwrite => writeBytes [] (stream false false true)
  | .append => writeBytes old (stream true false true)
  | .readWrite => writeBytes old (stream false true true)

/-- The bytes of a file or a device, or of the standard input for a dash. -/
def readFile (path : String) : Run (Except FileFault (List UInt8)) := do
  let from? (descriptor : Nat) : Run (Except FileFault (List UInt8)) := do
    return (← takeAll descriptor).getD (.error (.other "Bad file descriptor"))
  if path = "-" then from? 0
  else
    match ← openFile .read false path with
    | .error fault => pure (.error fault)
    | .ok index => do
      let saved := (← currentSession).descriptors
      modifySession fun s => s.redirect 0 (some index)
      let bytes ← from? 0
      modifySession fun s => { s with descriptors := saved }
      pure bytes

/-! ### Searching for programs -/

/-- What a search for a program finds. -/
inductive Search where
  | found (path : String) (place : Place) (program : Program)
  | missing
  /-- There is only something that is no program. -/
  | refused
  deriving Repr, DecidableEq

/-- What there is at a path. -/
def programAt (m : Machine) (path : String) : Search :=
  match m.files.walk ⟨ByteText.decode path⟩ with
  | .ok (.node place _) =>
    match m.executables.lookup place with
    | some program => .found path place program
    | none => .refused
  | .ok (.free _ _) => .missing
  | .error fault => if isMissing fault then .missing else .refused

/-- The directories of a search path. -/
def searchDirectories (path : String) : List String :=
  (path.splitOn ":").map fun d => if d.isEmpty then "" else d ++ "/"

/-- Searches for a program: at its path, or in the directories of a search
path if it is a mere name. -/
def search (m : Machine) (directories name : String) : Search :=
  if name.toList.contains '/' then m.programAt name
  else
    (searchDirectories directories).foldl
      (fun before directory =>
        match before with
        | .found .. => before
        | _ =>
          match m.programAt (directory ++ name) with
          | .missing => before
          | found => found)
      .missing

/-- The search path. -/
def searchPath (m : Machine) : String := (m.session.valueOf? "PATH").getD ""

/-- Remembers the path of a program that has been found by its name. -/
def remember (name path : String) : Run Unit :=
  modifySession fun s =>
    if name.toList.contains '/' || s.remembered.any (·.1 == name) then s
    else { s with remembered := s.remembered ++ [(name, path)] }

/-- Looks for a program without running it, and remembers it. -/
def lookAhead (name : String) : Run Unit := do
  let m ← get
  match m.search m.searchPath name with
  | .found path _ _ => remember name path
  | _ => pure ()

end Machine

end BtrfsStore.Shell
