import BtrfsStore.Action
import BtrfsStore.Process
import BtrfsStore.Shell.Execution
/-!
# BtrfsStore.Sandbox

A host whose programs are shell scripts and a few utilities, over the files of
a file tree. A sandbox runs commands the way a system does: the target of a
command decides which process is started, and the process ends with an exit
code and two outputs, or does not end in time.

A sandbox only serves runs. It and the modules under `BtrfsStore.Shell` stand for the
shell and the utilities of a system, on which the program can be tried out. They are no
part of what is modelled: what is proved holds for every `Host`, and nothing is proved
about a sandbox.
-/

namespace BtrfsStore

/-- An executable file. -/
structure Executable where
  /-- The directory of the file. -/
  directory : Path
  name : String
  program : Shell.Program
  /-- What the file holds. -/
  text : String := ""

namespace Executable

/-- The path of the file. -/
def path (e : Executable) : Path := e.directory.child e.name

/-- The place of the file. -/
def place (e : Executable) : Place := (e.path.text.splitOn "/").filter (!·.isEmpty)

end Executable

/-- A host of scripts and utilities. -/
structure Sandbox where
  executables : List Executable
  /-- The variables that processes see. -/
  environment : List (String × String) := []
  isRoot : Bool := true

namespace Sandbox

/-! ### Programs -/

/-- The first line of a script file. -/
def scriptHeader : String := "#!/bin/sh\n"

/-- The utilities that every system has. -/
def utilities : List Executable :=
  let programs := [("sh", .shell), ("env", .environment)]
    ++ Shell.Utility.table.map fun e => (e.1, .utility e.1)
  [Path.mk "/bin", ⟨"/usr/bin"⟩].flatMap fun directory =>
    programs.map fun (name, program) => { directory, name, program }

/-- A sandbox of tools, each given by the text of its script. They are all that
is found by name. -/
def ofTools (directory : Path) (tools environment : List (String × String)) : Sandbox where
  executables :=
    tools.map (fun (name, body) =>
      { directory, name, program := .script, text := scriptHeader ++ body }) ++ utilities
  environment := ("PATH", directory.text) :: environment

/-- A sandbox of the utilities. -/
def ofUtilities : Sandbox where
  executables := utilities
  environment := [("HOME", "/root"), ("PATH", Shell.ownPath)]

/-- Adds the executable files to a file tree. -/
def furnish (s : Sandbox) (files : FileTree) : FileTree :=
  s.executables.foldl
    (fun files e =>
      (files.withDirectory e.place.dropLast).put e.place (.file (Text.encodeUtf8 e.text)))
    files

/-- A machine at the start of a process: standard input, output and error output
are its first three streams. -/
def machine (s : Sandbox) (limit : Nat) (input : String) (files : FileTree) : Shell.Machine :=
  let encoded := s.environment.map fun e => (Shell.ByteText.encode e.1, Shell.ByteText.encode e.2)
  let directory := Shell.ByteText.encode (Shell.Machine.pathOf files.current)
  { files, limit
    session := Shell.Session.start 4320 [] "sh" directory encoded
    streams := #[.pipe (Text.encodeUtf8 input) [] none, .pipe [] [] none, .pipe [] [] none]
    executables := s.executables.map fun e => (e.place, e.program) }

/-- Where a program is found by its name. -/
def locate (s : Sandbox) (program : String) (files : FileTree) : Option String :=
  let machine := s.machine 0 "" files
  match machine.search machine.searchPath (Shell.ByteText.encode program) with
  | .found path _ _ => some (Shell.ByteText.decode path)
  | _ => none

/-! ### Processes -/

/-- Why a process is not started, if any of its words holds a NUL character. -/
def nulReason : String := "nul byte found in provided data"

/-- Why a process is not started, if its file cannot be executed. -/
def deniedReason : String := "Permission denied (os error 13)"

/-- Why there is no program with a name or at a path. -/
def faultOf (files : FileTree) (program : String) (found : Shell.Machine.Search) : String :=
  if program.toList.contains '/' then
    match files.walk ⟨program⟩ with
    | .ok (.node _ _) => deniedReason
    | .ok (.free _ _) => FileFault.notFound.message
    | .error fault => fault.message
  else if FileTree.maxNameBytes < program.utf8ByteSize then FileFault.nameTooLong.message
  else if found == .refused && !program.isEmpty then deniedReason
  else FileFault.notFound.message

/-- The most bytes of input that a process can leave unread without notice. -/
def pipeCapacity : Nat := 65536

/-- Runs a process to its end. -/
def start (s : Sandbox) (limit : Nat) (input : String) (program : String) (args : List String)
    (files : FileTree) : ProcessEnd × FileTree :=
  let machine := s.machine limit input files
  let name := Shell.ByteText.encode program
  let found := machine.search machine.searchPath name
  if (program :: args).any (·.contains (Char.ofNat 0)) then (.notStarted nulReason, files)
  else
    match found with
    | .found path place found =>
      let args := args.map Shell.ByteText.encode
      let (ending, machine) :=
        ((Shell.runProcess [1, 2] path place found name args).run).run machine
      let stdout := machine.collected 1
      let stderr := machine.collected 2
      let files := { machine.files with current := files.current }
      if pipeCapacity < (machine.collected 0).length then (.inputLeft, files)
      else
        match ending with
        | .ok (.exited status) => (.exited (status % 256 : Nat) stdout stderr, files)
        | .ok (.killed _) | .error (.signalled _ _) => (.signalled stdout stderr, files)
        | .error _ => (.overran, files)
    | found => (.notStarted (faultOf files program found), files)

/-- Runs a command. -/
def run (s : Sandbox) (c : Command) (files : FileTree) : Except Failure String × FileTree :=
  let (program, args) := c.target.process c.program c.args s.isRoot
  let (ended, files) := s.start c.limit (c.input.getD "") program args files
  (ended.answer c program, files)

/-- The host. Waiting takes no time. -/
def host (s : Sandbox) : Host FileTree where
  answer
    | .run c, files => s.run c files
    | .locate program, files => (s.locate program files, files)
    | .isRoot, files => (s.isRoot, files)
    | .sleep _, files => ((), files)
    | .pathExists p, files => (files.pathExists p, files)
    | .makeDirectories p, files => (files.makeDirectories p).swap
    | .removeFile p, files => (files.removeFile p).swap
    | .readText p, files => (files.readText p, files)
    | .writeText p text, files => (files.writeText p text).swap

end Sandbox

end BtrfsStore
