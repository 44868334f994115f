import BtrfsStore.CommandLine
import BtrfsStore.Json.Reader
import BtrfsStore.Process
/-!
# BtrfsStore.Relay

Questions and answers as lines of JSON. The program itself touches nothing: it
writes each question as one line, and whoever runs it looks at the system and
writes the answer as one line.

The first answer, before any question, describes the session. An answer that is
missing or malformed counts as a refusal, which for every question is an answer
that changes nothing.
-/

namespace BtrfsStore

namespace Relay

/-! ### The session -/

/-- What holds for all of a run. -/
structure Session where
  platform : Platform
  environment : List (String × String)
  isRoot : Bool

/-- The session that a line describes. -/
def Session.ofJson (j : Json) : Session where
  platform := .ofName (((j.member? "platform").bind Json.str?).getD "linux")
  environment :=
    match j.member? "environment" with
    | some (.obj members) => members.filterMap fun (name, v) => v.str?.map (name, ·)
    | _ => []
  isRoot := ((j.member? "isRoot").bind Json.bool?).getD false

/-! ### Questions -/

/-- An object with one member. -/
def single (name : String) (j : Json) : Json := .obj [(name, j)]

/-- A question as JSON. A command is written as the process to start for it. -/
def questionJson (session : Session) : Query → Json
  | .run c =>
    let (program, args) := c.target.process c.program c.args session.isRoot
    single "run" (Json.members
      [("program", some (.str program)), ("args", some (.arr (args.map .str))),
        ("limit", some (Json.ofNat c.limit)), ("input", c.input.map .str)])
  | .locate program => single "locate" (.str program)
  | .isRoot => single "isRoot" .null
  | .sleep ms => single "sleep" (Json.ofNat ms)
  | .pathExists p => single "pathExists" (.str p.text)
  | .makeDirectories p => single "makeDirectories" (.str p.text)
  | .removeFile p => single "removeFile" (.str p.text)
  | .readText p => single "readText" (.str p.text)
  | .writeText p text =>
    single "writeText" (.obj [("path", .str p.text), ("text", .str text)])

/-! ### Answers -/

/-- The bytes that pairs of hexadecimal digits stand for. -/
def bytesOfHex : List Char → Option (List UInt8)
  | [] => some []
  | [_] => none
  | a :: b :: rest => do
    let high ← Json.hexValue? a
    let low ← Json.hexValue? b
    some (UInt8.ofNat (high * 16 + low) :: (← bytesOfHex rest))

/-- The bytes of a member. -/
def bytes (j : Json) (name : String) : List UInt8 :=
  (((j.member? name).bind Json.str?).bind fun s => bytesOfHex s.toList).getD []

/-- Why a process counts as not started if its end is not told. -/
def refusal : String := "refused"

/-- How a process ended. -/
def processEnd (j : Json) : ProcessEnd :=
  match j.member? "exit", j.member? "signal", j.member? "timeout", j.member? "notStarted" with
  | some (.int code), _, _, _ => .exited code (bytes j "stdout") (bytes j "stderr")
  | _, some (.bool true), _, _ => .signalled (bytes j "stdout") (bytes j "stderr")
  | _, _, some (.bool true), _ => .overran
  | _, _, _, some (.str reason) => .notStarted reason
  | _, _, _, _ => .notStarted refusal

/-- The faults with a wording of their own. -/
def knownFaults : List FileFault :=
  [.notFound, .alreadyExists, .notADirectory, .isADirectory, .nameTooLong, .nulInPath, .notText]

/-- The fault of the given wording. -/
def faultOf (text : String) : FileFault :=
  (knownFaults.find? (·.message == text)).getD (.other text)

/-- The answer to a file operation: a fault, or what `read` finds. -/
def fileAnswer {α : Type} (read : Json → Option α) (j : Json) : Except FileFault α :=
  match (j.member? "fault").bind Json.str?, read j with
  | some text, _ => .error (faultOf text)
  | none, some a => .ok a
  | none, none => .error (.other refusal)

/-- Whether an operation is reported as done. -/
def done? (j : Json) : Option Unit :=
  match (j.member? "done").bind Json.bool? with
  | some true => some ()
  | _ => none

/-- The answer to a question. -/
def answer (session : Session) : (q : Query) → Json → q.Answer
  | .run c, j =>
    (processEnd j).answer c (c.target.process c.program c.args session.isRoot).1
  | .locate _, j => j.str?
  | .isRoot, _ => session.isRoot
  | .sleep _, _ => ()
  | .pathExists _, j => j.bool?.getD false
  | .makeDirectories _, j => fileAnswer done? j
  | .removeFile _, j => fileAnswer done? j
  | .readText _, j => fileAnswer (fun j => (j.member? "text").bind Json.str?) j
  | .writeText _ _, j => fileAnswer done? j

/-! ### The end -/

/-- The end of the program as JSON. -/
def endJson (e : CommandLine.Ended) : Json :=
  single "end" (.obj
    [("exit", Json.ofNat e.exitCode), ("stdout", .str e.stdout), ("stderr", .str e.stderr)])

end Relay

end BtrfsStore
