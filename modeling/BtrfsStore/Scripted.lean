import BtrfsStore.Action
/-!
# BtrfsStore.Scripted

A host whose commands are answered by a script, for rehearsing a run without
touching a system. Files are those of a file tree, and waiting only counts.

A *rule* answers the commands of one program whose arguments contain given
fragments. The rule added last comes first. The replies of a rule are used one
after the other, and the last one stays. A command without a rule succeeds and
writes nothing.
-/

namespace BtrfsStore.Scripted

/-! ### Rules -/

/-- How a command ends. -/
inductive Reply where
  /-- It succeeds and writes a text. -/
  | output (text : String)
  /-- It fails. -/
  | failure (code : Int) (stderr : String)
  /-- It does not end in time. -/
  | timeout
  /-- Its program cannot be started. -/
  | notStarted
  deriving Repr, DecidableEq

/-- The answer to a command for a reply. -/
def Reply.answer (c : Command) : Reply → Except Failure String
  | .output text => .ok text
  | .failure code stderr => .error (.exited c.description code stderr)
  | .timeout => .error (.timedOut c.description c.limit)
  | .notStarted =>
    .error (.notStarted c.description c.program FileFault.notFound.message)

/-- Answers the commands of a program. -/
structure Rule where
  program : String
  /-- Texts that all have to occur in the arguments. -/
  fragments : List String
  replies : List Reply
  deriving Repr, DecidableEq

namespace Rule

/-- Whether the rule answers a command. -/
def answers (r : Rule) (c : Command) : Bool :=
  r.program == c.program && r.fragments.all (Text.contains (Text.joinWith " " c.args))

/-- The next reply, and the rule after it. -/
def next (r : Rule) : Reply × Rule :=
  match r.replies with
  | [] => (.output "", r)
  | [reply] => (reply, r)
  | reply :: rest => (reply, { r with replies := rest })

/-- The reply of the first rule that answers a command, and the rules after
it. -/
def reply (c : Command) : List Rule → Reply × List Rule
  | [] => (.output "", [])
  | r :: rest =>
    if r.answers c then (r.next.1, r.next.2 :: rest)
    else ((reply c rest).1, r :: (reply c rest).2)

end Rule

/-! ### The state of the host -/

/-- The state of a scripted host. -/
structure State where
  /-- The rules, the one added last in front. -/
  rules : List Rule := []
  /-- The commands so far, in order. -/
  calls : List Command := []
  /-- The tools that cannot be located. -/
  missing : List String := []
  isRoot : Bool := false
  /-- How often the host has waited. -/
  sleeps : Nat := 0
  /-- How long the host has waited, in milliseconds. -/
  slept : Nat := 0
  files : FileTree := {}
  deriving Repr

namespace State

/-- Adds a rule. -/
def on (s : State) (program : String) (fragments : List String) (replies : List Reply) : State :=
  { s with rules := { program, fragments, replies } :: s.rules }

/-- Makes tools missing. -/
def without (s : State) (tools : List String) : State := { s with missing := s.missing ++ tools }

/-- The command lines so far. -/
def lines (s : State) : List String := s.calls.map Command.line

/-- The number of command lines that contain a fragment. -/
def count (s : State) (fragment : String) : Nat :=
  (s.lines.filter (Text.contains · fragment)).length

/-- The index of the first command line that contains a fragment. -/
def position (s : State) (fragment : String) : Option Nat :=
  s.lines.findIdx? (Text.contains · fragment)

/-- Where a tool is found. -/
def locate (s : State) (program : String) : Option String :=
  if program ∈ s.missing then none else some ((Path.mk "/usr/bin").child program).text

/-- Runs a command. -/
def run (s : State) (c : Command) : Except Failure String × State :=
  let (reply, rules) := Rule.reply c s.rules
  (reply.answer c, { s with rules, calls := s.calls ++ [c] })

/-- The answer of a file operation, with the files after it. -/
def onFiles {α : Type} (s : State) (changed : FileTree × α) : α × State :=
  (changed.2, { s with files := changed.1 })

end State

/-- The scripted host. -/
def host : Host State where
  answer
    | .run c, s => s.run c
    | .locate program, s => (s.locate program, s)
    | .isRoot, s => (s.isRoot, s)
    | .sleep ms, s => ((), { s with sleeps := s.sleeps + 1, slept := s.slept + ms })
    | .pathExists p, s => (s.files.pathExists p, s)
    | .makeDirectories p, s => s.onFiles (s.files.makeDirectories p)
    | .removeFile p, s => s.onFiles (s.files.removeFile p)
    | .readText p, s => (s.files.readText p, s)
    | .writeText p text, s => s.onFiles (s.files.writeText p text)

end BtrfsStore.Scripted
