import BtrfsStore.Text.Find
/-!
# BtrfsStore.Command

External commands: what they are, where and as whom they run, and the process
that has to be started for that.
-/

namespace BtrfsStore

/-- Where a command runs, and as whom. -/
inductive Target where
  /-- On the host, as the user. -/
  | host
  /-- On the host, as root. -/
  | hostRoot
  /-- Inside a WSL distro, as its default user. -/
  | wsl (distro : String)
  /-- Inside a WSL distro as root, with `nsenter` in the mount namespace of
  the first process. -/
  | wslRoot (distro : String) (nsenter : Bool)
  deriving Repr, DecidableEq

/-- One external command. -/
structure Command where
  target : Target
  /-- The name of the step, for messages. -/
  description : String
  program : String
  args : List String
  /-- What the command reads from its standard input. -/
  input : Option String := none
  /-- How long the command may take, in milliseconds. -/
  limit : Nat
  deriving Repr, DecidableEq

/-! ### Limits -/

namespace Limit

/-- Probes that answer at once. -/
def probe : Nat := 5000

/-- Quick checks and questions about a state. -/
def quick : Nat := 10000

/-- Booting a distro. -/
def start : Nat := 20000

/-- Updating and installing packages. -/
def install : Nat := 300000

/-- Everything else, such as formatting. -/
def standard : Nat := 120000

end Limit

/-! ### Processes -/

/-- A command line as it is shown. -/
def commandLine (program : String) (args : List String) : String :=
  Text.joinWith " " (program :: args)

/-- The command line without regard to where it runs. -/
def Command.line (c : Command) : String := commandLine c.program c.args

/-- The program that reaches into WSL. -/
def wslProgram : String := "wsl.exe"

/-- The words that enter the mount namespace of the first process. -/
def nsenterWords : List String := ["nsenter", "-t", "1", "-m", "--"]

/-- The process that has to be started for a command: its program and its
arguments. -/
def Target.process (target : Target) (program : String) (args : List String) (isRoot : Bool) :
    String × List String :=
  match target with
  | .host => (program, args)
  | .hostRoot => if isRoot then (program, args) else ("sudo", program :: args)
  | .wsl distro => (wslProgram, ["-d", distro, "--"] ++ program :: args)
  | .wslRoot distro nsenter =>
    (wslProgram, ["-d", distro, "-u", "root", "--"]
      ++ (if nsenter then nsenterWords else []) ++ program :: args)

end BtrfsStore
