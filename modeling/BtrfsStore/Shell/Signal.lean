import BtrfsStore.Shell.Number
/-!
# BtrfsStore.Shell.Signal

The signals that processes send each other, by their numbers. Signal number
zero stands for the end of a process in traps, and asks whether there is a
process in `kill`.
-/

namespace BtrfsStore.Shell

namespace Signal

/-- A signal that ends a process without further ado. -/
def kill : Nat := 9

/-- The signal for writing into a pipe that nobody reads. -/
def brokenPipe : Nat := 13

/-- The signal that asks a process to end. -/
def terminate : Nat := 15

/-- The names of the first signals, from number one on. -/
def firstNames : List String :=
  ["HUP", "INT", "QUIT", "ILL", "TRAP", "ABRT", "BUS", "FPE", "KILL", "USR1", "SEGV", "USR2",
    "PIPE", "ALRM", "TERM", "16", "CHLD", "CONT", "STOP", "TSTP", "TTIN", "TTOU", "URG", "XCPU",
    "XFSZ", "VTALRM", "PROF", "WINCH", "IO", "PWR", "SYS", "32", "33", "RTMIN"]

/-- The names of all signals, from number one on. -/
def names : List String :=
  firstNames ++ ((List.range 15).map fun n => "RTMIN+" ++ toString (n + 1))
    ++ ((List.range 14).map fun n => "RTMAX-" ++ toString (14 - n)) ++ ["RTMAX"]

/-- The name of a signal. -/
def name (signal : Nat) : String := (("EXIT" :: names)[signal]?).getD ""

/-- The signal with a name or a number; the name of number zero counts only if
`withExit`. -/
def ofText? (withExit : Bool) (s : String) : Option Nat :=
  if !s.isEmpty && s.toList.all Char.isDigit then
    let n := Number.valueOf 10 s.toList
    if n ≤ names.length then some n else none
  else
    let sought := String.ofList (s.toList.map Char.toUpper)
    if withExit && sought == "EXIT" then some 0
    else (names.findIdx? (· == sought)).map (· + 1)

/-- How a shell tells that a signal has ended a process. -/
def descriptions : List (Nat × String) :=
  [(1, "Hangup"), (2, "Interrupt"), (3, "Quit"), (4, "Illegal instruction"),
    (5, "Trace/breakpoint trap"), (6, "Aborted"), (7, "Bus error"),
    (8, "Floating point exception"), (9, "Killed"), (10, "User defined signal 1"),
    (11, "Segmentation fault"), (12, "User defined signal 2"), (13, "Broken pipe"),
    (14, "Alarm clock"), (15, "Terminated"), (16, "Stack fault"),
    (24, "CPU time limit exceeded"), (25, "File size limit exceeded"),
    (26, "Virtual timer expired"), (27, "Profiling timer expired"), (29, "I/O possible"),
    (30, "Power failure"), (31, "Bad system call")]

/-- How a shell tells that a signal has ended a process. -/
def description (signal : Nat) : String :=
  match descriptions.lookup signal with
  | some text => text
  | none =>
    if signal < 34 then "Unknown signal " ++ toString signal
    else "Real-time signal " ++ toString (signal - 34)

/-- The signals whose deadly effect a shell does not tell. -/
def isQuiet (signal : Nat) : Bool := signal == 2 || signal == brokenPipe

/-- The signals that a process ignores unless it has a trap for them. -/
def isHarmless (signal : Nat) : Bool := [0, 17, 18, 23, 28].contains signal

/-- The signals that stop a process without ending it. -/
def isStop (signal : Nat) : Bool := [19, 20, 21, 22].contains signal

/-- The signals for which a process cannot have a trap. -/
def isUntrappable (signal : Nat) : Bool := signal == kill || signal == 19

/-- The status that stands for a process that a signal has ended. -/
def status (signal : Nat) : Nat := 128 + signal

end Signal

end BtrfsStore.Shell
