import BtrfsStore.Shell.Argument
/-!
# BtrfsStore.Shell.Builtin.Control

The built-in commands that leave loops, functions and the shell.
-/

namespace BtrfsStore.Shell

namespace Builtin

open Argument

/-- Leaves the shell. Without a number the status stays as it is, or as it was
before the trap that runs. -/
def exit (args : List String) : Run Nat := do
  match args with
  | [] =>
    let s ← Machine.currentSession
    throw (.exited (s.trapStatus.getD s.status))
  | arg :: _ => throw (.exited (← number arg))

/-- Leaves a function. -/
def return_ (args : List String) : Run Nat := do
  match args with
  | [] => throw (.returned (← Machine.status))
  | arg :: _ => throw (.returned (← number arg))

/-- The number of loops that an argument stands for, at most as many as there
are. -/
def loopCount (args : List String) : Run Nat := do
  let count ← match args with
    | [] => pure 1
    | arg :: _ => number arg
  if count = 0 then Machine.fail ("Illegal number: " ++ args.headD "")
  return min count (← Machine.currentSession).loopDepth

/-- Leaves loops. -/
def break_ (args : List String) : Run Nat := do
  let count ← loopCount args
  Machine.setStatus 0
  if count ≠ 0 then throw (.leaveLoop count)
  pure 0

/-- Goes on with the next round of a loop. -/
def continue_ (args : List String) : Run Nat := do
  let count ← loopCount args
  Machine.setStatus 0
  if count ≠ 0 then throw (.nextRound count)
  pure 0

end Builtin

end BtrfsStore.Shell
