import BtrfsStore.Shell.Utility.Cat
import BtrfsStore.Shell.Utility.Lines
import BtrfsStore.Shell.Utility.Numbers
import BtrfsStore.Shell.Utility.Places
import BtrfsStore.Shell.Utility.Printing
/-!
# BtrfsStore.Shell.Utility

The utilities that every system has.
-/

namespace BtrfsStore.Shell

namespace Utility

/-! ### Sleeping -/

/-- The milliseconds that an argument of `sleep` stands for. -/
def milliseconds? (arg : String) : Option Nat :=
  match Fraction.read? Fraction.extended arg.toList with
  | some { value := .finite false mantissa exponent, rest := unit, .. } =>
    let factor? : Option Nat := match unit with
      | [] | ['s'] => some 1
      | ['m'] => some 60
      | ['h'] => some 3600
      | ['d'] => some 86400
      | _ => none
    factor?.map fun factor =>
      let n := mantissa * factor * 1000
      if 0 ≤ exponent then n * Nat.pow 2 exponent.toNat else n / Nat.pow 2 exponent.natAbs
  | some { value := .infinite false, rest := [], .. } => some (Nat.pow 10 15)
  | _ => none

/-- The time that the arguments of `sleep` stand for, unless there is something
wrong with them. -/
def sleepTime? (args : List String) : Option Nat :=
  if args.isEmpty then none else (args.mapM milliseconds?).map (·.foldl (· + ·) 0)

/-- Waits. -/
def sleep (name : String) (args : List String) : Run Nat := do
  let (_, args) ← ({ letters := "" } : Options).read name args
  if args.isEmpty then misuse name "missing operand"
  for arg in args do
    if (milliseconds? arg).isNone then
      complain name ("invalid time interval " ++ quote arg)
  match sleepTime? args with
  | none =>
    hint name
    pure 1
  | some ms =>
    Machine.pass ms
    pure 0

/-! ### The table -/

/-- Shows values of the environment. -/
def printEnvironment (name : String) (args : List String) : Run Nat := do
  let environment := (← Machine.currentSession).environment
  if args.isEmpty then
    emitText name (String.join (environment.map fun e => e.1 ++ "=" ++ e.2 ++ "\n"))
    return 0
  let mut status := 0
  for arg in args do
    match environment.lookup arg with
    | some value => emitText name (value ++ "\n")
    | none => status := 1
  pure status

/-- The utilities with their names; each one is told how it was called. -/
def table : List (String × (String → List String → Run Nat)) :=
  [("basename", basename), ("cat", cat), ("chmod", chmod), ("cp", cp), ("cut", cut),
    ("dirname", dirname), ("echo", echo), ("expr", expr), ("false", fun _ _ => pure 1),
    ("head", head), ("ls", ls), ("mkdir", mkdir), ("mv", mv), ("printenv", printEnvironment),
    ("printf", printf), ("rev", rev), ("rm", rm), ("rmdir", rmdir), ("seq", seq),
    ("sleep", sleep), ("sort", sort), ("tac", tac), ("tail", tail), ("tee", tee),
    ("touch", touch), ("tr", tr), ("true", fun _ _ => pure 0), ("uniq", uniq), ("wc", wc),
    ("yes", yes)]

/-- Runs a utility. -/
def run (utility name : String) (args : List String) : Run Nat :=
  match table.lookup utility with
  | some run => run name args
  | none => pure 127

end Utility

end BtrfsStore.Shell
