import BtrfsStore.Shell.Builtin.Control
import BtrfsStore.Shell.Builtin.Files
import BtrfsStore.Shell.Builtin.Processes
import BtrfsStore.Shell.Builtin.Variables
import BtrfsStore.Shell.Format
import BtrfsStore.Shell.Opening
import BtrfsStore.Shell.Reader
/-!
# BtrfsStore.Shell.Builtin

The commands of the shell itself, which run without a process of their own and
can change what the shell knows. Some are special: their failure ends the
shell, and assignments in front of them last.
-/

namespace BtrfsStore.Shell

namespace Builtin

open Argument

/-! ### Output -/

/-- Writes its arguments. -/
def echo (args : List String) : Run Nat := do
  Machine.output (Format.echo args)
  pure 0

/-- Writes a format with arguments. -/
def printf (args : List String) : Run Nat := do
  match ← plain args with
  | [] => Machine.fail "usage: printf format [arg ...]"
  | format :: args =>
    let printed := Format.printf format args
    for complaint in printed.complaints.reverse do
      Machine.complain complaint
    let text := String.ofList printed.output.reverse
    match printed.fault with
    | some fault => do
      Machine.complain fault
      Machine.output text
      throw .failed
    | none =>
      Machine.output text
      pure (if printed.complaints.isEmpty then 0 else 1)

/-! ### The table -/

/-- The commands that run scripts or programs. -/
def runners : List String := [".", "command", "eval", "exec", "hash", "type", "wait"]

/-- All other commands. -/
def table : List (String × (List String → Run Nat)) :=
  [(":", fun _ => pure 0), ("[", bracketTest), ("alias", defineAliases), ("bg", resume),
    ("break", break_), ("cd", changeDirectory), ("chdir", changeDirectory),
    ("continue", continue_), ("echo", echo), ("exit", exit), ("export", exportVariables),
    ("false", fun _ => pure 1), ("fg", resume), ("getopts", getOptions), ("jobs", jobs),
    ("kill", kill), ("local", makeLocal), ("printf", printf), ("pwd", showDirectory),
    ("read", read), ("readonly", protectVariables), ("return", return_), ("set", changeSettings),
    ("shift", shift), ("test", test), ("times", times), ("trap", trap),
    ("true", fun _ => pure 0), ("ulimit", limits), ("umask", mask), ("unalias", unalias),
    ("unset", unset)]

/-- Whether a name is that of a built-in command. -/
def isBuiltin (name : String) : Bool := runners.contains name || (table.lookup name).isSome

/-- Whether a name is that of a special built-in command. -/
def isSpecial (name : String) : Bool := Reader.specialNames.contains name

/-- The commands whose arguments may be assignments. -/
def isDeclaring (name : String) : Bool := ["alias", "export", "local", "readonly"].contains name

/-! ### Descriptions -/

/-- Describes what a name stands for; shortly, or in a sentence. -/
def describe (inSentence : Bool) (directories name : String) : Run Nat := do
  let m ← get
  let say (short sentence : String) : Run Nat := do
    Machine.output ((if inSentence then name ++ sentence else short) ++ "\n")
    pure 0
  if (keywords.lookup name).isSome then say name " is a shell keyword"
  else
    match m.session.aliases.lookup name with
    | some text =>
      say ("alias " ++ name ++ "=" ++ quoted text) (" is an alias for " ++ text)
    | none =>
      if isSpecial name then say name " is a special shell builtin"
      else if (m.session.functions.lookup name).isSome then say name " is a shell function"
      else if isBuiltin name then say name " is a shell builtin"
      else
        let isPath := name.toList.contains '/'
        let found := m.search directories name
        match if found == .refused && !isPath then .missing else found with
        | .found path _ _ => do
          let isKnown := m.session.remembered.any (·.1 == name)
          Machine.remember name path
          say path ((if isKnown then " is a tracked alias for " else " is ") ++ path)
        | .refused => say name (" is " ++ name)
        | .missing => do
          if inSentence then Machine.output (name ++ ": not found\n")
          pure 127

/-- Describes what names stand for. -/
def type (args : List String) : Run Nat := do
  let mut status := 0
  for name in args do
    let one ← describe true (← get).searchPath name
    if one ≠ 0 then status := one
  pure status

/-- Looks for programs and remembers their paths, or shows those that are
remembered. -/
def hash (args : List String) : Run Nat := do
  let (chosen, args) ← options "rv" args
  if chosen.any (·.1 == 'r') then
    Machine.modifySession fun s => { s with remembered := [] }
    return 0
  if args.isEmpty then
    for (_, path) in byChains 31 Prod.fst (← Machine.currentSession).remembered do
      Machine.output (path ++ "\n")
  let mut status := 0
  for name in args do
    let m ← get
    let isOwn := isBuiltin name || (m.session.functions.lookup name).isSome
    match m.search m.searchPath name with
    | .found path _ _ => if !isOwn then Machine.remember name path
    | _ =>
      if !isOwn then
        Machine.complain (name ++ ": not found")
        status := 1
  pure status

end Builtin

end BtrfsStore.Shell
