import BtrfsStore.Shell.Builtin
/-!
# BtrfsStore.Shell.Call

What the fields of a simple command call: a function, a built-in command or a
program. `command` in front of a name skips functions, and takes away what is
special about a built-in command.
-/

namespace BtrfsStore.Shell

/-- What the first word of a command stands for. -/
inductive Callee where
  | nothing
  | function (body : Script)
  | builtin (name : String)
  | program (name : String)

/-- A command that is to be run. -/
structure Call where
  callee : Callee := .nothing
  args : List String := []
  /-- It is a special built-in command: its failure ends the shell. -/
  isSpecial : Bool := false
  /-- It is searched for in the directories of every system. -/
  usesOwnPath : Bool := false

namespace Call

/-- The words after `command` and its options; nothing if it is to describe a
command, or if there is none. -/
def afterCommand? : List String → Option (Bool × List String)
  | [] => none
  | "--" :: rest => if rest.isEmpty then none else some (false, rest)
  | word :: rest =>
    match word.toList with
    | '-' :: c :: cs =>
      if (c :: cs).all (· == 'p') then (afterCommand? rest).map fun e => (true, e.2) else none
    | _ => some (false, word :: rest)

/-- The call that fields stand for; `skipsFunctions` after `command`. -/
def ofFields (s : Session) (skipsFunctions usesOwnPath : Bool) : Nat → List String → Call
  | 0, _ => {}
  | _, [] => {}
  | fuel + 1, name :: args =>
    match if skipsFunctions then none else s.functions.lookup name with
    | some body => { callee := .function body, args }
    | none =>
      if name = "command" then
        match afterCommand? args with
        | some (own, fields) => ofFields s true (usesOwnPath || own) fuel fields
        | none => { callee := .builtin name, args }
      else if Builtin.isBuiltin name then
        { callee := .builtin name, args, isSpecial := !skipsFunctions && Builtin.isSpecial name }
      else { callee := .program name, args, usesOwnPath }

/-- The call that fields stand for. -/
def of (s : Session) (fields : List String) : Call :=
  ofFields s false false (fields.length + 1) fields

/-- Whether words after the given ones may be assignments. -/
def takesAssignments (s : Session) (fields : List String) : Bool :=
  match (of s fields).callee with
  | .builtin name => Builtin.isDeclaring name
  | _ => false

end Call

end BtrfsStore.Shell
