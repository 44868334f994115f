import BtrfsStore.Shell.ByteText
import BtrfsStore.Shell.Syntax
/-!
# BtrfsStore.Shell.Session

What a single shell knows: its variables, functions and options, and where its
descriptors go. A subshell works on a copy.
-/

namespace BtrfsStore.Shell

/-! ### Variables -/

/-- A variable. -/
structure Variable where
  /-- The value, unless only something else is known of the variable. -/
  value : Option String := none
  isExported : Bool := false
  isReadOnly : Bool := false

/-- The search path of a shell that is given none. -/
def ownPath : String := "/usr/local/sbin:/usr/local/bin:/usr/sbin:/usr/bin:/sbin:/bin"

/-- The search path of a system where no variable gives one. -/
def systemPath : String := "/bin:/usr/bin"

/-! ### Tables -/

/-- The sum of the codes of a name, of which the first one counts seventeen
times. -/
def nameSum (name : String) : Nat :=
  let codes := name.toList.map Char.toNat
  codes.foldl (· + ·) (16 * codes.headD 0)

/-- Entries in the order of a table with the given number of chains. The sum of
its name decides the chain of an entry. -/
def byChains {α : Type} (count : Nat) (name : α → String) (entries : List α) : List α :=
  (List.range count).flatMap fun i => entries.filter fun e => nameSum (name e) % count == i

/-! ### Options -/

/-- The options with their letters. -/
def optionNames : List (String × Char) :=
  [("errexit", 'e'), ("noglob", 'f'), ("ignoreeof", 'I'), ("interactive", 'i'), ("monitor", 'm'),
    ("noexec", 'n'), ("stdin", 's'), ("xtrace", 'x'), ("verbose", 'v'), ("vi", 'V'),
    ("emacs", 'E'), ("noclobber", 'C'), ("allexport", 'a'), ("notify", 'b'), ("nounset", 'u'),
    ("privileged", 'p')]

/-! ### Sessions -/

/-- What a shell knows. -/
structure Session where
  processId : Nat
  /-- The processes that wait for this one, the nearest one in front. -/
  ancestors : List Nat := []
  /-- The name of the shell or of its script. -/
  name : String
  arguments : List String := []
  /-- The variables with their names. -/
  bindings : List (String × Variable) := []
  functions : List (String × Script) := []
  aliases : List (String × String) := []
  /-- The programs whose paths the shell remembers, by their names. -/
  remembered : List (String × String) := []
  /-- The letters of the options that are set. -/
  options : List Char := []
  /-- The status of the last command. -/
  status : Nat := 0
  /-- The status of the last substitution of the current command. -/
  substitutionStatus : Nat := 0
  /-- The line of the current command. -/
  line : Nat := 0
  /-- The built-in command that is running. -/
  command : Option String := none
  /-- What to do when the shell exits (signal number zero) or on a signal. -/
  traps : List (Nat × String) := []
  /-- The same of the main shell, if this is a subshell. -/
  mainTraps : Option (List (Nat × String)) := none
  /-- The status before the trap that is running. -/
  trapStatus : Option Nat := none
  /-- The streams behind the descriptors. -/
  descriptors : List (Nat × Nat) := [(0, 0), (1, 1), (2, 2)]
  backgroundId : Option Nat := none
  loopDepth : Nat := 0
  functionDepth : Nat := 0
  /-- For each function that is running, the variables that it hides, the last
  one in front. -/
  hidden : List (List (String × Option Variable)) := []
  /-- The number of the argument where option parsing goes on. -/
  optionIndex : Nat := 1
  /-- The number of characters of the argument before that option parsing has
  used, or zero. -/
  optionOffset : Nat := 0
  /-- The permissions that new files do not get. -/
  mask : Nat := 0o22
  /-- The running command could not write all of its output. -/
  outputFailed : Bool := false

namespace Session

/-- The variable with a name. -/
def find? (s : Session) (name : String) : Option Variable := s.bindings.lookup name

/-- The value of a variable. -/
def valueOf? (s : Session) (name : String) : Option String := (s.find? name).bind (·.value)

/-- Whether an option is set. -/
def hasOption (s : Session) (letter : Char) : Bool := s.options.contains letter

/-- The session with a variable as given. -/
def put (s : Session) (name : String) (v : Variable) : Session :=
  if s.bindings.any (·.1 == name) then
    { s with bindings := s.bindings.map fun e => if e.1 == name then (name, v) else e }
  else { s with bindings := s.bindings ++ [(name, v)] }

/-- The session without a variable. -/
def drop (s : Session) (name : String) : Session :=
  { s with bindings := s.bindings.filter (·.1 != name) }

/-- The session with a variable as it was before. -/
def restore (s : Session) (name : String) : Option Variable → Session
  | some v => s.put name v
  | none => s.drop name

/-- The session with the value of a variable changed. -/
def assign (s : Session) (name value : String) : Session :=
  let v := (s.find? name).getD {}
  s.put name { v with value := some value, isExported := v.isExported || s.hasOption 'a' }

/-- Whether a variable cannot be changed. -/
def isReadOnly (s : Session) (name : String) : Bool := (s.find? name).any (·.isReadOnly)

/-- The exported variables that have values. -/
def environment (s : Session) : List (String × String) :=
  s.bindings.filterMap fun (name, v) => if v.isExported then v.value.map (name, ·) else none

/-- The number of chains in which a shell keeps its variables and its aliases. -/
def chainCount : Nat := 39

/-- The variables that started programs see, in the order of a table. -/
def programEnvironment (s : Session) : List (String × String) :=
  byChains chainCount Prod.fst s.environment

/-- The stream behind a descriptor. -/
def stream? (s : Session) (descriptor : Nat) : Option Nat := s.descriptors.lookup descriptor

/-- The session with a descriptor going to a stream, or closed. -/
def redirect (s : Session) (descriptor : Nat) (stream : Option Nat) : Session :=
  let others := s.descriptors.filter (·.1 != descriptor)
  { s with descriptors := (stream.map (descriptor, ·)).toList ++ others }

/-- The session of a subshell. -/
def subshell (s : Session) : Session :=
  { s with
    traps := s.traps.filter (·.2.isEmpty)
    mainTraps := some (s.mainTraps.getD s.traps) }

/-- The letters of the options that are set, as the shell shows them. -/
def optionLetters (s : Session) : String :=
  String.ofList ((optionNames.reverse.map (·.2)).filter s.hasOption)

/-- The variables that a shell gives itself at its start. -/
def ownVariables (parent : Nat) : List (String × Variable) :=
  [("IFS", { value := some " \t\n" }), ("OPTIND", { value := some "1" }),
    ("PS1", { value := some "# " }), ("PS2", { value := some "> " }),
    ("PS4", { value := some "+ " }), ("PPID", { value := some (toString parent) }),
    ("PATH", { value := some ownPath })]

/-- A shell at its start, in a directory and an environment. -/
def start (processId : Nat) (ancestors : List Nat) (name directory : String)
    (environment : List (String × String)) : Session :=
  let own : Session :=
    { processId, ancestors, name, bindings := ownVariables (ancestors.headD 1) }
  let value (s : Session) (e : String × String) : String :=
    if e.1 ∈ ["IFS", "PPID"] then (s.valueOf? e.1).getD "" else e.2
  let given := environment.filter fun e => isName e.1
  let s := given.foldl (fun s e => s.put e.1 { value := some (value s e), isExported := true }) own
  s.put "PWD" { value := some directory, isExported := true }

end Session

end BtrfsStore.Shell
