import BtrfsStore.FileTree
import BtrfsStore.Shell.Session
import BtrfsStore.Shell.Signal
/-!
# BtrfsStore.Shell.Machine

What running scripts change: files, a clock, open streams, and the session of
the shell that runs.
-/

namespace BtrfsStore.Shell

/-! ### Streams -/

/-- An open stream. -/
inductive Stream where
  /-- Bytes that wait to be read, and pieces that were written after them, the
  last one in front. If there is only so much `room`, nobody reads the rest. -/
  | pipe (waiting : List UInt8) (written : List (List UInt8)) (room : Option Nat)
  /-- A file from a position on. -/
  | file (path : Path) (position : Nat) (atEnd readable writable : Bool)
  /-- Holds nothing and takes everything. -/
  | null
  /-- Holds zeros and takes everything, or nothing if it `isFull`. -/
  | zeros (isFull : Bool)

/-- The bytes that wait in a pipe. -/
def Stream.contents : Stream → List UInt8
  | .pipe waiting written _ => waiting ++ written.reverse.flatten
  | _ => []

/-! ### The state -/

/-- How a process ends. -/
inductive Ending where
  | exited (status : Nat)
  | killed (signal : Nat)
  deriving Repr, DecidableEq

/-- The status of a process for the one that has started it. -/
def Ending.status : Ending → Nat
  | .exited status => status % 256
  | .killed signal => Signal.status signal

/-- A script that runs in the background. -/
structure Job where
  processId : Nat
  session : Session
  /-- The directory of its files. -/
  directory : Place
  script : Script
  /-- The milliseconds that had passed at its start. -/
  started : Nat

/-- What an executable file is. -/
inductive Program where
  /-- A script: the text of the file. -/
  | script
  /-- Runs a script that its arguments or its input hold. -/
  | shell
  /-- Runs a program in a changed environment. -/
  | environment
  /-- A utility by its name. -/
  | utility (name : String)
  deriving Repr, DecidableEq

/-- What running scripts change, and what they find around them. -/
structure Machine where
  files : FileTree
  session : Session
  streams : Array Stream
  /-- The documents that commands refer to. -/
  documents : Array Word := #[]
  /-- The milliseconds that have passed. -/
  elapsed : Nat := 0
  /-- The number of commands that have run. -/
  steps : Nat := 0
  /-- The jobs that have not run yet. -/
  jobs : List Job := []
  /-- The jobs that have ended. -/
  finished : List (Nat × Ending) := []
  /-- The milliseconds that had passed when the last one of the jobs ended. -/
  latest : Nat := 0
  /-- The signals that have been sent to shells with a trap for them, with the
  numbers of their processes. -/
  signals : List (Nat × Nat) := []
  /-- The number of the next process. -/
  nextId : Nat := 4322
  /-- The files that can be run as programs. -/
  executables : List (Place × Program) := []
  /-- The milliseconds after which a run is ended. -/
  limit : Nat

/-- Why a script does not go on with its next command. -/
inductive Halt where
  | exited (status : Nat)
  /-- The shell has complained and cannot go on. -/
  | failed
  /-- A program has taken the place of the shell and has ended. -/
  | replaced (status : Nat)
  /-- A signal has ended a process; number zero is the current one. -/
  | signalled (processId signal : Nat)
  /-- The time is up. -/
  | overran
  /-- Leaves a number of loops. -/
  | leaveLoop (count : Nat)
  /-- Goes on with the next round of an outer loop. -/
  | nextRound (count : Nat)
  /-- Leaves a function. -/
  | returned (status : Nat)
  deriving Repr, DecidableEq

/-- A step of a script. -/
abbrev Run (α : Type) : Type := ExceptT Halt (StateM Machine) α

namespace Machine

/-- The session of the shell that runs. -/
def currentSession : Run Session := return (← get).session

/-- Changes the session. -/
def modifySession (f : Session → Session) : Run Unit :=
  modify fun m => { m with session := f m.session }

/-- Sets the status of the last command. -/
def setStatus (status : Nat) : Run Unit := modifySession fun s => { s with status }

/-- The status of the last command. -/
def status : Run Nat := return (← currentSession).status

/-- How many commands a run may take. -/
def maxSteps : Nat := 200000

/-- Counts a command; a run that does not come to an end is ended. -/
def countStep : Run Unit := do
  modify fun m => { m with steps := m.steps + 1 }
  if maxSteps ≤ (← get).steps then throw .overran

/-- Ends a run that has used up its time. -/
def checkTime : Run Unit := do
  let m ← get
  if m.limit ≤ m.elapsed then throw .overran

/-- Lets time pass. -/
def pass (ms : Nat) : Run Unit := do
  modify fun m => { m with elapsed := m.elapsed + ms }
  checkTime

/-- The number of a new process. -/
def newProcess : Run Nat :=
  modifyGet fun m => (m.nextId, { m with nextId := m.nextId + 1 })

/-! ### Reading and writing -/

/-- Opens a stream. -/
def openStream (stream : Stream) : Run Nat :=
  modifyGet fun m => (m.streams.size, { m with streams := m.streams.push stream })

/-- The most bytes that wait in the pipe between two commands before the first
one is ended, because the second one has had its chance to stop reading. -/
def pipeRoom : Nat := 1000000

/-- The bytes of a file with others written over them from a position on. -/
def overwritten (old : List UInt8) (position : Nat) (bytes : List UInt8) : List UInt8 :=
  old.take position ++ List.replicate (position - old.length) 0 ++ bytes
    ++ old.drop (position + bytes.length)

/-- Writes bytes to a stream. -/
def writeStream (index : Nat) (bytes : List UInt8) : Run Bool := do
  let m ← get
  match m.streams[index]? with
  | none => pure false
  | some .null => pure true
  | some (.zeros isFull) => pure (!isFull || bytes.isEmpty)
  | some (.pipe waiting written room) =>
    let room := room.map (· - bytes.length)
    let stream : Stream := .pipe waiting (bytes :: written) room
    set { m with streams := m.streams.setIfInBounds index stream }
    if room = some 0 then throw (.signalled 0 Signal.brokenPipe)
    pure true
  | some (.file path position atEnd readable writable) =>
    if !writable then pure false
    else
      let old := (m.files.readBytes path).toOption.getD []
      let position := if atEnd then old.length else position
      let (files, _) := m.files.writeBytes path (overwritten old position bytes)
      let stream : Stream := .file path (position + bytes.length) atEnd readable writable
      set { m with files, streams := m.streams.setIfInBounds index stream }
      pure true

/-- Writes bytes to a descriptor; whether it is open for writing. -/
def writeBytes (descriptor : Nat) (bytes : List UInt8) : Run Bool := do
  match (← currentSession).stream? descriptor with
  | none => pure false
  | some index => writeStream index bytes

/-- Writes a text to a descriptor. -/
def write (descriptor : Nat) (text : String) : Run Unit :=
  discard (writeBytes descriptor (ByteText.toBytes text))

/-- Writes a text to the output of a command. -/
def output (text : String) : Run Unit := do
  if !text.isEmpty && !(← writeBytes 1 (ByteText.toBytes text)) then
    modifySession fun s => { s with outputFailed := true }

/-- How many zeros a stream of zeros hands out at most. -/
def zeroCount : Nat := 1000000

/-- Takes bytes from a descriptor as `take` says, which answers the bytes that
it takes out of those that wait; nothing if the descriptor is not open. -/
def takeBytes (descriptor : Nat) (take : List UInt8 → List UInt8) :
    Run (Option (Except FileFault (List UInt8))) := do
  let m ← get
  match (m.session.stream? descriptor).bind (m.streams[·]?), m.session.stream? descriptor with
  | some .null, _ => pure (some (.ok []))
  | some (.zeros _), _ => pure (some (.ok (take (List.replicate zeroCount 0))))
  | some (.pipe waiting written room), some index =>
    let all := waiting ++ written.reverse.flatten
    let taken := take all
    let stream : Stream := .pipe (all.drop taken.length) [] room
    set { m with streams := m.streams.setIfInBounds index stream }
    pure (some (.ok taken))
  | some (.file path position atEnd readable writable), some index =>
    if !readable then pure none
    else
      match m.files.readBytes path with
      | .error fault => pure (some (.error fault))
      | .ok bytes =>
        let taken := take (bytes.drop position)
        let stream : Stream := .file path (position + taken.length) atEnd readable writable
        set { m with streams := m.streams.setIfInBounds index stream }
        pure (some (.ok taken))
  | _, _ => pure none

/-- Takes all bytes that wait at a descriptor. -/
def takeAll (descriptor : Nat) : Run (Option (Except FileFault (List UInt8))) :=
  takeBytes descriptor id

/-- What a stream has collected. -/
def collected (m : Machine) (index : Nat) : List UInt8 :=
  (m.streams[index]?.map Stream.contents).getD []

/-! ### Complaints -/

/-- Writes a complaint of the shell. -/
def complain (text : String) : Run Unit := do
  let s ← currentSession
  let command := (s.command.map (· ++ ": ")).getD ""
  write 2 (s.name ++ ": " ++ toString s.line ++ ": " ++ command ++ text ++ "\n")

/-- Complains and stops. -/
def fail {α : Type} (text : String) : Run α := do
  complain text
  throw .failed

/-- Reports a malformed script. -/
def failSyntax {α : Type} (line : Nat) (reason : String) : Run α := do
  modifySession fun s => { s with line }
  fail ("Syntax error: " ++ reason)

/-! ### Variables -/

/-- Sets a variable, unless it cannot be changed. -/
def assign (name value : String) : Run Unit := do
  if (← currentSession).isReadOnly name then fail (name ++ ": is read only")
  modifySession fun s => s.assign name value
  if name = "PATH" then modifySession fun s => { s with remembered := [] }
  if name = "OPTIND" then
    let index := (Number.argument? value).getD 1
    modifySession fun s => { s with optionIndex := max index 1, optionOffset := 0 }

/-! ### Paths -/

/-- The path of a directory. -/
def pathOf (place : Place) : String := "/" ++ String.intercalate "/" place

/-- A path from the root for a path that may start at the current directory. -/
def absolute (path : String) : Run Path := do
  let text := ByteText.decode path
  if text.startsWith "/" ∨ text.isEmpty then pure ⟨text⟩
  else
    let here := pathOf (← get).files.current
    pure ⟨(if here = "/" then here else here ++ "/") ++ text⟩

/-! ### Loops -/

/-- Repeats a step as long as it answers something. -/
def iterate {σ : Type} (step : σ → Run (Option σ)) : Nat → σ → Run Unit
  | 0, _ => throw .overran
  | fuel + 1, s => do
    match ← step s with
    | some s => iterate step fuel s
    | none => pure ()

/-- How a round of a loop ends. -/
inductive Round where
  | next
  | leave
  deriving Repr, DecidableEq

/-- Runs a part of a loop. -/
def round (x : Run Unit) : Run Round := do
  match ← ExceptT.lift x.run with
  | .ok () => pure .next
  | .error (.leaveLoop count) =>
    if 1 < count then throw (.leaveLoop (count - 1)) else pure .leave
  | .error (.nextRound count) =>
    if 1 < count then throw (.nextRound (count - 1)) else pure .next
  | .error halt => throw halt

/-- Runs a step and then another one, whether the first one has halted or not. -/
def ensuring {α : Type} (x : Run α) (after : Run Unit) : Run α := do
  let ended ← ExceptT.lift x.run
  after
  match ended with
  | .ok a => pure a
  | .error halt => throw halt

/-- Runs a loop, inside of which there is one more loop to leave. -/
def insideLoop (x : Run Unit) : Run Unit := do
  let depth := (← currentSession).loopDepth
  modifySession fun s => { s with loopDepth := depth + 1 }
  ensuring x (modifySession fun s => { s with loopDepth := depth })

/-! ### Parts of a run -/

/-- Tells that a signal has ended a process. -/
def report (ending : Ending) : Run Unit :=
  match ending with
  | .killed signal =>
    if Signal.isQuiet signal then pure () else write 2 (Signal.description signal ++ "\n")
  | .exited _ => pure ()


/-- Runs a step with some variables, and puts them back after it. -/
def keepingVariables {α : Type} (names : List String) (x : Run α) : Run α := do
  let saved ← currentSession
  let ended ← ExceptT.lift x.run
  modifySession fun s => names.foldl (fun s name => s.restore name (saved.find? name)) s
  match ended with
  | .ok a => pure a
  | .error halt => throw halt

/-- How deep functions may call each other. -/
def maxFunctionDepth : Nat := 1000

/-- Runs a step with descriptors as they are, and puts them back after it. -/
def keepingDescriptors {α : Type} (x : Run α) : Run α := do
  let saved := (← currentSession).descriptors
  let ended ← ExceptT.lift x.run
  modifySession fun s => { s with descriptors := saved }
  match ended with
  | .ok a => pure a
  | .error halt => throw halt

end Machine

end BtrfsStore.Shell
