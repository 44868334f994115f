import BtrfsStore.Shell.Argument
/-!
# BtrfsStore.Shell.Builtin.Processes

The built-in commands about signals, traps and jobs.
-/

namespace BtrfsStore.Shell

namespace Builtin

open Argument

/-! ### Signals -/

/-- How `kill` is used. -/
def killUsage : String :=
  "Usage: kill [-s sigspec | -signum | -sigspec] [pid | job]... or\nkill -l [exitstatus]"

/-- Sends a signal to the main shell of the running one. -/
def signalShell (signal : Nat) : Run Unit := do
  let s ← Machine.currentSession
  match (s.mainTraps.getD s.traps).lookup signal with
  | some action =>
    if !Signal.isUntrappable signal then
      if !action.isEmpty then
        modify fun m => { m with signals := m.signals ++ [(s.processId, signal)] }
      return
  | none => pure ()
  if Signal.isStop signal then throw .overran
  if s.mainTraps.isSome then
    modify fun m => { m with signals := m.signals ++ [(s.processId, signal)] }
  else if !Signal.isHarmless signal then throw (.signalled s.processId signal)

/-- Sends a signal to a process; whether there is one. -/
def sendSignal (signal target : Nat) : Run Bool := do
  let m ← get
  if target = m.session.processId then
    signalShell signal
    pure true
  else
    match m.jobs.find? (·.processId == target) with
    | some job =>
      let isIgnored := (job.session.traps.lookup signal).any (·.isEmpty)
      if !Signal.isHarmless signal && !isIgnored then
        set { m with
          jobs := m.jobs.filter (·.processId != target)
          finished := (target, .killed signal) :: m.finished }
      pure true
    | none =>
      let isAncestor := m.session.ancestors.contains target
      if isAncestor && !Signal.isHarmless signal then throw (.signalled target signal)
      pure isAncestor

/-- Sends a signal to processes. -/
def sendSignals (signal : Nat) (targets : List String) : Run Nat := do
  let mut status := 0
  for target in targets do
    let found ← match target.toList with
      | '%' :: _ => Machine.fail ("No such job: " ++ target)
      | '-' :: cs => do
        discard (number (String.ofList cs))
        pure false
      | _ => sendSignal signal (← number target)
    if !found then
      Machine.complain "No such process\n"
      status := 1
  pure status

/-- Shows the names of signals: of all, or of the one behind a status. -/
def showSignals : List String → Run Nat
  | [] => do
    Machine.output ("0\n" ++ String.join (Signal.names.map (· ++ "\n")))
    pure 0
  | arg :: _ => do
    let n ← number arg
    let n := if 128 < n then n - 128 else n
    if 0 < n && n ≤ Signal.names.length then
      Machine.output (Signal.name n ++ "\n")
      pure 0
    else Machine.fail ("invalid signal number or exit status: " ++ arg)

/-- Sends signals or shows their names. -/
def kill (args : List String) : Run Nat := do
  let usage : Run Nat := Machine.fail killUsage
  let send (signal : Nat) (targets : List String) : Run Nat :=
    if targets.isEmpty then usage else sendSignals signal targets
  match args with
  | [] => usage
  | first :: rest =>
    let inFirst? := match first.toList with
      | '-' :: cs => Signal.ofText? false (String.ofList cs)
      | _ => none
    match inFirst? with
    | some signal => send signal rest
    | none =>
      let (chosen, targets) ← options "ls:" args
      let signal? ← chosen.foldlM (fun before (letter, text) => do
        if letter = 'l' then pure before
        else
          match Signal.ofText? false text with
          | some signal => pure (some signal)
          | none => Machine.fail ("invalid signal number or name: " ++ text)) none
      if chosen.any (·.1 == 'l') then
        if signal?.isSome then usage else showSignals targets
      else send (signal?.getD Signal.terminate) targets

/-! ### Traps -/

/-- Shows and sets what to do on signals. -/
def trap (args : List String) : Run Nat := do
  let args ← plain args
  let setAll (action : Option String) (signals : List String) : Run Nat := do
    for text in signals do
      match Signal.ofText? true text with
      | none =>
        Machine.write 2 ("trap: " ++ text ++ ": bad trap\n")
        return 1
      | some signal =>
        Machine.modifySession fun s =>
          let others := s.traps.filter (·.1 != signal)
          { s with traps := (action.map (signal, ·)).toList ++ others }
    pure 0
  match args with
  | [] => do
    let traps := (← Machine.currentSession).traps.mergeSort fun a b => decide (a.1 ≤ b.1)
    for (signal, action) in traps do
      Machine.output ("trap -- " ++ quoted action ++ " " ++ Signal.name signal ++ "\n")
    pure 0
  | [only] => setAll none [only]
  | first :: rest =>
    let isNumber := !first.isEmpty && first.toList.all Char.isDigit
    if isNumber && (Signal.ofText? true first).isSome then setAll none args
    else setAll (if first = "-" then none else some first) rest

/-! ### Jobs -/

/-- Shows the jobs that run. -/
def jobs (args : List String) : Run Nat := do
  let (_, args) ← options "lp" args
  let running := (← get).jobs
  match args with
  | arg :: _ => Machine.fail ("No such job: " ++ arg)
  | [] =>
    for (_, i) in running.zipIdx do
      let mark :=
        if i + 1 = running.length then "+" else if i + 2 = running.length then "-" else " "
      Machine.output ("[" ++ toString (i + 1) ++ "] " ++ mark ++ " Running"
        ++ String.ofList (List.replicate 20 ' ') ++ "\n")
    pure 0

/-- Complains that there is no job to go on with. -/
def resume (args : List String) : Run Nat := do
  match ← plain args with
  | [] => Machine.fail "No current job"
  | arg :: _ => Machine.fail ("No such job: " ++ arg)

/-- Shows the time that the shell has used. -/
def times (_ : List String) : Run Nat := do
  let line := "0m0.000000s 0m0.000000s\n"
  Machine.output (line ++ line)
  pure 0

end Builtin

end BtrfsStore.Shell
