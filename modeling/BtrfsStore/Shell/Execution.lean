import BtrfsStore.Shell.Call
import BtrfsStore.Shell.Expansion
import BtrfsStore.Shell.Redirection
import BtrfsStore.Shell.Utility
/-!
# BtrfsStore.Shell.Execution

Running scripts and the programs that they start.

* A subshell runs on a copy of the session; what it does to files and streams
  lasts, and all else is undone after it.
* The commands of a pipeline run one after the other, each one after all that
  the one before has to say.
* A script in the background runs when something waits for it, or at the end.

The runners carry fuel, which bounds how deep scripts are nested; loops count
their rounds by themselves. A script that uses up either counts as one that does
not end in time.
-/

namespace BtrfsStore.Shell

/-- What comes after a script. -/
structure Sequel where
  /-- Its status is made use of, so that a failure does not end the shell. -/
  isTested : Bool := false
  /-- Nothing else runs in its process. -/
  isLast : Bool := false
  deriving Repr, DecidableEq

namespace Sequel

/-- The script is a condition. -/
def condition : Sequel := { isTested := true }

/-- The script makes up the rest of its process. -/
def ending : Sequel := { isLast := true }

/-- There is more to run in the process. -/
def goingOn (q : Sequel) : Sequel := { q with isLast := false }

end Sequel

/-- Whether a failure of the command ends a shell with the option for it. -/
def Script.isChecked : Script → Bool
  | .simple .. | .pipeline _ | .subshell .. | .background _ => true
  | _ => false

/-! ### Running -/

/-- The name of the program that a simple command runs, if it is a literal one. -/
def Script.programName? : Script → Option String
  | .simple _ _ (first :: _) _ =>
    match Word.literal? first with
    | some name => if isName name && !Builtin.isBuiltin name then some name else none
    | none => none
  | _ => none

/-- The streams that descriptors go to after redirections; those of files are
not among them. -/
def streamsAfter (descriptors : List (Nat × Nat)) : List Redirect → List (Nat × Nat)
  | [] => descriptors
  | r :: rest =>
    let without (descriptor : Nat) := descriptors.filter (·.1 != descriptor)
    let after := match r with
      | .file descriptor _ _ | .document descriptor _ | .copyNamed descriptor _ =>
        without descriptor
      | .copy descriptor source =>
        let stream? := source.bind (descriptors.lookup ·)
        (stream?.map (descriptor, ·)).toList ++ without descriptor
    streamsAfter after rest

open Machine

/-- Goes on after a process has ended. A process that is the last one of its
shell takes its place. -/
def settle (sequel : Sequel) (ending : Ending) : Run Unit := do
  let replaces := sequel.isLast && (← currentSession).traps.all (·.2.isEmpty)
  match ending with
  | .killed signal => if replaces then throw (.signalled 0 signal)
  | .exited _ => pure ()
  report ending
  setStatus ending.status

/-- Obeys the signals that have come for the main shell without a trap. -/
def obeySignals : Run Unit := do
  let m ← get
  if m.session.mainTraps.isNone then
    let deadly := m.signals.find? fun (processId, signal) =>
      processId == m.session.processId && (m.session.traps.lookup signal).isNone
        && !Signal.isHarmless signal
    if let some (processId, signal) := deadly then throw (.signalled processId signal)

mutual

/-- Runs a script. -/
def runScript : Nat → Sequel → Script → Run Unit
  | 0, _, _ => throw .overran
  | fuel + 1, sequel, script => do
    if (← currentSession).hasOption 'n' then return
    runTraps fuel
    runNode fuel sequel script
    runTraps fuel
    let s ← currentSession
    if script.isChecked && !sequel.isTested && s.hasOption 'e' && s.status ≠ 0 then
      throw (.exited s.status)

/-- Runs a script as its form asks for it. -/
def runNode : Nat → Sequel → Script → Run Unit
  | 0, _, _ => throw .overran
  | fuel + 1, sequel, script =>
    match script with
    | .empty => setStatus 0
    | .simple line assignments words redirects =>
      runSimple fuel sequel line assignments words redirects
    | .pipeline commands => runPipeline fuel sequel none commands
    | .background body => do
      let processId ← newProcess
      let m ← get
      let input ← openStream .null
      let session := ((m.session.subshell).redirect 0 (some input))
      let job : Job :=
        { processId, session, directory := m.files.current, script := body, started := m.elapsed }
      modify fun m => { m with jobs := m.jobs ++ [job] }
      modifySession fun s => { s with backgroundId := some processId, status := 0 }
    | .negation body => do
      runScript fuel .condition body
      setStatus (if (← status) = 0 then 1 else 0)
    | .both left right => do
      runScript fuel .condition left
      if (← status) = 0 then runScript fuel sequel right
    | .either left right => do
      runScript fuel .condition left
      if (← status) ≠ 0 then runScript fuel sequel right
    | .sequence left right => do
      runScript fuel sequel.goingOn left
      runScript fuel sequel right
    | .conditional condition consequent alternative => do
      runScript fuel .condition condition
      if (← status) = 0 then runScript fuel sequel consequent
      else runScript fuel sequel alternative
    | .loop untilSuccess condition body => do
      let step (last : Nat) : Run (Option Nat) := do
        countStep
        setStatus last
        let goesOn ← round (runScript fuel .condition condition)
        if goesOn == .leave then
          setStatus last
          return none
        if ((← status) = 0) = untilSuccess then
          setStatus last
          return none
        match ← round (runScript fuel sequel.goingOn body) with
        | .next => return some (← status)
        | .leave => return none
      setStatus 0
      insideLoop (iterate step maxSteps 0)
    | .each line name words body => do
      modifySession fun s => { s with line }
      let values ← expandFields (substitution fuel) words
      setStatus 0
      let step : List String → Run (Option (List String))
        | [] => pure none
        | value :: rest => do
          countStep
          Machine.assign name value
          match ← round (runScript fuel sequel.goingOn body) with
          | .next => pure (some rest)
          | .leave => pure none
      insideLoop (iterate step maxSteps values)
    | .choice line word cases => do
      modifySession fun s => { s with line }
      let text ← expandText (substitution fuel) { tilde := true } word
      runChoice fuel sequel text.toList cases
    | .redirected line body redirects => do
      modifySession fun s => { s with line }
      let rs ← expandRedirects fuel redirects
      keepingDescriptors do
        if ← redirectAll (expandText (substitution fuel) {}) rs then
          runScript fuel sequel.goingOn body
        else setStatus 2
    | .subshell line body redirects => do
      modifySession fun s => { s with line }
      let rs ← expandRedirects fuel redirects
      let ending ← runApart fuel do
        if ← redirectAll (expandText (substitution fuel) {}) rs then
          runScript fuel { sequel with isLast := true } body
        else throw .failed
      settle sequel ending
    | .function name body => do
      modifySession fun s =>
        { s with functions := (name, body) :: s.functions.filter (·.1 != name), status := 0 }

/-- Runs the body of the first case with a pattern for a text. -/
def runChoice : Nat → Sequel → List Char → List (List Word × Script) → Run Unit
  | 0, _, _, _ => throw .overran
  | _, _, _, [] => setStatus 0
  | fuel + 1, sequel, text, (patterns, body) :: rest => do
    let isChosen ← patterns.foldlM
      (fun found pattern => do
        if found then pure true
        else return Pattern.accepts (← expandPattern (substitution fuel) pattern) text)
      false
    if isChosen then runScript fuel sequel body else runChoice fuel sequel text rest

/-- Runs the commands of a pipeline; `input` is where the first one reads. -/
def runPipeline : Nat → Sequel → Option Nat → List Script → Run Unit
  | 0, _, _, _ => throw .overran
  | _, _, _, [] => pure ()
  | fuel + 1, sequel, input, command :: rest => do
    let output ← if rest.isEmpty then pure none
      else some <$> openStream (.pipe [] [] (some pipeRoom))
    if let some name := command.programName? then lookAhead name
    let ending ← runApart fuel do
      if input.isSome then modifySession fun s => s.redirect 0 input
      if output.isSome then modifySession fun s => s.redirect 1 output
      runScript fuel { sequel with isLast := true } command
    report ending
    if rest.isEmpty then setStatus ending.status else runPipeline fuel sequel output rest

/-- Runs a step in a subshell, and the jobs that it leaves behind. -/
def runApart : Nat → Run Unit → Run Ending
  | 0, _ => throw .overran
  | fuel + 1, x => do
    let outer ← get
    modifySession Session.subshell
    let ending ← concluded fuel 0 x
    modify fun m =>
      { m with session := outer.session, files := { m.files with current := outer.files.current } }
    runJobs fuel fun job => outer.nextId ≤ job.processId
    obeySignals
    pure ending

/-- Runs a step to the end of its process, which has the number `own`: with the
trap for the end. -/
def concluded : Nat → Nat → Run Unit → Run Ending
  | 0, _, _ => throw .overran
  | fuel + 1, own, x => do
    let leave (status : Nat) : Run Ending := do
      let s ← currentSession
      match s.traps.lookup 0 with
      | none => pure (.exited status)
      | some action => do
        modifySession fun s =>
          { s with
            traps := s.traps.filter (·.1 != 0), status, trapStatus := some status
            command := none }
        match ← ExceptT.lift (runText fuel {} action).run with
        | .error (.exited status) | .error (.replaced status) => pure (.exited status)
        | .error .failed => pure (.exited 2)
        | .error (.signalled pid signal) =>
          if pid = 0 || pid = own then pure (.killed signal) else throw (.signalled pid signal)
        | .error .overran => throw .overran
        | _ => pure (.exited status)
    match ← ExceptT.lift x.run with
    | .ok () | .error (.leaveLoop _) | .error (.nextRound _) => leave (← status)
    | .error (.returned status) | .error (.exited status) => leave status
    | .error .failed => leave 2
    | .error (.replaced status) => pure (.exited status)
    | .error (.signalled pid signal) =>
      if pid = 0 || pid = own then pure (.killed signal) else throw (.signalled pid signal)
    | .error .overran => throw .overran

/-- Runs the traps for the signals that have come. -/
def runTraps : Nat → Run Unit
  | 0 => throw .overran
  | fuel + 1 => do
    let m ← get
    if m.session.mainTraps.isNone then
      if let some (processId, signal) := m.signals.find? (·.1 == m.session.processId) then
        set { m with signals := m.signals.erase (processId, signal) }
        if let some action := m.session.traps.lookup signal then
          let status := m.session.status
          let before := m.session.trapStatus
          modifySession fun s => { s with trapStatus := some (before.getD status) }
          ensuring (runText fuel {} action)
            (modifySession fun s => { s with trapStatus := before })
          setStatus status
        else if !Signal.isHarmless signal then throw (.signalled processId signal)
        runTraps fuel

/-- Runs a text as a script. -/
def runText : Nat → Sequel → String → Run Unit
  | 0, _, _ => throw .overran
  | fuel + 1, sequel, text => do
    let step (state : Reader.State × Bool) : Run (Option (Reader.State × Bool)) := do
      let m ← get
      let reader :=
        { state.1 with documents := m.documents, aliases := m.session.aliases }
      match Script.next? reader with
      | .error fault => failSyntax fault.line fault.reason
      | .ok none =>
        if !state.2 then setStatus 0
        pure none
      | .ok (some (script?, reader)) => do
        modify fun m => { m with documents := reader.documents }
        match script? with
        | none => pure (some (reader, state.2))
        | some script => do
          runScript fuel sequel.goingOn script
          pure (some (reader, true))
    iterate step maxSteps ({ rest := text.toList }, false)

/-- The output of a script as the value of a substitution. -/
def substitution : Nat → Script → Run String
  | 0, _ => throw .overran
  | fuel + 1, script => do
    let output ← openStream (.pipe [] [] none)
    let ending ← runApart fuel do
      modifySession fun s => s.redirect 1 (some output)
      runScript fuel .ending script
    report ending
    modifySession fun s => { s with substitutionStatus := ending.status }
    return substituted ((← get).collected output)

/-- Expands the words of redirections. -/
def expandRedirects : Nat → List Redirect → Run (List Redirection)
  | 0, _ => throw .overran
  | _, [] => pure []
  | fuel + 1, r :: rest => do
    let expand := expandText (substitution fuel) { tilde := true }
    let first : Redirection ← match r with
      | .file descriptor mode target => (.file descriptor mode ·) <$> expand target
      | .copy descriptor source => pure (.copy descriptor source)
      | .copyNamed descriptor source => do
        match copySource? (← expand source) with
        | some source => pure (.copy descriptor source)
        | none => failSyntax (← currentSession).line "Bad fd number"
      | .document descriptor number => pure (.document descriptor number)
    return first :: (← expandRedirects fuel rest)

/-- Expands the words of a command. -/
def expandWords : Nat → List String → List Word → Run (List String)
  | 0, _, _ => throw .overran
  | _, fields, [] => pure fields
  | fuel + 1, fields, word :: rest => do
    let s ← currentSession
    let assignment? :=
      if Call.takesAssignments s fields then Reader.assignment? word else none
    let new ← match assignment? with
      | some (name, value) => do
        let manner : Manner := { inAssignment := true, tilde := true }
        pure [name ++ "=" ++ (← expandText (substitution fuel) manner value)]
      | none => expandFields (substitution fuel) [word]
    expandWords fuel (fields ++ new) rest

/-- Carries out assignments, in the environment of a program if `exported`;
answers them as they are shown. -/
def runAssignments : Nat → Bool → List (String × Word) → Run (List String)
  | 0, _, _ => throw .overran
  | _, _, [] => pure []
  | fuel + 1, exported, (name, word) :: rest => do
    let value ← expandText (substitution fuel) { inAssignment := true, tilde := true } word
    Machine.assign name value
    if exported then
      modifySession fun s => s.put name { (s.find? name).getD {} with isExported := true }
    return (name ++ "=" ++ value) :: (← runAssignments fuel exported rest)

/-- Shows a command before it runs, if the shell is to do so. -/
def showCommand : Nat → Option Nat → List String → Run Unit
  | 0, _, _ => throw .overran
  | fuel + 1, output, shown => do
    let s ← currentSession
    match s.hasOption 'x', output with
    | true, some index => do
      let front := (s.valueOf? "PS4").getD ""
      let expanded : Run String :=
        match Reader.readText front with
        | .ok word => expandText (substitution fuel) {} word
        | .error _ => pure front
      modifySession fun s => { s with options := s.options.filter (· != 'x') }
      let text ← ensuring expanded
        (modifySession fun s => { s with options := 'x' :: s.options })
      discard (writeStream index (ByteText.toBytes (text ++ " ".intercalate shown ++ "\n")))
    | _, _ => pure ()

/-- Runs a simple command. -/
def runSimple : Nat → Sequel → Nat → List (String × Word) → List Word → List Redirect → Run Unit
  | 0, _, _, _, _, _ => throw .overran
  | fuel + 1, sequel, line, assignments, words, redirects => do
    countStep
    modifySession fun s => { s with line, substitutionStatus := 0 }
    let fields ← expandWords fuel [] words
    let call := Call.of (← currentSession) fields
    let complaints := (← currentSession).stream? 2
    let rs ← expandRedirects fuel redirects
    let saved := (← currentSession).descriptors
    let keepsStreams := match call.callee, call.args with
      | .builtin "exec", [] => true
      | _, _ => false
    let followed ← redirectAll (expandText (substitution fuel) {}) rs
    let putBack : Run Unit := modifySession fun s => { s with descriptors := saved }
    if !followed then
      putBack
      setStatus 2
      if call.isSpecial then throw .failed
      return
    let show_ (done : List String) : Run Unit := showCommand fuel complaints (done ++ fields)
    let run : Run Unit := do
      match call.callee with
      | .nothing =>
        show_ (← runAssignments fuel false assignments)
        setStatus (← currentSession).substitutionStatus
      | .function body => do
        modifySession fun s => { s with hidden := [] :: s.hidden }
        assignments.forM fun a => Builtin.hide a.1
        ensuring
          (do
            show_ (← runAssignments fuel true assignments)
            runFunction fuel sequel.goingOn body call.args)
          (modifySession fun s =>
            let frame := s.hidden.headD []
            let restored := frame.foldl
              (fun s e =>
                if e.1 = "-" then
                  { s with options := ((e.2.bind (·.value)).getD "").toList }
                else s.restore e.1 e.2) s
            { restored with hidden := s.hidden.drop 1 })
      | .builtin name =>
        if call.isSpecial then
          show_ (← runAssignments fuel (name = "exec" && !call.args.isEmpty) assignments)
          runBuiltin fuel sequel.goingOn true name call.args
        else keepingVariables (assignments.map (·.1)) do
          show_ (← runAssignments fuel true assignments)
          runBuiltin fuel sequel.goingOn false name call.args
      | .program name => keepingVariables (assignments.map (·.1)) do
        show_ (← runAssignments fuel true assignments)
        let usual := (← get).searchPath
        runProgram fuel sequel (if call.usesOwnPath then ownPath else usual) name call.args
    match ← ExceptT.lift run.run with
    | .ok () => if !keepsStreams then putBack
    | .error halt =>
      putBack
      throw halt

/-- Calls a function. -/
def runFunction : Nat → Sequel → Script → List String → Run Unit
  | 0, _, _, _ => throw .overran
  | fuel + 1, sequel, body, args => do
    let outer ← currentSession
    if maxFunctionDepth ≤ outer.functionDepth then
      fail ("Maximum function recursion depth (" ++ toString maxFunctionDepth ++ ") reached")
    modifySession fun s =>
      { s with
        arguments := args, optionIndex := 1, optionOffset := 0, loopDepth := 0
        functionDepth := s.functionDepth + 1 }
    let ended ← ExceptT.lift (runScript fuel sequel body).run
    modifySession fun s =>
      { s with
        arguments := outer.arguments, optionIndex := outer.optionIndex
        optionOffset := outer.optionOffset, loopDepth := outer.loopDepth
        functionDepth := outer.functionDepth }
    match ended with
    | .ok () => pure ()
    | .error (.returned status) => setStatus status
    | .error halt => throw halt

/-- Runs a built-in command. -/
def runBuiltin : Nat → Sequel → Bool → String → List String → Run Unit
  | 0, _, _, _, _ => throw .overran
  | fuel + 1, sequel, isSpecial, name, args => do
    let outer := (← currentSession).command
    modifySession fun s => { s with command := some name, outputFailed := false }
    let run : Run Nat := do
      let status ← match Builtin.table.lookup name with
        | some run => run args
        | none => runRunner fuel sequel name args
      if (← currentSession).outputFailed then
        complain (name ++ ": I/O error")
        modifySession fun s => { s with outputFailed := false }
        return status ||| 1
      return status
    let ended ← ExceptT.lift run.run
    modifySession fun s => { s with command := outer }
    match ended with
    | .ok status => setStatus status
    | .error .failed => if isSpecial then throw .failed else setStatus 2
    | .error halt => throw halt

/-- Runs a built-in command that runs scripts or programs. -/
def runRunner : Nat → Sequel → String → List String → Run Nat
  | 0, _, _, _ => throw .overran
  | fuel + 1, sequel, name, args =>
    match name with
    | "eval" => do
      runText fuel sequel (" ".intercalate args)
      status
    | "." => do
      match ← Argument.plain args with
      | [] => pure 0
      | file :: _ =>
        let m ← get
        let inDirectory? := (searchDirectories m.searchPath).find? fun d =>
          match m.files.walk ⟨ByteText.decode (d ++ file)⟩ with
          | .ok (.node _ (.file _)) => true
          | _ => false
        let path ←
          if file.toList.contains '/' then pure file
          else
            match inDirectory? with
            | some d => pure (d ++ file)
            | none => fail (file ++ ": not found")
        let text ← match ← readFile path with
          | .ok bytes => pure (ByteText.ofBytes bytes)
          | .error .isADirectory => pure ""
          | .error fault => fail ("cannot open " ++ path ++ ": " ++ openReason fault)
        modifySession fun s => { s with command := some path }
        match ← ExceptT.lift (runText fuel sequel text).run with
        | .ok () => status
        | .error (.returned status) => pure status
        | .error halt => throw halt
    | "exec" => do
      match args with
      | [] => pure 0
      | program :: args =>
        match ← startProgram fuel (← get).searchPath true program args with
        | .exited status => throw (.replaced status)
        | .killed signal => throw (.signalled 0 signal)
    | "command" => do
      let (chosen, names) ← Argument.options "pvV" args
      match chosen.find? (·.1 != 'p'), names with
      | some _, name :: _ =>
        let usual := (← get).searchPath
        Builtin.describe (chosen.any (·.1 == 'V'))
          (if chosen.any (·.1 == 'p') then ownPath else usual) name
      | _, _ => pure 0
    | "type" => Builtin.type args
    | "hash" => Builtin.hash args
    | _ => do
      match ← Argument.plain args with
      | [] => do
        runJobs fuel fun _ => true
        modify fun m => { m with elapsed := max m.elapsed m.latest }
        checkTime
        pure 0
      | ids => runWaits fuel ids

/-- Waits for processes; the status is that of the last one. -/
def runWaits : Nat → List String → Run Nat
  | 0, _ => throw .overran
  | _, [] => pure 0
  | fuel + 1, id :: rest => do
    let m ← get
    let processId ← match id.toList with
      | '%' :: cs =>
        match (String.ofList cs).toNat?.bind fun n => m.jobs[n - 1]? with
        | some job => pure job.processId
        | none => fail ("No such job: " ++ id)
      | _ => Argument.number id
    if let some job := m.jobs.find? (·.processId == processId) then
      let ended ← runJob fuel job
      modify fun m => { m with elapsed := max m.elapsed ended }
      checkTime
    let status ← match (← get).finished.lookup processId with
      | some ending => do
        report ending
        pure ending.status
      | none => pure 127
    if rest.isEmpty then pure status else runWaits fuel rest

/-- Runs a job; answers the time when it ends. -/
def runJob : Nat → Job → Run Nat
  | 0, _ => throw .overran
  | fuel + 1, job => do
    let outer ← get
    set { outer with
      session := job.session, files := { outer.files with current := job.directory }
      elapsed := job.started, jobs := outer.jobs.filter (·.processId != job.processId) }
    let ending ← concluded fuel job.processId (runScript fuel .ending job.script)
    let ended := (← get).elapsed
    modify fun m =>
      { m with
        session := outer.session, files := { m.files with current := outer.files.current }
        elapsed := outer.elapsed, latest := max m.latest ended
        finished := (job.processId, ending) :: m.finished }
    pure ended

/-- Runs the jobs that are asked for, and those that they leave behind. -/
def runJobs : Nat → (Job → Bool) → Run Unit
  | 0, _ => throw .overran
  | fuel + 1, isAskedFor => do
    match (← get).jobs.find? isAskedFor with
    | none => pure ()
    | some job => do
      discard (runJob fuel job)
      runJobs fuel isAskedFor

/-- Runs the jobs that end before a time. -/
def settleJobs : Nat → Nat → List Job → Run Unit
  | 0, _, _ => throw .overran
  | _, _, [] => pure ()
  | fuel + 1, time, job :: rest => do
    let before ← get
    match ← ExceptT.lift (runJob fuel job).run with
    | .ok ended => if time < ended then set before
    | .error _ => set before
    settleJobs fuel time rest

/-- Runs a program as a command. -/
def runProgram : Nat → Sequel → String → String → List String → Run Unit
  | 0, _, _, _, _ => throw .overran
  | fuel + 1, sequel, directories, name, args => do
    settle sequel (← startProgram fuel directories false name args)

/-- Starts a program, which is searched for; `replaces` tells that it takes the
place of the shell. -/
def startProgram : Nat → String → Bool → String → List String → Run Ending
  | 0, _, _, _, _ => throw .overran
  | fuel + 1, directories, replaces, name, args => do
    match (← get).search directories name with
    | .found path place program => do
      if !replaces then remember name path
      runFile fuel (← currentSession).programEnvironment path place program name args
    | found =>
      let isPath := name.toList.contains '/'
      let (reason, status) := if found == .refused then
        ("Permission denied", if isPath || replaces then 126 else 127) else ("not found", 127)
      complain (name ++ ": " ++ reason)
      if replaces then throw (.exited status)
      pure (.exited status)

/-- Runs an executable file in a process of its own, which sees an
environment. -/
def runFile : Nat → List (String × String) → String → Place → Program → String → List String →
    Run Ending
  | 0, _, _, _, _, _, _ => throw .overran
  | fuel + 1, environment, path, place, program, name, args => do
    let outer ← get
    let own ← newProcess
    let inside (name : String) (x : Run Unit) : Run Ending := do
      let s := outer.session
      let fresh := Session.start own (s.processId :: s.ancestors) name
        (ByteText.encode (pathOf outer.files.current)) environment
      modify fun m =>
        { m with
          session := { fresh with
            descriptors := s.descriptors, mask := s.mask
            traps := s.traps.filter (·.2.isEmpty) } }
      let ending ← concluded fuel own x
      modify fun m =>
        { m with
          session := outer.session
          files := { m.files with current := outer.files.current } }
      pure ending
    match program with
    | .script =>
      let text := match outer.files.nodeAt place with
        | some (.file bytes) => ByteText.ofBytes bytes
        | _ => ""
      inside path do
        modifySession fun s => { s with arguments := args }
        runText fuel {} text
    | .shell => inside name (runShell fuel args)
    | .environment | .utility _ =>
      let run : Run Nat := match program with
        | .utility utility => do
          if utility = "sleep" then
            let time := outer.elapsed + (Utility.sleepTime? args).getD 0
            settleJobs fuel time outer.jobs
          Utility.run utility name args
        | _ => runEnvironment fuel name args
      modifySession fun s =>
        { s with
          bindings := environment.map fun e => (e.1, { value := some e.2, isExported := true }) }
      let ended ← ExceptT.lift run.run
      modify fun m => { m with session := outer.session }
      match ended with
      | .ok status | .error (.exited status) => pure (.exited status)
      | .error (.signalled 0 signal) => pure (.killed signal)
      | .error halt => throw halt

/-- Runs the shell as a program. -/
def runShell : Nat → List String → Run Unit
  | 0, _ => throw .overran
  | fuel + 1, args => do
    let read ← Builtin.setOptions true (args.length + 1) args
    let standardInput (args : List String) : Run Unit := do
      modifySession fun s => { s with arguments := args }
      match ← takeAll 0 with
      | some (.ok bytes) => runText fuel {} (ByteText.ofBytes bytes)
      | _ => pure ()
    match read.givesScript, read.args with
    | true, [] => fail "-c requires an argument"
    | true, text :: rest => do
      if let some name := rest.head? then
        modifySession fun s => { s with name, arguments := rest.drop 1 }
      runText fuel {} text
      if (← currentSession).hasOption 's' then standardInput (rest.drop 1)
    | false, [] => do
      Builtin.setOption true 's'
      standardInput []
    | false, path :: rest => do
      if (← currentSession).hasOption 's' then standardInput (path :: rest)
      else
        match ← readFile path with
        | .ok bytes =>
          modifySession fun s => { s with name := path, arguments := rest }
          runText fuel {} (ByteText.ofBytes bytes)
        | .error .isADirectory => pure ()
        | .error fault => fail ("cannot open " ++ path ++ ": " ++ openReason fault)

/-- Runs a program in a changed environment, or shows the environment. -/
def runEnvironment : Nat → String → List String → Run Nat
  | 0, _, _ => throw .overran
  | fuel + 1, name, args => do
    let known : Utility.Options :=
      { letters := "iu:0", names := [("ignore-environment", 'i'), ("unset", 'u'), ("null", '0')]
        inFront := true }
    let (options, operands) ← known.read name args 125
    let operands := if operands.head? = some "-" then operands.drop 1 else operands
    if options.any (·.1 == 'i') || operands.length < args.length && args.head? = some "-" then
      modifySession fun s => { s with bindings := [] }
    for (letter, text) in options do
      if letter == 'u' then modifySession fun s => s.drop text
    let settings := operands.takeWhile fun a => a.toList.contains '='
    for arg in settings do
      let (name, value) := Argument.assignment arg
      modifySession fun s => s.put name { value, isExported := true }
    match operands.drop settings.length with
    | [] => do
      let lineEnd := if options.any (·.1 == '0') then "\x00" else "\n"
      let lines := (← currentSession).environment.map fun e => e.1 ++ "=" ++ e.2 ++ lineEnd
      Utility.emitText name (String.join lines)
      pure 0
    | program :: args => do
      let s ← currentSession
      match (← get).search ((s.valueOf? "PATH").getD systemPath) program with
      | .found path place found =>
        match ← runFile fuel s.environment path place found program args with
        | .exited status => pure status
        | .killed signal => throw (.signalled 0 signal)
      | found => do
        let (reason, status) :=
          if found == .refused then ("Permission denied", 126)
          else ("No such file or directory", 127)
        Utility.complain name (Utility.quoteFileAlways program ++ ": " ++ reason)
        pure status

end

/-! ### Whole processes -/

/-- How deep scripts may be nested. -/
def maxDepth : Nat := 100000

/-- Whether a job can write to one of the given streams as long as it runs. -/
def Job.holds (job : Job) (streams : List Nat) : Bool :=
  let redirects := match job.script with
    | .simple _ _ _ rs | .redirected _ _ rs | .subshell _ _ rs => rs
    | _ => []
  (streamsAfter job.session.descriptors redirects).any fun e => streams.contains e.2

/-- Runs the jobs that are left; those that do not hold one of the given streams
are not waited for. -/
def finishJobs (streams : List Nat) : List Job → Run Unit
  | [] => pure ()
  | job :: rest => do
    let before ← get
    match ← ExceptT.lift (runJob maxDepth job).run with
    | .ok _ => if !job.holds streams then modify fun m => { m with latest := before.latest }
    | .error halt => if job.holds streams then throw halt else set before
    finishJobs streams rest

/-- Runs an executable file as the first process, and all that it leaves behind;
the streams are its outputs. -/
def runProcess (streams : List Nat) (path : String) (place : Place) (program : Program)
    (name : String) (args : List String) : Run Ending := do
  let environment := (← currentSession).environment
  let ending ← runFile maxDepth environment path place program name args
  finishJobs streams (← get).jobs
  modify fun m => { m with elapsed := max m.elapsed m.latest }
  checkTime
  pure ending

end BtrfsStore.Shell
