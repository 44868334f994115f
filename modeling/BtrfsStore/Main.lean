import BtrfsStore.Relay
/-!
# BtrfsStore.Main

The command line program. It asks its questions on the standard output, reads
the answers from the standard input, and writes its end as the last line.
-/

namespace BtrfsStore.Relay

/-- Reads one line of JSON. -/
def readJson (input : IO.FS.Stream) : IO Json := do
  return (Json.read? (← input.getLine)).getD .null

/-- Writes one line of JSON. -/
def writeJson (output : IO.FS.Stream) (j : Json) : IO Unit := do
  output.putStrLn j.render
  output.flush

/-- Runs an action, asking each of its questions. -/
def perform {α : Type} (input output : IO.FS.Stream) (session : Session) : Action α → IO α
  | .done a => pure a
  | .ask q next => do
    writeJson output (questionJson session q)
    let answered ← readJson input
    perform input output session (next (answer session q answered))

end BtrfsStore.Relay

open BtrfsStore in
/-- Runs the program with the arguments of the process. -/
def main (args : List String) : IO UInt32 := do
  let input ← IO.getStdin
  let output ← IO.getStdout
  let session := Relay.Session.ofJson (← Relay.readJson input)
  let program := CommandLine.run session.platform (session.environment.lookup ·) args
  let ended ← Relay.perform input output session program
  Relay.writeJson output (Relay.endJson ended)
  return UInt32.ofNat ended.exitCode
