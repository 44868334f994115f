import BtrfsStore.Command
import BtrfsStore.Failure
import BtrfsStore.Text.Encoding
/-!
# BtrfsStore.Process

How the process behind a command ends, and what that means for the command: its
output, or a failure that says what went wrong.
-/

namespace BtrfsStore

/-- How a process ended. -/
inductive ProcessEnd where
  /-- It ran to completion. -/
  | exited (code : Int) (stdout stderr : List UInt8)
  /-- A signal ended it. -/
  | signalled (stdout stderr : List UInt8)
  /-- It was still running when its time was up. -/
  | overran
  /-- It could not be started. -/
  | notStarted (reason : String)
  /-- It ended before it had taken its input. -/
  | inputLeft
  deriving Repr, DecidableEq

namespace ProcessEnd

/-- What a failed process says about its failure: its error output, or its
output if the error output is blank. -/
def complaint (stdout stderr : List UInt8) : String :=
  let complaint := Text.decodeOutput stderr
  if Text.isBlankText complaint then Text.decodeOutput stdout else complaint

/-- The answer to a command whose process runs `program`. -/
def answer (c : Command) (program : String) : ProcessEnd → Except Failure String
  | .exited code stdout stderr =>
    if code = 0 then .ok (Text.decodeOutput stdout)
    else .error (.exited c.description code (complaint stdout stderr))
  | .signalled stdout stderr =>
    .error (.ofCommand c.description "terminated by signal" none (complaint stdout stderr))
  | .overran => .error (.timedOut c.description c.limit)
  | .notStarted reason => .error (.notStarted c.description program reason)
  | .inputLeft =>
    .error (.ofCommand c.description "failed to write stdin: Broken pipe (os error 32)" none "")

end ProcessEnd

end BtrfsStore
