import BtrfsStore.FileTree
import BtrfsStore.Text.Blank
import BtrfsStore.Text.Find
/-!
# BtrfsStore.Failure

What can go wrong while a store is provisioned.

* `Failure` lists the causes; `Failure.stage` wraps a cause with the stage of
  the run in which it arose.
* `Failure.message` is the only place where a cause gets its wording.
* `FailureKind` sorts failures of tools by what their text says, since
  `umount`, `wsl.exe` and PowerShell report the reason only as text.
-/

namespace BtrfsStore

/-! ### Stages -/

/-- The stages of a run in which a failure can arise. -/
inductive Stage where
  | distroStart
  | kernelSupport
  | toolInstall
  | systemd
  | elevation
  | stateDir
  | reinit
  | virtualDisk
  | deviceDetection
  | format
  | mount
  | subvolumes
  | ownership
  | prerequisites
  | storeImage
  | localMount
  deriving Repr, DecidableEq

/-- The label that a stage puts in front of its failures. -/
def Stage.label : Stage → String
  | .distroStart => "WSL distro start failed"
  | .kernelSupport => "btrfs kernel support unavailable"
  | .toolInstall => "btrfs-progs install failed"
  | .systemd => "systemd unavailable"
  | .elevation => "Administrator privileges required"
  | .stateDir => "WSL state directory resolution failed"
  | .reinit => "reinit failed"
  | .virtualDisk => "virtual disk setup failed"
  | .deviceDetection => "block device detection failed"
  | .format => "btrfs format failed"
  | .mount => "WSL mount failed"
  | .subvolumes => "btrfs subvolume setup failed"
  | .ownership => "store ownership update failed"
  | .prerequisites => "btrfs prerequisites missing"
  | .storeImage => "store image setup failed"
  | .localMount => "btrfs store mount failed"

/-! ### Causes -/

/-- Why a step of provisioning failed. -/
inductive Failure where
  /-- A file operation failed. -/
  | io (fault : FileFault)
  /-- A command could not be started, ran out of time or did not succeed;
  `code` is its exit code if it ran to completion. -/
  | command (description reason : String) (code : Option Int) (stderr : String)
  /-- A block device listing could not be read. -/
  | inventory (reason : String)
  /-- Several disks have the wanted size. -/
  | ambiguousDisk (targetBytes : Nat) (candidates : List String)
  /-- A disk has no partition. -/
  | partitionNotFound (disk : String)
  /-- A virtual disk is held by someone else. -/
  | diskInUse (disk : String)
  /-- A device is mounted with another filesystem. -/
  | mountedForeign (device fsType : String)
  /-- A device carries another filesystem. -/
  | foreignFilesystem (device fsType : String)
  /-- A device carries no filesystem. -/
  | unformatted (device : String)
  /-- A formatted device does not show the new filesystem. -/
  | verifyFailed (device reason : String)
  /-- A mount unit lacks a part. -/
  | invalidMountUnit (reason : String)
  /-- A mount point shows another filesystem than the expected one. -/
  | mountTypeMismatch (mountPoint expected actual : String)
  /-- Tools are not installed. -/
  | missingTools (tools : List String)
  /-- WSL cannot be used at all. -/
  | wslUnavailable (reason : String)
  /-- A failure in a named stage of the run. -/
  | stage (stage : Stage) (cause : Failure)
  /-- Any other failure, by its wording. -/
  | operation (text : String)
  deriving Repr, DecidableEq

namespace Failure

/-- A failed command; blank characters around its error output are dropped. -/
def ofCommand (description reason : String) (code : Option Int) (stderr : String) : Failure :=
  .command description reason code (Text.trim stderr)

/-- A command that did not end within `ms` milliseconds. -/
def timedOut (description : String) (ms : Nat) : Failure :=
  ofCommand description ("timed out after " ++ toString (ms / 1000) ++ "s") none ""

/-- A command whose program could not be started. -/
def notStarted (description program reason : String) : Failure :=
  ofCommand description ("failed to start " ++ program ++ ": " ++ reason) none ""

/-- A command that ended with an exit code other than zero. -/
def exited (description : String) (code : Int) (stderr : String) : Failure :=
  ofCommand description ("exit status " ++ toString code) (some code) stderr

/-- The error output as it follows a reason. -/
def stderrSuffix (stderr : String) : String :=
  let stderr := Text.trim stderr
  if stderr.isEmpty then "" else ": " ++ stderr

/-- The wording of a failure. -/
def message : Failure → String
  | .io fault => "I/O error: " ++ fault.message
  | .command description reason _ stderr =>
    description ++ ": " ++ reason ++ stderrSuffix stderr
  | .inventory reason => "failed to parse block device inventory: " ++ reason
  | .ambiguousDisk targetBytes candidates =>
    "multiple disks match size " ++ toString targetBytes ++ " bytes: "
      ++ Text.joinWith ", " candidates ++ "; detach the extra disk or rerun with --reinit"
  | .partitionNotFound disk => "no partition found on disk " ++ disk
  | .diskInUse disk =>
    "virtual disk " ++ disk ++ " is in use; rerun with --reinit or detach it manually "
      ++ "(wsl.exe --unmount, Dismount-VHD)"
  | .mountedForeign device fsType =>
    device ++ " is mounted as " ++ fsType
      ++ ", not btrfs; rerun with --reinit to recreate the store"
  | .foreignFilesystem device fsType =>
    device ++ " contains a " ++ fsType
      ++ " filesystem; rerun with --reinit to reformat it as btrfs"
  | .unformatted device => device ++ " has no btrfs filesystem; rerun with --reinit to format it"
  | .verifyFailed device reason =>
    "btrfs not detected on " ++ device ++ " after formatting: " ++ reason
  | .invalidMountUnit reason => "invalid mount unit: " ++ reason
  | .mountTypeMismatch mountPoint expected actual =>
    mountPoint ++ " is mounted as " ++ actual ++ ", expected " ++ expected
  | .missingTools tools => "missing required tools: " ++ Text.joinWith ", " tools
  | .wslUnavailable reason => "WSL unavailable: " ++ reason
  | .stage s cause => s.label ++ ": " ++ cause.message
  | .operation text => "Operation failed: " ++ text

/-- The exit code of the command that failed, if it ran to completion. -/
def exitCode : Failure → Option Int
  | .command _ _ code _ => code
  | .stage _ cause => cause.exitCode
  | _ => none

/-- The failure without the stages around it. -/
def innermost : Failure → Failure
  | .stage _ cause => cause.innermost
  | f => f

/-- The stages around a failure, from the outside in. -/
def stages : Failure → List Stage
  | .stage s cause => s :: cause.stages
  | _ => []

/-- The wording of a failure and of what caused it, the failure itself
first. -/
def chain : Failure → List String
  | f@(.stage _ cause) => f.message :: cause.chain
  | f@(.io fault) => [f.message, fault.message]
  | f => [f.message]

end Failure

/-! ### Kinds of tool failures -/

/-- What the text of a failed tool says about the reason. -/
inductive FailureKind where
  /-- The target was not mounted to begin with. -/
  | alreadyUnmounted
  /-- The tool is not installed. -/
  | toolMissing
  /-- The disk or mount is held by someone else. -/
  | deviceBusy
  /-- The virtual disk is attached to WSL already. -/
  | alreadyAttached
  /-- The file or disk to remove no longer exists. -/
  | alreadyAbsent
  /-- None of the above. -/
  | other
  deriving Repr, DecidableEq

namespace FailureKind

/-- The phrases that tell a kind, in the order in which kinds are tried.
`umount` exits with status 32 both for a busy target and for one that is not
mounted, so that a busy target has to be recognised first. -/
def phrases : List (FailureKind × List String) :=
  [(.deviceBusy,
      ["objectinuse", " in use", "being used by another process", "target is busy",
        "device or resource busy"]),
    (.alreadyUnmounted,
      ["not mounted", "no mount point specified", "exit status 32", "wsl_e_disk_not_attached",
        "is not attached"]),
    (.alreadyAttached, ["wsl_e_user_vhd_already_attached", "already attached"]),
    (.toolMissing,
      ["command not found", "executable file not found", "is not recognized as",
        "exit status 127"]),
    (.alreadyAbsent,
      ["no such file or directory", "cannot find the file", "cannot find path",
        "does not exist"])]

/-- The kind that a text tells, whatever its letter case: the first one with a
phrase that occurs in it. -/
def ofText (text : String) : FailureKind :=
  let folded := Text.foldCase text
  match phrases.find? fun entry => entry.2.any (Text.contains folded) with
  | some (kind, _) => kind
  | none => .other

/-- The kind of a failure, by its wording. -/
def ofFailure (f : Failure) : FailureKind := ofText f.message

end FailureKind

end BtrfsStore
