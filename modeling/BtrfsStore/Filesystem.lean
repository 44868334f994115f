import BtrfsStore.MountUnit
import BtrfsStore.Retry
/-!
# BtrfsStore.Filesystem

The filesystem on a device: finding out what is there, deciding whether the
device is taken, formatted or refused, formatting it, and making sure that the
new filesystem is there. Also what is mounted on a directory, and taking a
mount away.

All commands run on `root`, a target with root rights on the machine that has
the device.

A device is formatted only with permission, and never while something else is
mounted from it.
-/

namespace BtrfsStore.Filesystem

/-! ### What is on a device -/

/-- What is on a device before anything is changed. -/
inductive Detected where
  | mountedBtrfs
  | mountedOther (fsType : String)
  | btrfs
  | other (fsType : String)
  | empty
  deriving Repr, DecidableEq

/-- The first word that a command writes. The exit code `noneCode` means that
there is nothing to write. -/
def typeOrNone (noneCode : Int) (x : Attempt String) : Attempt (Option String) := do
  match ← x.observe with
  | .ok output => pure (Text.firstWord output)
  | .error f => if f.exitCode = some noneCode then pure none else throw f

/-- The type of the filesystem that is mounted from a device. -/
def mountedType (root : Target) (device : String) : Attempt (Option String) :=
  typeOrNone 1 (root.runWithin Limit.probe "check existing mount" "findmnt"
    ["-n", "-o", "FSTYPE", "-S", device])

/-- The type of the filesystem whose signature is on a device. -/
def probedType (root : Target) (device : String) : Attempt (Option String) :=
  typeOrNone 2 (root.runWithin Limit.probe "probe filesystem signature" "blkid"
    ["-p", "-o", "value", "-s", "TYPE", device])

/-- What is on a device. -/
def detect (root : Target) (device : String) : Attempt Detected := do
  match ← mountedType root device with
  | some fsType =>
    pure (if fsType = btrfsType then .mountedBtrfs else .mountedOther fsType)
  | none =>
    match ← probedType root device with
    | some fsType => pure (if fsType = btrfsType then .btrfs else .other fsType)
    | none => pure .empty

/-! ### The decision -/

/-- What to do with a device. -/
inductive Decision where
  /-- Take it as it is. -/
  | accept
  /-- Format it, after wiping old signatures if `wipe`. -/
  | format (wipe : Bool)
  deriving Repr, DecidableEq

/-- What to do with a device in the given state. A foreign filesystem that is
mounted is refused even if formatting is allowed. -/
def decide (device : String) (allowFormat : Bool) : Detected → Except Failure Decision
  | .mountedBtrfs | .btrfs => .ok .accept
  | .mountedOther fsType => .error (.mountedForeign device fsType)
  | .other fsType =>
    if allowFormat then .ok (.format true) else .error (.foreignFilesystem device fsType)
  | .empty => if allowFormat then .ok (.format false) else .error (.unformatted device)

/-! ### Formatting -/

/-- Formats a device. -/
def format (root : Target) (device : String) (wipe : Bool) : Attempt Unit := do
  if wipe then
    discard <| root.run "wipe filesystem signatures" "wipefs" ["-a", device]
  discard <| root.run "format btrfs" "mkfs.btrfs" ["-f", device]

/-- Mounts the device on a directory made for this purpose, so that the kernel
itself reads the filesystem. The mount and the directory are taken away again;
only the mount decides. -/
def probeMount (root : Target) (device : String) : Attempt Unit := do
  let output ← root.runWithin Limit.quick "create probe directory" "mktemp" ["-d"]
  let dir := Text.trim output
  if dir.isEmpty then
    throw (.verifyFailed device "mktemp returned no directory")
  let mounted ← (root.run "probe mount" "mount" ["-t", btrfsType, device, dir]).observe
  if mounted.isOk then
    (root.runWithin Limit.quick "probe unmount" "umount" [dir]).orIgnore
  (root.runWithin Limit.quick "remove probe directory" "rmdir" [dir]).orIgnore
  match mounted with
  | .ok _ => pure ()
  | .error f => throw (.verifyFailed device f.message)

/-- Whether the signature on a device is that of btrfs; a failed probe counts
as not yet. -/
def confirmed (root : Target) (device : String) : Action (Option Unit) := do
  match ← (probedType root device).outcome with
  | .ok (some fsType) => pure (if fsType = btrfsType then some () else none)
  | _ => pure none

/-- Makes sure that a device carries btrfs, by its signature or else by
mounting it. -/
def verify (root : Target) (device : String) : Attempt Unit := do
  match ← Retry.signatureSettle.poll (confirmed root device) with
  | some () => pure ()
  | none => probeMount root device

/-- How a device came to carry btrfs. -/
inductive FormatOutcome where
  /-- It did before. -/
  | existing
  /-- It was formatted. -/
  | formatted
  deriving Repr, DecidableEq

/-- Makes sure that a device carries btrfs, formatting it only if
`allowFormat`. -/
def ensure (root : Target) (device : String) (allowFormat : Bool) : Attempt FormatOutcome := do
  let state ← detect root device
  match decide device allowFormat state with
  | .error f => throw f
  | .ok .accept => pure .existing
  | .ok (.format wipe) =>
    format root device wipe
    verify root device
    pure .formatted

/-! ### Mount points -/

/-- The type of the filesystem that is mounted exactly on a directory. -/
def mountPointType (root : Target) (dir : String) : Attempt (Option String) :=
  typeOrNone 1 (root.runWithin Limit.probe "check live mount" "findmnt"
    ["-n", "-o", "FSTYPE", "--mountpoint", dir])

/-- Takes the mount on a directory away and makes sure that it is gone. A busy
mount is a failure at once; after any other failure to unmount, what is mounted
there decides. -/
def release (root : Target) (dir : String) : Attempt Unit := do
  match ← (root.runWithin Limit.quick "unmount store" "umount" [dir]).observe with
  | .ok _ => pure ()
  | .error f =>
    if FailureKind.ofFailure f = .deviceBusy then
      throw (.operation (dir ++ " is still in use and cannot be unmounted; "
        ++ "stop whatever holds it and retry (" ++ f.message ++ ")"))
  match ← mountPointType root dir with
  | none => pure ()
  | some fsType =>
    throw (.operation (dir ++ " is still mounted (" ++ fsType ++ ") after unmounting"))

end BtrfsStore.Filesystem
