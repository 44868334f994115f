import BtrfsStore.BlockDevice
import BtrfsStore.MountSupervision
import BtrfsStore.VirtualDisk
/-!
# BtrfsStore.Wsl.StoreDisk

The disk of a store inside WSL: finding it among the block devices, creating
and attaching it, naming it for a mount unit, and taking it away.
-/

namespace BtrfsStore.Wsl

/-! ### Finding and attaching -/

/-- The partition of the store. -/
structure StoreDisk where
  partition : BlockDevice
  /-- The disk file was created in this run. -/
  created : Bool
  deriving Repr, DecidableEq

/-- The block devices that the distro sees. -/
def listBlockDevices (user : Target) : Attempt (List BlockDevice) := do
  let output ← user.runWithin Limit.quick "list block devices" "lsblk"
    ["-b", "-o", "NAME,SIZE,TYPE,PKNAME"]
  Attempt.ofExcept (BlockDevice.ofListing output)

/-- Looks once for the partition of the disk of the given size. Several such
disks end the search with a failure; the state keeps the name of the last disk
that was seen. -/
def lookForPartition (user : Target) (bytes : Nat) :
    StateT (Option String) Action (Option (Except Failure BlockDevice)) := do
  match ← (listBlockDevices user).outcome with
  | .error _ => pure none
  | .ok devices =>
    match BlockDevice.selectDisk devices bytes with
    | .error f => pure (some (.error f))
    | .ok none => pure none
    | .ok (some disk) =>
      set (some disk.name)
      match BlockDevice.selectPartition devices disk.name with
      | .ok partition => pure (some (.ok partition))
      | .error _ => pure none

/-- Waits until the partition of a freshly attached disk is listed. -/
def awaitPartition (user : Target) (disk : Path) (bytes : Nat) : Attempt BlockDevice := do
  let (found, seen) ← (Retry.deviceDiscovery.poll (lookForPartition user bytes)).run none
  match found, seen with
  | some (.ok partition), _ => pure partition
  | some (.error f), _ => throw f
  | none, some name => throw (.operation ("no partition on " ++ name ++ " after initialization"))
  | none, none =>
    throw (.operation ("attached virtual disk " ++ disk.text
      ++ " did not appear in the WSL block device list"))

/-- Creates the disk file unless it exists, partitions it and attaches it;
whether it was created. -/
def createAndAttach (outside : Target) (disk : Path) (bytes : Nat) : Attempt Bool := do
  let created ← VirtualDisk.ensureFile outside disk bytes
  VirtualDisk.ensurePartition outside disk
  VirtualDisk.attach outside disk
  pure created

/-- The partition of the store disk: that of the disk of the wanted size if one
is attached, or else that of the disk file, which is created if need be. -/
def attachStoreDisk (outside user : Target) (disk : Path) (bytes : Nat) : Attempt StoreDisk := do
  let devices ← (listBlockDevices user).inStage .deviceDetection
  match ← (Attempt.ofExcept (BlockDevice.selectDisk devices bytes)).inStage .deviceDetection with
  | some attached =>
    match BlockDevice.selectPartition devices attached.name with
    | .ok partition => pure { partition, created := false }
    | .error _ =>
      throw (.stage .deviceDetection (.operation ("disk " ++ attached.name
        ++ " has no partition; rerun with --reinit to recreate the store")))
  | none =>
    let created ← (createAndAttach outside disk bytes).inStage .virtualDisk
    let partition ← (awaitPartition user disk bytes).inStage .deviceDetection
    pure { partition, created }

/-! ### The source of the mount -/

/-- The link to a filesystem by its UUID. -/
def uuidLink (uuid : String) : String := "/dev/disk/by-uuid/" ++ uuid

/-- Reads the UUID of the filesystem on a device once and looks for its link;
the state keeps the last UUID that was read. -/
def lookForLink (root : Target) (device : String) :
    StateT (Option String) Action (Option String) := do
  let asked := root.runWithin Limit.probe "read filesystem UUID" "blkid"
    ["-s", "UUID", "-o", "value", device]
  match ← asked.outcome with
  | .error _ => pure none
  | .ok output =>
    let uuid := Text.trim output
    if uuid.isEmpty then
      return none
    set (some uuid)
    let found ←
      (root.runWithin Limit.probe "check UUID link" "test" ["-e", uuidLink uuid]).outcome
    match found with
    | .ok _ => return some (uuidLink uuid)
    | .error _ => return none

/-- The link to the filesystem on a device if it appears in time, and the UUID
if it was read. -/
def findLink (root : Target) (device : String) : Action (Option String × Option String) :=
  (Retry.uuidSettle.poll (lookForLink root device)).run none

/-- The warning about a device that has to be mounted by its path. -/
def linkWarning (device : String) : String :=
  "filesystem UUID link for " ++ device ++ " not available; mounting by device path"

/-! ### Taking the disk away -/

/-- Removes the unit, the mount, the attachment and the file of a store. The
mount has to be gone and the file has to be deleted; detaching the disk need
not succeed, since an earlier run may have left any part behind. -/
def teardown (outside root : Target) (unitName stateDir : String) (disk : Path) : Attempt Unit := do
  MountSupervision.teardown root unitName
  Filesystem.release root stateDir
  (VirtualDisk.detach outside disk).orIgnore
  (VirtualDisk.dismount outside disk).orIgnore
  VirtualDisk.delete disk

end BtrfsStore.Wsl
