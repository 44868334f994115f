import BtrfsStore.Filesystem
import BtrfsStore.StoreContent
import BtrfsStore.StoreOutcome
import BtrfsStore.StorePlan
/-!
# BtrfsStore.Native

The store of a Linux host: a directory that is on btrfs already is taken as it
is; otherwise an image or a device is formatted if need be, mounted on the
directory of the store and given to the user.

Commands that change something run as root, the others as the user.
-/

namespace BtrfsStore.Native

/-! ### Prerequisites -/

/-- The tools of a plan that the host does not have. -/
def missingTools (plan : StorePlan) : Action (List String) := do
  let isRoot ← Action.isRoot
  (plan.requiredTools isRoot).filterM fun tool => Option.isNone <$> Action.locate tool

/-- Fails if tools of a plan are missing. -/
def checkPrerequisites (plan : StorePlan) : Attempt Unit := do
  let missing ← missingTools plan
  if missing.isEmpty then pure () else throw (.missingTools missing)

/-! ### Directories on btrfs -/

/-- The nearest ancestor of a path that exists, the path included. -/
def existingAncestor (path : Path) : Action (Option Path) :=
  path.ancestors.findM? Action.pathExists

/-- Whether a directory, or its nearest ancestor that exists, is on btrfs. -/
def isOnBtrfs (dir : Path) : Action Bool := do
  match ← existingAncestor dir with
  | none => pure false
  | some existing =>
    let asked := Target.host.runWithin Limit.probe "check store filesystem" "stat"
      ["-f", "-c", "%T", existing.text]
    match ← asked.outcome with
    | .ok output => pure (Text.trim output == btrfsType)
    | .error _ => pure false

/-! ### Steps -/

/-- Unmounts the store and removes its image. -/
def reinit (plan : StorePlan) : Attempt Unit := do
  Filesystem.release .hostRoot plan.storeDir.text
  match plan.imagePath with
  | some image =>
    discard <| Target.hostRoot.runWithin Limit.quick "remove store image" "rm" ["-f", image.text]
  | none => pure ()

/-- Creates the directory of the store and gives it to the user. -/
def createStoreDir (dir : String) : Attempt Unit := do
  discard <| Target.hostRoot.runWithin Limit.quick "create store directory" "mkdir" ["-p", dir]
  let owner ← StoreContent.invokingOwner .host
  discard <| Target.hostRoot.runWithin Limit.quick "change store ownership" "chown" [owner, dir]

/-- Creates the image of the store unless it exists; whether it was
created. -/
def ensureImage (image : Path) (gigabytes : Nat) : Attempt Bool := do
  if ← Action.pathExists image then
    return false
  match image.parent with
  | some dir =>
    if !(← Action.pathExists dir) then
      discard <| Target.hostRoot.runWithin Limit.quick "create image directory" "mkdir"
        ["-p", dir.text]
  | none => pure ()
  discard <| Target.hostRoot.runWithin Limit.quick "create store image" "truncate"
    ["-s", toString gigabytes ++ "G", image.text]
  return true

/-- Mounts what is behind the store on its directory, unless something is
mounted there. -/
def mount (plan : StorePlan) (backing dir : String) : Attempt Unit := do
  discard <| Target.hostRoot.runWithin Limit.quick "create store directory" "mkdir" ["-p", dir]
  match ← Filesystem.mountPointType .hostRoot dir with
  | some fsType =>
    if fsType = btrfsType then pure ()
    else throw (.mountTypeMismatch dir btrfsType fsType)
  | none =>
    if plan.isImage then
      discard <| Target.hostRoot.run "mount store image" "mount" ["-o", "loop", backing, dir]
    else
      discard <| Target.hostRoot.run "mount store device" "mount" [backing, dir]
    let mounted ← Filesystem.mountPointType .hostRoot dir
    if mounted = some btrfsType then pure ()
    else throw (.mountTypeMismatch dir btrfsType (mounted.getD "nothing"))

/-! ### The run -/

/-- Takes a directory that is on btrfs as the store. -/
def takeDirectory (dir : Path) : Attempt StoreOutcome := do
  if !(← Action.pathExists dir) then
    (createStoreDir dir.text).inStage .ownership
  pure { useStore := true, backendAvailable := true, storePath := some dir.text }

/-- Formats and mounts what is behind the store. -/
def mountStore (request : StoreRequest) (plan : StorePlan) : Attempt StoreOutcome := do
  (checkPrerequisites plan).inStage .prerequisites
  let some backing := plan.backing
    | throw (.operation "store plan has no backing file or device")
  let created ←
    if plan.isImage then (ensureImage backing request.gigabytes).inStage .storeImage
    else pure false
  discard <| (Filesystem.ensure .hostRoot backing.text (created || request.reinit)).inStage .format
  (mount plan backing.text plan.storeDir.text).inStage .localMount
  discard <| (StoreContent.giveTo .hostRoot .host plan.storeDir.text).inStage .ownership
  pure
    { useStore := true, backendAvailable := true, storePath := some plan.storeDir.text,
      mountDevice := some backing.text, mountFsType := some btrfsType }

/-- Makes the store of a request ready, or fails. -/
def prepare (request : StoreRequest) (storeRoot : Option Path) : Attempt StoreOutcome := do
  let plan ← Attempt.ofExcept (StorePlan.ofRequest request storeRoot)
  if request.reinit then
    (reinit plan).inStage .reinit
  if ← isOnBtrfs plan.storeDir then takeDirectory plan.storeDir
  else mountStore request plan

/-- Makes the store of a request ready. If that fails, the outcome is a
fallback, unless the request insists on the store. -/
def provision (request : StoreRequest) (storeRoot : Option Path) : Attempt StoreOutcome := do
  match ← (prepare request storeRoot).observe with
  | .ok outcome => pure outcome
  | .error f => if request.require then throw f else pure (.fallback f.message)

end BtrfsStore.Native
