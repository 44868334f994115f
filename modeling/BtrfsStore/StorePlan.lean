import BtrfsStore.Request
import BtrfsStore.Failure
/-!
# BtrfsStore.StorePlan

Where a native store lives: the directory it is mounted on, and the image file
or device behind it.

A plan made by `StorePlan.ofRequest` names exactly one of an image and a
device.
-/

namespace BtrfsStore

/-- Where a native store lives. -/
structure StorePlan where
  /-- The directory of the store. -/
  storeDir : Path
  /-- The image file behind the store. -/
  imagePath : Option Path := none
  /-- The block device behind the store. -/
  devicePath : Option Path := none
  deriving Repr, DecidableEq, Inhabited

namespace StorePlan

/-- What is formatted and mounted. -/
def backing (plan : StorePlan) : Option Path := plan.imagePath.or plan.devicePath

/-- Whether the store is kept in an image file. -/
def isImage (plan : StorePlan) : Bool := plan.imagePath.isSome

/-! ### Images -/

/-- The extensions of image files. -/
def imageExtensions : List String := ["img", "raw", "btrfs", "image"]

/-- The ending of an image that is named after its directory. -/
def imageSuffix : String := ".img"

/-- Whether the path names an image file. -/
def hasImageExtension (p : Path) : Bool :=
  match p.extension with
  | some ext => imageExtensions.any fun known => Text.sameAscii known ext
  | none => false

/-- The image next to a directory, named after it. -/
def siblingImage (dir : Path) : Except Failure Path :=
  match dir.fileName with
  | some name => .ok (dir.withFileName (name ++ imageSuffix))
  | none => .error (.operation ("cannot place a store image next to " ++ dir.text))

/-- The directory of a store that is kept in the given image. -/
def directoryOfImage (image : Path) : Path :=
  match image.parent with
  | some dir => if dir.text.isEmpty then ⟨"."⟩ else dir
  | none => ⟨"."⟩

/-! ### Planning -/

/-- The failure to find a place for the store. -/
def missingRoot : Failure :=
  .operation
    "cannot determine the default store directory; set SQLRS_STATE_STORE or pass --store-path"

/-- A store in a directory, with an image next to it. -/
def ofDirectory (dir : Path) : Except Failure StorePlan :=
  (siblingImage dir).map fun image => { storeDir := dir, imagePath := some image }

/-- The directory for a store without an image of its own. -/
def directoryFor (storePath storeRoot : Option Path) : Except Failure StorePlan :=
  match storePath.or storeRoot with
  | some dir => ofDirectory dir
  | none => .error missingRoot

/-- Where a store of the given kind lives: `storePath` is the place that the
user names, `storeRoot` the default place. -/
def make (kind : StoreKind) (storePath storeRoot : Option Path) : Except Failure StorePlan :=
  match kind with
  | .device =>
    match storePath, storeRoot with
    | none, _ => .error (.operation "a device store needs an explicit device path")
    | some _, none => .error missingRoot
    | some device, some root => .ok { storeDir := root, devicePath := some device }
  | .image =>
    match storePath with
    | some image =>
      if hasImageExtension image then
        .ok { storeDir := directoryOfImage image, imagePath := some image }
      else ofDirectory image
    | none => directoryFor none storeRoot
  | .dir => directoryFor storePath storeRoot

/-- The plan for a request. -/
def ofRequest (request : StoreRequest) (storeRoot : Option Path) : Except Failure StorePlan :=
  make request.storeKind request.storePath storeRoot

/-! ### Tools -/

/-- The host tools that a plan needs. -/
def requiredTools (plan : StorePlan) (isRoot : Bool) : List String :=
  ["mkfs.btrfs", "mount", "umount", "findmnt"]
    ++ (if plan.isImage then ["truncate"] else [])
    ++ (if isRoot then [] else ["sudo"])

end StorePlan

end BtrfsStore
