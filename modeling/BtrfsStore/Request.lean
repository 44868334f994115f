import BtrfsStore.Text.Find
import BtrfsStore.Text.Decimal
import BtrfsStore.Path
/-!
# BtrfsStore.Request

What the user asks for: the way snapshots are taken, the kind of store, and
the details of one provisioning run.
-/

namespace BtrfsStore

/-- Bytes in one MiB. -/
def mebibyte : Nat := 1024 * 1024

/-- Bytes in one GiB; store sizes are requested in GiB. -/
def gibibyte : Nat := 1024 * mebibyte

/-! ### Snapshot backends -/

/-- How database images are cloned. -/
inductive SnapshotBackend where
  | auto
  | btrfs
  | overlay
  | copy
  deriving Repr, DecidableEq, Inhabited

namespace SnapshotBackend

/-- All backends. -/
def all : List SnapshotBackend := [.auto, .btrfs, .overlay, .copy]

/-- The name of a backend. -/
def name : SnapshotBackend → String
  | .auto => "auto"
  | .btrfs => "btrfs"
  | .overlay => "overlay"
  | .copy => "copy"

/-- The backend of the given name, in any letter case. -/
def ofName? (text : String) : Option SnapshotBackend :=
  all.find? fun b => b.name == Text.foldCase text

/-- The complaint about a text that names no backend. -/
def unknown (text : String) : String := "Invalid snapshot backend: " ++ text

end SnapshotBackend

/-! ### Kinds of stores -/

/-- What a store is kept on. -/
inductive StoreKind where
  /-- A directory, with an image file next to it if it is not on btrfs. -/
  | dir
  /-- An image file, or a virtual disk on Windows. -/
  | image
  /-- A block device. -/
  | device
  deriving Repr, DecidableEq, Inhabited

namespace StoreKind

/-- All kinds of stores. -/
def all : List StoreKind := [.dir, .image, .device]

/-- The name of a kind of store. -/
def name : StoreKind → String
  | .dir => "dir"
  | .image => "image"
  | .device => "device"

/-- The kind of the given name, in any letter case. -/
def ofName? (text : String) : Option StoreKind :=
  all.find? fun k => k.name == Text.foldCase text

/-- The complaint about a text that names no kind of store. -/
def unknown (text : String) : String := "Invalid store type: " ++ text

end StoreKind

/-! ### Requests -/

/-- The size of an image, in GiB, when the user gives none. -/
def defaultSizeGb : Nat := 100

/-- The input of one provisioning run. -/
structure StoreRequest where
  snapshotBackend : SnapshotBackend := .auto
  storeKind : StoreKind := .dir
  /-- Where the store is to be; without it, under the store root. -/
  storePath : Option Path := none
  /-- The size of an image in GiB; without it, `defaultSizeGb`. -/
  sizeGb : Option Nat := none
  /-- Destroy the store and create it anew. -/
  reinit : Bool := false
  /-- The WSL distro; without it, the default one. -/
  distro : Option String := none
  /-- Do not start the WSL distro. -/
  noStart : Bool := false
  verbose : Bool := false
  /-- Report a failed run as a failure instead of falling back. -/
  require : Bool := false
  deriving Repr, DecidableEq, Inhabited

namespace StoreRequest

/-- The size of an image in GiB. -/
def gigabytes (r : StoreRequest) : Nat := r.sizeGb.getD defaultSizeGb

/-- The size of an image in bytes, at most the largest 64-bit number. -/
def bytes (r : StoreRequest) : Nat := min (r.gigabytes * gibibyte) (Text.word64 - 1)

end StoreRequest

end BtrfsStore
