import BtrfsStore.BlockDevice
import BtrfsStore.Json.Basic
import BtrfsStore.MountUnit
import BtrfsStore.StoreOutcome
import BtrfsStore.StorePlan
/-!
# BtrfsStore.Json.Record

How requests, outcomes and their parts are written as JSON and read back.

A record is written as an object. It is read from an object, whose other
members do not matter, or from an array of its fields in their order. A choice
without a value is written as its name, and is also read from an object with
that name and `null`.
-/

namespace BtrfsStore

namespace Json

/-! ### Reading records -/

/-- The fields of a record with the given field names: what is found under
each of them. -/
def fields? (names : List String) : Json → Option (String → Option Json)
  | obj members => some (members.lookup ·)
  | arr items =>
    if items.length = names.length then some ((names.zip items).lookup ·) else none
  | _ => none

/-- A field that has to be there. -/
def required {α : Type} (read : Json → Option α) : Option Json → Option α
  | some j => read j
  | none => none

/-- A field that may be missing or `null`. -/
def optional {α : Type} (read : Json → Option α) : Option Json → Option (Option α)
  | none | some .null => some none
  | some j => (read j).map some

/-- A path. -/
def path? (j : Json) : Option Path := j.str?.map Path.mk

/-- A choice without a value, from its name. -/
def choice? {α : Type} (ofName? : String → Option α) : Json → Option α
  | str s => ofName? s
  | obj [(s, .null)] => ofName? s
  | _ => none

/-! ### Writing records -/

/-- A text or `null`. -/
def ofText? : Option String → Json
  | some s => .str s
  | none => .null

/-- A path or `null`. -/
def ofPath? (p : Option Path) : Json := ofText? (p.map Path.text)

/-- A natural number. -/
def ofNat (n : Nat) : Json := .int n

/-- A natural number or `null`. -/
def ofNat? : Option Nat → Json
  | some n => ofNat n
  | none => .null

/-- The members that have a value. -/
def members (entries : List (String × Option Json)) : Json :=
  .obj (entries.filterMap fun e => e.2.map fun j => (e.1, j))

end Json

open Json

/-! ### Choices -/

/-- A snapshot backend from its exact name. -/
def SnapshotBackend.ofJson? : Json → Option SnapshotBackend :=
  choice? fun s => SnapshotBackend.all.find? (·.name == s)

def SnapshotBackend.toJson (b : SnapshotBackend) : Json := .str b.name

/-- A kind of store from its exact name. -/
def StoreKind.ofJson? : Json → Option StoreKind :=
  choice? fun s => StoreKind.all.find? (·.name == s)

def StoreKind.toJson (k : StoreKind) : Json := .str k.name

/-- A kind of device; any kind but the two known ones carries its name. -/
def DeviceKind.ofJson? : Json → Option DeviceKind
  | .obj [("other", .str s)] => some (.other s)
  | j => choice? (fun s =>
      if s = "disk" then some .disk else if s = "part" then some .part else none) j

def DeviceKind.toJson : DeviceKind → Json
  | .disk => .str "disk"
  | .part => .str "part"
  | .other s => .obj [("other", .str s)]

/-! ### Records -/

/-- Reads a request. -/
def StoreRequest.ofJson? (j : Json) : Option StoreRequest := do
  let field ← fields? ["snapshotBackend", "storeType", "storePath", "sizeGb", "reinit", "distro",
    "noStart", "verbose", "require"] j
  some
    { snapshotBackend := ← required SnapshotBackend.ofJson? (field "snapshotBackend")
      storeKind := ← required StoreKind.ofJson? (field "storeType")
      storePath := ← optional path? (field "storePath")
      sizeGb := ← optional word64? (field "sizeGb")
      reinit := ← required bool? (field "reinit")
      distro := ← optional str? (field "distro")
      noStart := ← required bool? (field "noStart")
      verbose := ← required bool? (field "verbose")
      require := ← required bool? (field "require") }

def StoreRequest.toJson (r : StoreRequest) : Json :=
  .obj
    [("snapshotBackend", r.snapshotBackend.toJson), ("storeType", r.storeKind.toJson),
      ("storePath", ofPath? r.storePath), ("sizeGb", ofNat? r.sizeGb),
      ("reinit", .bool r.reinit), ("distro", ofText? r.distro), ("noStart", .bool r.noStart),
      ("verbose", .bool r.verbose), ("require", .bool r.require)]

/-- Reads an outcome. -/
def StoreOutcome.ofJson? (j : Json) : Option StoreOutcome := do
  let field ← fields? ["useStore", "storeBackendAvailable", "distro", "stateDir", "storePath",
    "mountDevice", "mountFsType", "mountUnit", "mountDeviceUUID", "warning"] j
  some
    { useStore := ← required bool? (field "useStore")
      backendAvailable := ← required bool? (field "storeBackendAvailable")
      distro := ← optional str? (field "distro")
      stateDir := ← optional str? (field "stateDir")
      storePath := ← optional str? (field "storePath")
      mountDevice := ← optional str? (field "mountDevice")
      mountFsType := ← optional str? (field "mountFsType")
      mountUnit := ← optional str? (field "mountUnit")
      mountDeviceUuid := ← optional str? (field "mountDeviceUUID")
      warning := ← required str? (field "warning") }

/-- Writes an outcome; texts that are not set, and an empty warning, are left
out. -/
def StoreOutcome.toJson (o : StoreOutcome) : Json :=
  let text (s : Option String) : Option Json := s.map .str
  members
    [("useStore", some (.bool o.useStore)),
      ("storeBackendAvailable", some (.bool o.backendAvailable)),
      ("distro", text o.distro), ("stateDir", text o.stateDir), ("storePath", text o.storePath),
      ("mountDevice", text o.mountDevice), ("mountFsType", text o.mountFsType),
      ("mountUnit", text o.mountUnit), ("mountDeviceUUID", text o.mountDeviceUuid),
      ("warning", if o.warning.isEmpty then none else some (.str o.warning))]

/-- Reads a block device. -/
def BlockDevice.ofJson? (j : Json) : Option BlockDevice := do
  let field ← fields? ["name", "size_bytes", "kind", "parent_name"] j
  some
    { name := ← required str? (field "name")
      sizeBytes := ← required word64? (field "size_bytes")
      kind := ← required DeviceKind.ofJson? (field "kind")
      parent := ← optional str? (field "parent_name") }

def BlockDevice.toJson (d : BlockDevice) : Json :=
  .obj
    [("name", .str d.name), ("size_bytes", ofNat d.sizeBytes), ("kind", d.kind.toJson),
      ("parent_name", ofText? d.parent)]

/-- Reads a plan. -/
def StorePlan.ofJson? (j : Json) : Option StorePlan := do
  let field ← fields? ["store_dir", "image_path", "device_path"] j
  some
    { storeDir := ← required path? (field "store_dir")
      imagePath := ← optional path? (field "image_path")
      devicePath := ← optional path? (field "device_path") }

def StorePlan.toJson (p : StorePlan) : Json :=
  .obj
    [("store_dir", .str p.storeDir.text), ("image_path", ofPath? p.imagePath),
      ("device_path", ofPath? p.devicePath)]

/-- Reads a mount unit. -/
def MountUnit.ofJson? (j : Json) : Option MountUnit := do
  let field ← fields? ["name", "what", "where", "fs_type", "options"] j
  some
    { name := ← required str? (field "name")
      source := ← required str? (field "what")
      mountPoint := ← required str? (field "where")
      fsType := ← required str? (field "fs_type")
      options := ← required str? (field "options") }

def MountUnit.toJson (u : MountUnit) : Json :=
  .obj
    [("name", .str u.name), ("what", .str u.source), ("where", .str u.mountPoint),
      ("fs_type", .str u.fsType), ("options", .str u.options)]

end BtrfsStore
