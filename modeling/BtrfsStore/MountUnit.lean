import BtrfsStore.Text.Blank
/-!
# BtrfsStore.MountUnit

The systemd unit that mounts a store: its parts, the text of its file, and
the parts that must not be blank.
-/

namespace BtrfsStore

/-- The filesystem type of a store. -/
def btrfsType : String := "btrfs"

/-- The mount options of a unit that names none. -/
def defaultMountOptions : String := "defaults"

/-- A mount unit. -/
structure MountUnit where
  /-- The file name of the unit. -/
  name : String
  /-- The device to mount. -/
  source : String
  /-- The directory to mount it on. -/
  mountPoint : String
  fsType : String := btrfsType
  options : String := defaultMountOptions
  deriving Repr, DecidableEq

namespace MountUnit

/-- Where the file of the unit with the given name is installed. -/
def pathOf (name : String) : String := "/etc/systemd/system/" ++ name

/-- Where the file of the unit is installed. -/
def unitPath (u : MountUnit) : String := pathOf u.name

/-- `text`, or `default` if the text is blank. -/
def orDefault (default text : String) : String := if Text.isBlankText text then default else text

/-- The filesystem type that the file declares. -/
def effectiveFsType (u : MountUnit) : String := orDefault btrfsType u.fsType

/-- The mount options that the file declares. -/
def effectiveOptions (u : MountUnit) : String := orDefault defaultMountOptions u.options

/-- The lines of the unit file. -/
def fileLines (u : MountUnit) : List String :=
  ["[Unit]",
    "Description=sqlrs btrfs store (" ++ u.mountPoint ++ ")",
    "After=local-fs-pre.target",
    "",
    "[Mount]",
    "What=" ++ u.source,
    "Where=" ++ u.mountPoint,
    "Type=" ++ u.effectiveFsType,
    "Options=" ++ u.effectiveOptions,
    "",
    "[Install]",
    "WantedBy=multi-user.target"]

/-- The text of the unit file. -/
def render (u : MountUnit) : String := String.join (u.fileLines.map (· ++ "\n"))

/-- The first part of the unit that is blank and must not be. -/
def firstFault (u : MountUnit) : Option String :=
  if Text.isBlankText u.name then some "unit name is empty"
  else if Text.isBlankText u.mountPoint then some "target directory is empty"
  else if Text.isBlankText u.source then some "source device is empty"
  else none

end MountUnit

end BtrfsStore
