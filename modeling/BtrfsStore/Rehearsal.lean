import BtrfsStore.Scripted
/-!
# BtrfsStore.Rehearsal

Ready-made parts for rehearsals on a scripted host: listings as the tools write
them, and hosts where every prerequisite is in place.
-/

namespace BtrfsStore.Rehearsal

open Scripted (Reply State)

/-! ### Listings -/

/-- A row of a block device listing: a partition if it has a parent, a disk
otherwise. -/
structure DeviceRow where
  name : String
  sizeBytes : Nat
  parent : Option String := none

/-- The text of a row. -/
def DeviceRow.render (r : DeviceRow) : String :=
  match r.parent with
  | none => r.name ++ " " ++ toString r.sizeBytes ++ " disk"
  | some parent => r.name ++ " " ++ toString r.sizeBytes ++ " part " ++ parent

/-- A listing as `lsblk -b -o NAME,SIZE,TYPE,PKNAME` writes it. -/
def deviceListing (rows : List DeviceRow) : String :=
  "NAME SIZE TYPE PKNAME\n" ++ String.join (rows.map fun r => r.render ++ "\n")

/-- The width of the name column of a distro listing. -/
def nameWidth : Nat := 22

/-- A text filled up with spaces. -/
def padRight (width : Nat) (s : String) : String :=
  s ++ String.ofList (List.replicate (width - s.length) ' ')

/-- A row of a distro listing. -/
def distroRow (isDefault : Bool) (name : String) : String :=
  (if isDefault then "* " else "  ") ++ padRight nameWidth name ++ " Running         2\r\n"

/-- The rows of a distro listing; the first distro is the default. -/
def distroRows : List String → List String
  | [] => []
  | name :: rest => distroRow true name :: rest.map (distroRow false)

/-- A listing as `wsl.exe --list --verbose` writes it. -/
def distroListing (names : List String) : String :=
  "  NAME                   STATE           VERSION\r\n" ++ String.join (distroRows names)

/-! ### Healthy hosts -/

/-- The user and group of the healthy hosts. -/
def userId : String := "1000"

/-- The distro of the healthy Windows host. -/
def distro : String := "Ubuntu"

/-- The state directory of the distro's user. -/
def stateBase : String := "/home/dev/.local/state"

/-- The unit that mounts the store of that user. -/
def unitName : String := "home-dev-\\x2elocal-state-sqlrs-store.mount"

/-- Answers the questions for the user and the group. -/
def withUser (s : State) : State :=
  (s.on "id" ["-u"] [.output userId]).on "id" ["-g"] [.output userId]

/-- A Linux host, seen as root, with every tool. -/
def linuxHost (s : State) : State := withUser { s with isRoot := true }

/-- A Windows host with an elevated session, a running container runtime, and
a distro that runs systemd and has btrfs and its tools. Disks, filesystems and
mounts are left open. -/
def windowsHost (s : State) : State :=
  let s := s.on "wsl.exe" ["--list", "--verbose"] [.output (distroListing [distro])]
  let s := s.on "cat" ["/proc/filesystems"] [.output "nodev\tsysfs\n\text4\n\tbtrfs\n"]
  let s := s.on "which" ["mkfs.btrfs"] [.output "/usr/sbin/mkfs.btrfs\n"]
  let s := s.on "which" ["nsenter"] [.output "/usr/bin/nsenter\n"]
  let s := s.on "sh" ["is-system-running"] [.output "running\n"]
  let s := s.on "sh" ["XDG_STATE_HOME"] [.output stateBase]
  let s := s.on "powershell.exe" ["com.docker.service"] [.output "Running\r\n"]
  let s := s.on "powershell.exe" ["IsInRole"] [.output "True\r\n"]
  let s := s.on "systemd-escape" ["--path"] [.output (unitName ++ "\n")]
  let s := s.on "systemctl" ["is-active"] [.failure 3 "inactive"]
  withUser s

end BtrfsStore.Rehearsal
