import BtrfsStore.Action
import BtrfsStore.Text.Blank
/-!
# BtrfsStore.VirtualDisk

The virtual disk that holds a store on Windows: creating, partitioning,
attaching and removing it. The work is done by PowerShell and `wsl.exe` on
the host, and needs an elevated session.
-/

namespace BtrfsStore.VirtualDisk

/-! ### PowerShell -/

/-- The program that runs scripts. -/
def powershellProgram : String := "powershell.exe"

/-- The arguments that have a script run. -/
def powershellArgs (script : String) : List String :=
  ["-NoProfile", "-NonInteractive", "-Command", script]

/-- Runs a script. -/
def powershell (target : Target) (description script : String) : Attempt String :=
  target.run description powershellProgram (powershellArgs script)

/-- A path as a literal of a script: between single quotes, each single quote
inside written twice. -/
def literal (path : Path) : String :=
  "'" ++ Text.replaceChar '\x27' ['\x27', '\x27'] path.text ++ "'"

/-- What every script starts with: stop at the first failure. -/
def stopOnFailure : String := "$ErrorActionPreference = 'Stop'"

/-! ### Scripts -/

/-- Creates a disk file that grows up to a size. -/
def createScript (path : Path) (bytes : Nat) : String :=
  stopOnFailure ++ "; New-VHD -Path " ++ literal path ++ " -SizeBytes " ++ toString bytes
    ++ " -Dynamic | Out-Null"

/-- Gives a disk a partition table and one partition over its whole size,
unless it has them. The disk is attached to the host meanwhile, and detached
again only if it was not attached before. -/
def partitionScript (path : Path) : String :=
  Text.joinWith "\n"
    [stopOnFailure,
      "$path = " ++ literal path,
      "$wasAttached = (Get-VHD -Path $path).Attached",
      "if (-not $wasAttached) \x7b Mount-VHD -Path $path -NoDriveLetter \x7d",
      "try \x7b",
      "  $disk = Get-VHD -Path $path | Get-Disk",
      "  if ($disk.PartitionStyle -eq 'RAW') \x7b Initialize-Disk -Number $disk.Number "
        ++ "-PartitionStyle GPT \x7d",
      "  $parts = @(Get-Partition -DiskNumber $disk.Number -ErrorAction SilentlyContinue "
        ++ "| Where-Object \x7b $_.Type -ne 'Reserved' \x7d)",
      "  if ($parts.Count -eq 0) \x7b New-Partition -DiskNumber $disk.Number "
        ++ "-UseMaximumSize -AssignDriveLetter:$false | Out-Null \x7d",
      "\x7d finally \x7b",
      "  if (-not $wasAttached) \x7b Dismount-VHD -Path $path \x7d",
      "\x7d"]

/-- Detaches a disk from the host. -/
def dismountScript (path : Path) : String :=
  stopOnFailure ++ "; Dismount-VHD -Path " ++ literal path

/-- Tells whether the session is elevated. -/
def elevationScript : String :=
  "([Security.Principal.WindowsPrincipal][Security.Principal.WindowsIdentity]::GetCurrent())"
    ++ ".IsInRole([Security.Principal.WindowsBuiltInRole]::Administrator)"

/-! ### Operations -/

/-- Creates the disk file unless it exists; whether it was created. -/
def ensureFile (target : Target) (path : Path) (bytes : Nat) : Attempt Bool := do
  if ← Action.pathExists path then
    return false
  match path.parent with
  | some dir => Attempt.makeDirectories dir
  | none => pure ()
  discard <| powershell target "create virtual disk" (createScript path bytes)
  return true

/-- Gives the disk a partition. -/
def ensurePartition (target : Target) (path : Path) : Attempt Unit :=
  discard <| (powershell target "partition virtual disk" (partitionScript path)).mapFailure fun f =>
    if FailureKind.ofFailure f = .deviceBusy then .diskInUse path.text else f

/-- Attaches the disk to WSL without mounting it. A disk that is attached
already is fine. -/
def attach (target : Target) (path : Path) : Attempt Unit := do
  let attached := target.runWithin Limit.quick "attach virtual disk to WSL" wslProgram
    ["--mount", "--vhd", path.text, "--bare"]
  match ← attached.observe with
  | .ok _ => pure ()
  | .error f => if FailureKind.ofFailure f = .alreadyAttached then pure () else throw f

/-- Detaches the disk from WSL. -/
def detach (target : Target) (path : Path) : Attempt Unit :=
  discard <| target.runWithin Limit.quick "detach virtual disk from WSL" wslProgram
    ["--unmount", path.text]

/-- Detaches the disk from the host. -/
def dismount (target : Target) (path : Path) : Attempt Unit :=
  discard <| powershell target "dismount virtual disk" (dismountScript path)

/-- Deletes the disk file; a file that is missing is fine. -/
def delete (path : Path) : Attempt Unit := do
  match ← ExceptT.lift (Action.query (.removeFile path)) with
  | .ok () | .error .notFound => pure ()
  | .error fault => throw (.io fault)

/-- Whether the session is elevated. -/
def isElevated (target : Target) : Attempt Bool := do
  let output ← target.runWithin Limit.quick "check Administrator privileges" powershellProgram
    (powershellArgs elevationScript)
  pure (Text.sameAscii (Text.trim output) "true")

end BtrfsStore.VirtualDisk
