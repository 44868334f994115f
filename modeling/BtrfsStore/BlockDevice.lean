import BtrfsStore.Failure
import BtrfsStore.Request
import BtrfsStore.Text.Decimal
import BtrfsStore.Text.Lines
import BtrfsStore.Text.Quoted
/-!
# BtrfsStore.BlockDevice

The block devices of a machine, as `lsblk` lists them: reading a listing, and
finding the disk of a store and its partition.

A disk is recognised by its size alone, within a tolerance. Two disks of the
same size cannot be told apart, so that case is reported and not guessed.
-/

namespace BtrfsStore

/-! ### Devices -/

/-- What a device is, by the type column of the listing. -/
inductive DeviceKind where
  | disk
  | part
  /-- Any other type, by its name. -/
  | other (name : String)
  deriving Repr, DecidableEq

/-- The kind for a text in the type column. -/
def DeviceKind.ofColumn (text : String) : DeviceKind :=
  if text = "disk" then .disk else if text = "part" then .part else .other text

/-- One row of a listing. -/
structure BlockDevice where
  name : String
  sizeBytes : Nat
  kind : DeviceKind
  /-- The name of the device that this one is a part of. -/
  parent : Option String := none
  deriving Repr, DecidableEq

namespace BlockDevice

def isDisk (d : BlockDevice) : Bool := d.kind = .disk

def isPartition (d : BlockDevice) : Bool := d.kind = .part

/-- The path of the device node. -/
def path (d : BlockDevice) : String := "/dev/" ++ d.name

/-! ### Reading a listing -/

/-- The characters with which a listing draws its tree. -/
def isTreeGlyph (c : Char) : Bool :=
  c == '├' || c == '└' || c == '─' || c == '│' || c == '\x60' || c == '|' || c == '-' || c == ' '

/-- A column without the tree drawn in front of it, and whether there was
one. -/
def stripTree (column : List Char) : List Char × Bool :=
  let name := column.dropWhile isTreeGlyph
  (name, name.length != column.length)

/-- The name column and the columns after it, and whether the row is drawn
below another one. A first column that holds nothing but the tree is dropped
if another column follows. -/
def splitRow : List (List Char) → List Char × List (List Char) × Bool
  | [] => ([], [], false)
  | [c] => ((stripTree c).1, [], (stripTree c).2)
  | c :: d :: rest =>
    if (stripTree c).1.isEmpty then ((stripTree d).1, rest, true)
    else ((stripTree c).1, d :: rest, (stripTree c).2)

/-- Reads one row that is not blank; `lastDisk` is the name of the nearest
disk above it. Without a parent column, a row that is drawn below another one
or is a partition belongs to that disk. -/
def ofRow (lastDisk : Option String) (line : List Char) : Except Failure BlockDevice :=
  let (name, columns, nested) := splitRow (Text.wordsOf line)
  match columns with
  | size :: kind :: rest =>
    if name.isEmpty then .error (malformed line)
    else
      match Text.readNat Text.word64 (String.ofList size) with
      | .error fault =>
        .error (.inventory ("invalid size " ++ Text.quoted (String.ofList size) ++ " for "
          ++ String.ofList name ++ ": " ++ fault.message))
      | .ok sizeBytes =>
        let kind := DeviceKind.ofColumn (String.ofList kind)
        let parent := match rest with
          | parent :: _ => some (String.ofList parent)
          | [] => if nested || kind = .part then lastDisk else none
        .ok { name := String.ofList name, sizeBytes, kind, parent }
  | _ => .error (malformed line)
where
  malformed (line : List Char) : Failure :=
    .inventory ("malformed line: " ++ Text.quoted (String.ofList line))

/-- Reads the rows below the header; `lastDisk` is the name of the nearest
disk so far. -/
def ofRows (lastDisk : Option String) : List (List Char) → Except Failure (List BlockDevice)
  | [] => .ok []
  | line :: rest =>
    if line.all Text.isBlank then ofRows lastDisk rest
    else
      match ofRow lastDisk line with
      | .error f => .error f
      | .ok device =>
        (ofRows (if device.isDisk then some device.name else lastDisk) rest).map (device :: ·)

/-- Reads the output of `lsblk -b -o NAME,SIZE,TYPE,PKNAME`, whose first line
is a header. A listing without any device is a failure. -/
def ofListing (text : String) : Except Failure (List BlockDevice) :=
  match ofRows none ((Text.linesOf text.toList).drop 1) with
  | .ok [] => .error (.inventory "no block devices listed")
  | answer => answer

/-! ### Finding the disk of a store -/

/-- The least tolerance, in bytes. -/
def minTolerance : Nat := 100 * mebibyte

/-- How far the size of a disk may be from the wanted size: one percent, but
at least 100 MiB. -/
def sizeTolerance (target : Nat) : Nat := max minTolerance (target / 100)

/-- How far two sizes are from each other. -/
def sizeDistance (a b : Nat) : Nat := (a - b) + (b - a)

/-- Whether the device is a disk of the wanted size. -/
def isStoreDisk (target : Nat) (d : BlockDevice) : Bool :=
  d.isDisk && sizeDistance d.sizeBytes target ≤ sizeTolerance target

/-- The single disk of the wanted size, if there is one. -/
def selectDisk (devices : List BlockDevice) (target : Nat) : Except Failure (Option BlockDevice) :=
  match devices.filter (isStoreDisk target) with
  | [] => .ok none
  | [d] => .ok (some d)
  | many => .error (.ambiguousDisk target (many.map (·.name)))

/-- The larger of two devices, the second if they have the same size. -/
def larger (best : Option BlockDevice) (d : BlockDevice) : Option BlockDevice :=
  match best with
  | some b => if d.sizeBytes < b.sizeBytes then some b else some d
  | none => some d

/-- The largest partition of a disk; of several, the last. -/
def selectPartition (devices : List BlockDevice) (disk : String) : Except Failure BlockDevice :=
  match (devices.filter fun d => d.isPartition && d.parent == some disk).foldl larger none with
  | some d => .ok d
  | none => .error (.partitionNotFound disk)

end BlockDevice

end BtrfsStore
