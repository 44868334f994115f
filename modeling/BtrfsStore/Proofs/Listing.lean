import Mathlib.Control.Monad.Basic
import BtrfsStore.BlockDevice
import BtrfsStore.Proofs.Text
/-!
# BtrfsStore.Proofs.Listing

Listings of block devices as they are drawn, and how they are read back.

A listing draws the devices as a tree in front of their names. A device that is
part of another one and has a later sibling leaves a rail `│` in every row below it,
and the blank behind a rail makes it a word of its own. The reader drops one such
word; a row with two rails is refused, and the whole listing with it. `ofRow_line` and
`ofRow_line_of_railedTwice` say so of a row, and `ofRows_lines` of all rows.
-/

namespace BtrfsStore

open Text (Word gap)

/-! ### Trees of devices -/

/-- A device as a listing shows it. -/
structure ListedDevice where
  name : Word
  sizeBytes : Nat
  kind : Word
  /-- The name does not begin like a drawn tree. -/
  name_plain : ∀ c ∈ name.chars.head?, BlockDevice.isTreeGlyph c = false
  size_lt : sizeBytes < Text.word64

/-- Devices beside each other, with the devices that are parts of them. -/
inductive DeviceForest
  | nil
  | cons (device : ListedDevice) (parts siblings : DeviceForest)

/-- The entry that the device stands for. -/
def ListedDevice.entry (device : ListedDevice) (parent : Option Word) : BlockDevice where
  name := device.name.text
  sizeBytes := device.sizeBytes
  kind := DeviceKind.ofColumn device.kind.text
  parent := parent.map Word.text

namespace DeviceForest

/-- The devices, each before its parts, and these before its later siblings. -/
def devices (parent : Option Word) : DeviceForest → List BlockDevice
  | nil => []
  | cons device parts siblings =>
    device.entry parent :: (parts.devices (some device.name) ++ siblings.devices parent)

/-- The devices that are no parts of others. -/
def roots : DeviceForest → List ListedDevice
  | nil => []
  | cons device _ siblings => device :: siblings.roots

def isEmpty : DeviceForest → Bool
  | nil => true
  | cons .. => false

end DeviceForest

/-! ### Drawing -/

/-- Where a device hangs. -/
inductive Branch
  /-- It is no part of another device. -/
  | top
  /-- It is a part of the device `parent`; `rails` says of the devices on the way
  down, from below the root to `parent`, which have a later sibling. -/
  | under (parent : Word) (rails : List Bool)

namespace Branch

/-- Where the parts of a device hang that hangs here itself. -/
def below (branch : Branch) (device : ListedDevice) (hasLater : Bool) : Branch :=
  match branch with
  | top => under device.name []
  | under _ rails => under device.name (rails ++ [hasLater])

def parent : Branch → Option Word
  | top => none
  | under parent _ => some parent

def rails : Branch → List Bool
  | top => []
  | under _ rails => rails

end Branch

/-- A row of a listing: a device, where it hangs and whether it has a later
sibling. -/
structure ListedRow where
  device : ListedDevice
  branch : Branch
  hasLater : Bool

/-- The rows of a forest that hangs at `branch`. -/
def DeviceForest.rows (branch : Branch) : DeviceForest → List ListedRow
  | nil => []
  | cons device parts siblings =>
    ⟨device, branch, !siblings.isEmpty⟩
      :: (parts.rows (branch.below device !siblings.isEmpty) ++ siblings.rows branch)

/-- The blanks of a row beyond the one between two columns. -/
structure Gaps where
  beforeSize : Nat
  beforeKind : Nat
  afterKind : Nat

namespace ListedRow

/-- What a device above the row leaves in it. -/
def rail (hasLater : Bool) : List Char := if hasLater then ['│', ' '] else [' ', ' ']

/-- What joins a row to the one that it hangs below. -/
def joint (row : ListedRow) : List Char :=
  match row.branch with
  | .top => []
  | .under .. => if row.hasLater then ['├', '─'] else ['└', '─']

/-- The parent column with the blank before it; of a root it is left blank. -/
def parentCell (row : ListedRow) : List Char :=
  match row.branch.parent with
  | none => []
  | some parent => ' ' :: parent.chars

/-- The text of a row. -/
def line (gaps : Gaps) (row : ListedRow) : List Char :=
  row.branch.rails.flatMap rail ++ row.joint ++ row.device.name.chars
    ++ gap (gaps.beforeSize + 1) ++ (Word.ofNat row.device.sizeBytes).chars
    ++ gap (gaps.beforeKind + 1) ++ row.device.kind.chars ++ gap gaps.afterKind ++ row.parentCell

def entry (row : ListedRow) : BlockDevice := row.device.entry row.branch.parent

/-- Two devices above the row leave a rail in it. -/
def railedTwice (row : ListedRow) : Bool := 2 ≤ row.branch.rails.count true

end ListedRow

/-- A drawn listing. -/
structure DeviceListing where
  header : List Char
  header_line : '\n' ∉ header ∧ '\r' ∉ header
  forest : DeviceForest
  forest_ne_nil : forest ≠ .nil
  /-- A partition is a part of another device. -/
  roots_whole : ∀ device ∈ forest.roots, device.kind.text ≠ "part"
  /-- How the columns are aligned. -/
  gaps : ListedRow → Gaps

namespace DeviceListing

def rows (listing : DeviceListing) : List ListedRow := listing.forest.rows .top

def line (listing : DeviceListing) (row : ListedRow) : List Char := row.line (listing.gaps row)

/-- The text of a listing. -/
def text (listing : DeviceListing) : String :=
  String.ofList
    (listing.header ++ '\n' :: listing.rows.flatMap fun row => listing.line row ++ ['\n'])

end DeviceListing

/-! ### Rows and devices -/

namespace DeviceForest

@[simp] theorem parent_below (branch : Branch) (device : ListedDevice) (hasLater : Bool) :
    (branch.below device hasLater).parent = some device.name := by
  cases branch <;> rfl

/-- The rows are those of the devices, in their order. -/
theorem map_entry_rows (forest : DeviceForest) (branch : Branch) :
    (forest.rows branch).map ListedRow.entry = forest.devices branch.parent := by
  induction forest generalizing branch with
  | nil => rfl
  | cons device parts siblings ihParts ihSiblings =>
    simp [rows, devices, ListedRow.entry, ihParts, ihSiblings]

/-- A row at the top is that of a root. -/
theorem mem_roots_of_mem_rows {forest : DeviceForest} {branch : Branch} {row : ListedRow}
    (hrow : row ∈ forest.rows branch) (htop : row.branch.parent = none) :
    branch.parent = none ∧ row.device ∈ forest.roots := by
  induction forest generalizing branch with
  | nil => cases hrow
  | cons device parts siblings ihParts ihSiblings =>
    rw [rows, List.mem_cons, List.mem_append] at hrow
    rcases hrow with rfl | hparts | hsiblings
    · exact ⟨htop, List.mem_cons_self⟩
    · obtain ⟨hbelow, -⟩ := ihParts hparts
      simp at hbelow
    · obtain ⟨hbranch, hroot⟩ := ihSiblings hsiblings
      exact ⟨hbranch, List.mem_cons_of_mem device hroot⟩

end DeviceForest

/-! ### Reading a row -/

namespace ListedRow

open BlockDevice Text

variable (row : ListedRow) (gaps : Gaps)

/-- The name as it is drawn, joined to the row above. -/
def drawnName : Word where
  chars := row.joint ++ row.device.name.chars
  isWord := by
    refine Text.isWord_iff.mpr ⟨by simp [row.device.name.ne_nil], fun c hc => ?_⟩
    rcases List.mem_append.mp hc with hjoint | hname
    · have hglyph : c = '├' ∨ c = '└' ∨ c = '─' := by
        unfold joint at hjoint
        grind
      rcases hglyph with rfl | rfl | rfl <;> rfl
    · exact row.device.name.not_blank c hname

@[simp] theorem chars_drawnName :
    row.drawnName.chars = row.joint ++ row.device.name.chars := rfl

/-- The columns after the name. -/
def columns : List (List Char) :=
  (Word.ofNat row.device.sizeBytes).chars :: row.device.kind.chars
    :: (row.branch.parent.map Word.chars).toList

theorem wordsOf_rails_append (rails : List Bool) (rest : List Char) :
    wordsOf (rails.flatMap rail ++ rest)
      = List.replicate (rails.count true) ['│'] ++ wordsOf rest := by
  induction rails with
  | nil => rfl
  | cons hasLater rails ih =>
    rw [List.flatMap_cons, List.append_assoc]
    cases hasLater with
    | false =>
      rw [rail, if_neg (by simp), wordsOf_blanks_append (by simp [isBlank]), ih]
      simp
    | true =>
      have hrail : wordsOf ('│' :: ' ' :: (rails.flatMap rail ++ rest))
          = ['│'] :: wordsOf (' ' :: (rails.flatMap rail ++ rest)) :=
        @wordsOf_append ['│'] _ rfl (by simp [isBlank])
      rw [rail, if_pos rfl, List.cons_append, List.cons_append, List.nil_append, hrail,
        wordsOf_blank_cons (by rfl), ih]
      simp [List.replicate_succ]

/-- The words of a row: its rails, the drawn name and the columns. -/
theorem wordsOf_line :
    wordsOf (row.line gaps) = List.replicate (row.branch.rails.count true) ['│']
      ++ row.drawnName.chars :: row.columns := by
  have hname : row.joint ++ row.device.name.chars = row.drawnName.chars := rfl
  have hlast : wordsOf (row.device.kind.chars ++ (gap gaps.afterKind ++ row.parentCell))
      = row.device.kind.chars :: (row.branch.parent.map Word.chars).toList := by
    rw [parentCell]
    cases row.branch.parent with
    | none => simp [Word.wordsOf_last]
    | some parent =>
      have hgap : gap gaps.afterKind ++ ' ' :: parent.chars
          = gap (gaps.afterKind + 1) ++ (parent.chars ++ gap 0) := by
        simp [gap, List.replicate_succ']
      simp only [hgap, Word.wordsOf_append_gap, Word.wordsOf_last]
      rfl
  simp only [line, List.append_assoc]
  rw [wordsOf_rails_append, ← List.append_assoc row.joint, hname, Word.wordsOf_append_gap,
    Word.wordsOf_append_gap, hlast]
  rfl

/-- Without the tree in front of it a drawn name is the name again. -/
theorem stripTree_drawnName :
    stripTree row.drawnName.chars = (row.device.name.chars, row.branch.parent.isSome) := by
  have hjoint : ∀ c ∈ row.joint, isTreeGlyph c = true := by
    unfold joint
    intro c hc
    grind [isTreeGlyph]
  have hname : row.device.name.chars.dropWhile isTreeGlyph = row.device.name.chars := by
    cases hchars : row.device.name.chars with
    | nil => rfl
    | cons c cs =>
      have hplain : isTreeGlyph c = false := row.device.name_plain c (by simp [hchars])
      rw [List.dropWhile_cons_of_neg (by simp [hplain])]
  have hdrop : row.drawnName.chars.dropWhile isTreeGlyph = row.device.name.chars := by
    rw [chars_drawnName, List.dropWhile_append_of_pos hjoint, hname]
  have hbelow : row.joint.length = if row.branch.parent.isSome then 2 else 0 := by
    rw [joint]
    cases row.branch with
    | top => rfl
    | under parent rails => cases row.hasLater <;> rfl
  rw [stripTree, hdrop, chars_drawnName, List.length_append, hbelow]
  cases row.branch.parent <;> simp

theorem stripTree_rail : stripTree ['│'] = ([], true) := rfl

/-- At most one rail is drawn in front of a name that is found. -/
theorem splitRow_line {row : ListedRow} (hrails : row.railedTwice = false) :
    splitRow (wordsOf (row.line gaps))
      = (row.device.name.chars, row.columns, row.branch.parent.isSome) := by
  rw [wordsOf_line]
  cases hcount : row.branch.rails.count true with
  | zero =>
    simp only [List.replicate_zero, List.nil_append, columns, splitRow, stripTree_drawnName]
    simp [row.device.name.ne_nil]
  | succ n =>
    obtain rfl : n = 0 := by
      simp only [railedTwice, decide_eq_false_iff_not] at hrails
      omega
    -- There are no rails at the top.
    have hbelow : row.branch.parent.isSome = true := by
      cases hbranch : row.branch with
      | top => simp [hbranch, Branch.rails] at hcount
      | under parent rails => rfl
    simp only [List.replicate_succ, List.replicate_zero, List.cons_append, List.nil_append,
      splitRow, stripTree_rail, List.isEmpty_nil, if_true, stripTree_drawnName, hbelow]

theorem ofColumn_eq_part {text : String} : DeviceKind.ofColumn text = .part ↔ text = "part" := by
  rw [DeviceKind.ofColumn]
  split
  next hdisk => simp [hdisk]
  next => split <;> simp [*]

/-- A row is read as its device, unless two rails are drawn in it. -/
theorem ofRow_line {row : ListedRow} (hrails : row.railedTwice = false)
    (hroot : row.branch.parent = none → row.device.kind.text ≠ "part")
    (lastDisk : Option String) : ofRow lastDisk (row.line gaps) = .ok row.entry := by
  have hsize := readNat_ofNat row.device.size_lt
  have hname : row.device.name.chars.isEmpty = false := by simp [row.device.name.ne_nil]
  rw [Word.text] at hsize
  rw [ofRow, splitRow_line gaps hrails]
  simp only [columns, hname, hsize]
  cases hparent : row.branch.parent with
  | some parent => simp [entry, ListedDevice.entry, hparent, Word.text]
  | none =>
    -- Without a parent column only a partition would take the disk above it.
    have hkind : DeviceKind.ofColumn (String.ofList row.device.kind.chars) ≠ .part :=
      fun hpart => hroot hparent (ofColumn_eq_part.mp hpart)
    simp [entry, ListedDevice.entry, hparent, Word.text, hkind]

/-- A row with two rails is refused: behind the dropped one there is no name. -/
theorem ofRow_line_of_railedTwice {row : ListedRow} (hrails : row.railedTwice = true)
    (lastDisk : Option String) :
    ofRow lastDisk (row.line gaps) = .error (ofRow.malformed (row.line gaps)) := by
  obtain ⟨n, hcount⟩ : ∃ n, row.branch.rails.count true = n + 2 :=
    Nat.exists_eq_add_of_le' (by simpa [railedTwice] using hrails)
  have hsplit : splitRow (wordsOf (row.line gaps))
      = ([], List.replicate n ['│'] ++ row.drawnName.chars :: row.columns, true) := by
    rw [wordsOf_line, hcount]
    simp [List.replicate_succ, splitRow, stripTree_rail]
  rw [ofRow, hsplit]
  simp only [List.isEmpty_nil, if_true]
  split <;> rfl

/-- There is more in a row than blanks. -/
theorem line_not_blank : (row.line gaps).all isBlank = false := by
  obtain ⟨c, hc⟩ := List.exists_mem_of_ne_nil _ row.device.name.ne_nil
  have hmem : c ∈ row.line gaps := by simp [line, hc]
  simpa using ⟨c, hmem, row.device.name.not_blank c hc⟩

/-- A row is a single line. -/
theorem notMem_line {c : Char} (hblank : isBlank c = true) (hne : c ≠ ' ') :
    c ∉ row.line gaps := by
  have hword : ∀ w : Word, c ∉ w.chars := fun w hc => by simp [w.not_blank c hc] at hblank
  have hgap : ∀ n, c ∉ gap n := fun n hc => hne (List.mem_replicate.mp hc).2
  have hrail : ∀ hasLater, c ∉ rail hasLater := by
    intro hasLater hc
    have hglyph : c = '│' ∨ c = ' ' := by
      cases hasLater <;> simp [rail] at hc <;> simp [hc]
    rcases hglyph with rfl | rfl
    · cases hblank
    · exact hne rfl
  have hjoined : c ∉ row.joint ++ row.device.name.chars := hword row.drawnName
  have hparent : c ∉ row.parentCell := by
    rw [parentCell]
    cases row.branch.parent with
    | none => simp
    | some parent => simp [hne, hword parent]
  simp only [line, List.append_assoc]
  simp only [List.mem_append, List.mem_flatMap] at hjoined ⊢
  grind

end ListedRow

/-! ### Reading a listing -/

namespace BlockDevice

/-- The rows are read one after the other, up to the first with two rails. -/
theorem ofRows_lines (gaps : ListedRow → Gaps) {rows : List ListedRow}
    (hroots : ∀ row ∈ rows, row.branch.parent = none → row.device.kind.text ≠ "part")
    (lastDisk : Option String) :
    ofRows lastDisk (rows.map fun row => row.line (gaps row))
      = match rows.find? ListedRow.railedTwice with
        | none => .ok (rows.map ListedRow.entry)
        | some row => .error (ofRow.malformed (row.line (gaps row))) := by
  induction rows generalizing lastDisk with
  | nil => rfl
  | cons row rows ih =>
    have hmore := ih (fun other hother => hroots other (List.mem_cons_of_mem row hother))
    rw [List.map_cons, ofRows, if_neg (by simp [row.line_not_blank])]
    cases hrails : row.railedTwice with
    | true =>
      rw [ListedRow.ofRow_line_of_railedTwice _ hrails, List.find?_cons_of_pos hrails]
    | false =>
      rw [ListedRow.ofRow_line _ hrails (hroots row List.mem_cons_self),
        List.find?_cons_of_neg (by simp [hrails])]
      simp only [hmore]
      cases rows.find? ListedRow.railedTwice <;> rfl

end BlockDevice

namespace DeviceListing

variable (listing : DeviceListing)

theorem unbroken_lines :
    ∀ line ∈ listing.header :: listing.rows.map listing.line, Text.Unbroken line := by
  refine List.forall_mem_cons.mpr ⟨listing.header_line, List.forall_mem_map.mpr fun row _ => ?_⟩
  exact ⟨row.notMem_line _ rfl (by decide), row.notMem_line _ rfl (by decide)⟩

theorem linesOf_text :
    Text.linesOf listing.text.toList = listing.header :: listing.rows.map listing.line := by
  have htext : listing.text.toList
      = (listing.header :: listing.rows.map listing.line).flatMap (· ++ ['\n']) := by
    simp [text, List.flatMap_map]
  rw [htext, Text.linesOf_flatMap listing.unbroken_lines]

theorem map_entry_rows : listing.rows.map ListedRow.entry = listing.forest.devices none :=
  listing.forest.map_entry_rows .top

theorem devices_ne_nil : listing.forest.devices none ≠ [] := by
  cases hforest : listing.forest with
  | nil => exact absurd hforest listing.forest_ne_nil
  | cons device parts siblings => simp [DeviceForest.devices]

/-- **A drawn listing is read as its devices**, in their order and each with its name,
size, kind and parent, unless two rails are drawn in a row. Then the first such row
is refused, and with it the listing. -/
theorem listing_read_unless_railed_twice :
    BlockDevice.ofListing listing.text
      = match listing.rows.find? ListedRow.railedTwice with
        | none => .ok (listing.forest.devices none)
        | some row => .error (BlockDevice.ofRow.malformed (listing.line row)) := by
  have hroots : ∀ row ∈ listing.rows,
      row.branch.parent = none → row.device.kind.text ≠ "part" := by
    intro row hrow htop
    obtain ⟨-, hroot⟩ := DeviceForest.mem_roots_of_mem_rows hrow htop
    exact listing.roots_whole row.device hroot
  have hrows : BlockDevice.ofRows none (listing.rows.map listing.line) = _ :=
    BlockDevice.ofRows_lines listing.gaps hroots none
  rw [BlockDevice.ofListing, listing.linesOf_text, List.drop_one, List.tail_cons, hrows,
    map_entry_rows]
  cases listing.rows.find? ListedRow.railedTwice with
  | some row => rfl
  | none =>
    split
    next hnone => exact absurd (Except.ok.inj hnone) listing.devices_ne_nil
    next => rfl

end DeviceListing

/-! ### A listing that is refused -/

/-- Whether the columns of a device can be told apart in a listing. -/
def isDrawable (name : List Char) (sizeBytes : Nat) (kind : List Char) : Bool :=
  Text.isWord name && name.head?.all (!BlockDevice.isTreeGlyph ·) && Text.isWord kind
    && decide (sizeBytes < Text.word64)

/-- The device with the given columns. -/
def ListedDevice.of (name : String) (sizeBytes : Nat) (kind : String)
    (h : isDrawable name.toList sizeBytes kind.toList = true) : ListedDevice :=
  have hfits : ((Text.isWord name.toList = true
      ∧ ∀ c ∈ name.toList.head?, BlockDevice.isTreeGlyph c = false)
      ∧ Text.isWord kind.toList = true) ∧ sizeBytes < Text.word64 := by
    simpa [isDrawable, Option.all_eq_true] using h
  { name := ⟨name.toList, hfits.1.1.1⟩
    sizeBytes
    kind := ⟨kind.toList, hfits.1.2⟩
    name_plain := hfits.1.1.2
    size_lt := hfits.2 }

/-- The blanks that align the columns: names and kinds at the left, sizes at the
right. The blank before an empty last column stays. -/
def Gaps.aligned (nameWidth sizeWidth kindWidth : Nat) (row : ListedRow) : Gaps where
  beforeSize := nameWidth - (2 * row.branch.rails.length + row.drawnName.chars.length)
    + (sizeWidth - (Word.ofNat row.device.sizeBytes).chars.length)
  beforeKind := 0
  afterKind := kindWidth - row.device.kind.chars.length
    + if row.branch.parent.isNone then 1 else 0

namespace DeviceListing

/-- A disk with two partitions. The first one holds two volumes, and the first of
these an encrypted one:
```text
NAME              SIZE TYPE  PKNAME
sda        21474836480 disk
├─sda1     10737418240 part  sda
│ ├─vg-a    5368709120 lvm   sda1
│ │ └─luks  5352030208 crypt vg-a
│ └─vg-b    5368709120 lvm   sda1
└─sda2     10736369664 part  sda
```
-/
def encryptedVolume : DeviceListing where
  header := "NAME              SIZE TYPE  PKNAME".toList
  header_line := by decide +kernel
  forest :=
    let disk : ListedDevice := .of "sda" 21474836480 "disk" (by decide +kernel)
    let first : ListedDevice := .of "sda1" 10737418240 "part" (by decide +kernel)
    let volume : ListedDevice := .of "vg-a" 5368709120 "lvm" (by decide +kernel)
    let encrypted : ListedDevice := .of "luks" 5352030208 "crypt" (by decide +kernel)
    let other : ListedDevice := .of "vg-b" 5368709120 "lvm" (by decide +kernel)
    let second : ListedDevice := .of "sda2" 10736369664 "part" (by decide +kernel)
    .cons disk
      (.cons first
        (.cons volume (.cons encrypted .nil .nil) (.cons other .nil .nil))
        (.cons second .nil .nil))
      .nil
  forest_ne_nil := by simp
  roots_whole := by decide +kernel
  gaps := Gaps.aligned 10 11 5

/-- The row of the encrypted volume has two rails, so that none of the devices is
found. -/
theorem encryptedVolume_refused :
    BlockDevice.ofListing encryptedVolume.text
      = .error (.inventory "malformed line: \"│ │ └─luks  5352030208 crypt vg-a\"") := by
  have hrows : BlockDevice.ofRows none (encryptedVolume.rows.map encryptedVolume.line)
      = .error (.inventory "malformed line: \"│ │ └─luks  5352030208 crypt vg-a\"") := by
    decide +kernel
  rw [BlockDevice.ofListing, linesOf_text, List.drop_one, List.tail_cons, hrows]

end DeviceListing

end BtrfsStore
