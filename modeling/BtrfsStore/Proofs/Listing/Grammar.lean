import Mathlib.Data.List.TakeWhile
import BtrfsStore.BlockDevice
import BtrfsStore.Proofs.Text
/-!
# BtrfsStore.Proofs.Listing.Grammar

Which texts are listings of block devices, and what they list.

The grammar stands apart from the reader. A row falls into words (`SplitsInto`), the
words are the columns of a device behind a drawn tree (`ColumnsOf`), and the size column
denotes a number (`Denotes`). The reader passes on the disk that it saw last from row to
row; the grammar looks back at the devices listed above instead (`nearestDisk`).
`ofRow_eq_ok_iff` compares the two on a row, `ofRows_eq_ok_iff` on all of them.
-/

namespace BtrfsStore.BlockDevice

open Text (Denotes SplitsInto isBlank linesOf readNat word64 wordsOf)

/-! ### The grammar -/

/-- The column is a name with a drawn tree in front of it. -/
structure Draws (column glyphs name : List Char) : Prop where
  eq_append : column = glyphs ++ name
  glyph : ∀ c ∈ glyphs, isTreeGlyph c = true
  plain : ∀ c ∈ name.head?, isTreeGlyph c = false

/-- What the columns of a row hold. -/
structure Columns where
  name : List Char
  size : List Char
  kind : List Char
  /-- The columns after these. The first one of them is the parent. -/
  more : List (List Char)
  /-- A tree is drawn in front of the name. -/
  indented : Bool

/-- The words of a row are the columns of a device. -/
inductive ColumnsOf : List (List Char) → Columns → Prop
  | joined {column glyphs name size kind : List Char} {more : List (List Char)}
      (hdraws : Draws column glyphs name) (hname : name ≠ []) :
      ColumnsOf (column :: size :: kind :: more) ⟨name, size, kind, more, !glyphs.isEmpty⟩
  /-- The first word is nothing but tree, and the name comes after it. -/
  | apart {tree column glyphs name size kind : List Char} {more : List (List Char)}
      (htree : ∀ c ∈ tree, isTreeGlyph c = true) (hdraws : Draws column glyphs name)
      (hname : name ≠ []) :
      ColumnsOf (tree :: column :: size :: kind :: more) ⟨name, size, kind, more, true⟩

/-- The name of the last disk among the devices. -/
def nearestDisk (above : List BlockDevice) : Option String :=
  (above.reverse.find? (·.isDisk)).map (·.name)

/-- The parent in the columns. If there is none, an indented device and a partition
belong to the disk above. -/
def Columns.parent (columns : Columns) (kind : DeviceKind) (above : List BlockDevice) :
    Option String :=
  match columns.more with
  | parent :: _ => some (String.ofList parent)
  | [] => if columns.indented ∨ kind = .part then nearestDisk above else none

/-- The device has the name, the size, the type and the parent of the columns. -/
structure Shows (above : List BlockDevice) (columns : Columns) (d : BlockDevice) : Prop where
  name : d.name = String.ofList columns.name
  size : Denotes columns.size d.sizeBytes
  size_lt : d.sizeBytes < word64
  kind : d.kind = DeviceKind.ofColumn (String.ofList columns.kind)
  parent : d.parent = columns.parent d.kind above

/-- The row is that of a device. -/
def IsRow (line : List Char) : Prop :=
  ∃ words columns, SplitsInto line words ∧ ColumnsOf words columns ∧
    ∃ n, Denotes columns.size n ∧ n < word64

/-- The row lists the device below those above it. -/
def Lists (above : List BlockDevice) (line : List Char) (d : BlockDevice) : Prop :=
  ∃ words columns, SplitsInto line words ∧ ColumnsOf words columns ∧ Shows above columns d

/-- The rows of a listing: the lines below its header, without those that are blank. -/
def rowsOf (text : String) : List (List Char) :=
  ((linesOf text.toList).drop 1).filter fun line => !line.all isBlank

variable {above devices : List BlockDevice} {line : List Char} {d : BlockDevice}
  {lastDisk : Option String} {words : List (List Char)} {columns : Columns}

/-! ### Reading the columns -/

/-- The glyphs in front of a name are dropped, and it is kept in mind whether there were
any. -/
theorem stripTree_append {glyphs name : List Char} (hglyph : ∀ c ∈ glyphs, isTreeGlyph c = true)
    (hplain : ∀ c ∈ name.head?, isTreeGlyph c = false) :
    stripTree (glyphs ++ name) = (name, !glyphs.isEmpty) := by
  have hname : name.dropWhile isTreeGlyph = name := by
    cases name with
    | nil => rfl
    | cons c cs => rw [List.dropWhile_cons_of_neg (by simp [hplain c rfl])]
  have hlength : (name.length != (glyphs ++ name).length) = !glyphs.isEmpty := by
    cases glyphs with
    | nil => simp
    | cons c cs =>
      simp only [List.length_append, List.length_cons, List.isEmpty_cons, Bool.not_false,
        bne_iff_ne]
      omega
  rw [stripTree, List.dropWhile_append_of_pos hglyph, hname, hlength]

/-- Every column is a tree, perhaps an empty one, and what comes after it. -/
theorem exists_draws (column : List Char) : ∃ glyphs name, Draws column glyphs name := by
  refine ⟨column.takeWhile isTreeGlyph, column.dropWhile isTreeGlyph, ?_, ?_, ?_⟩
  · exact List.takeWhile_append_dropWhile.symm
  · intro c hc
    exact List.mem_takeWhile_imp hc
  · intro c hc
    have hhead := List.head?_dropWhile_not isTreeGlyph column
    rw [hc] at hhead
    simpa using hhead

/-- A drawn column is taken apart into its tree and its name. -/
theorem Draws.stripTree_eq {column glyphs name : List Char} (h : Draws column glyphs name) :
    stripTree column = (name, !glyphs.isEmpty) := by
  rw [h.eq_append, stripTree_append h.glyph h.plain]

theorem stripTree_of_glyphs {tree : List Char} (htree : ∀ c ∈ tree, isTreeGlyph c = true) :
    (stripTree tree).1 = [] :=
  List.dropWhile_eq_nil_iff.mpr htree

/-- A row of columns is split into them. -/
theorem ColumnsOf.splitRow_eq (h : ColumnsOf words columns) :
    splitRow words
      = (columns.name, columns.size :: columns.kind :: columns.more, columns.indented) := by
  cases h with
  | joined hdraws hname => simp [splitRow, hdraws.stripTree_eq, hname]
  | apart htree hdraws hname =>
    simp [splitRow, stripTree_of_glyphs htree, hdraws.stripTree_eq]

theorem ColumnsOf.name_ne_nil (h : ColumnsOf words columns) : columns.name ≠ [] := by
  cases h with
  | joined _ hname => exact hname
  | apart _ _ hname => exact hname

/-- What a row is split into are its columns, as long as there is a name. -/
theorem columnsOf_of_splitRow {name size kind : List Char} {more : List (List Char)}
    {indented : Bool} (hsplit : splitRow words = (name, size :: kind :: more, indented))
    (hname : name ≠ []) : ColumnsOf words ⟨name, size, kind, more, indented⟩ := by
  rcases words with _ | ⟨c, _ | ⟨d, rest⟩⟩
  · simp [splitRow] at hsplit
  · simp [splitRow] at hsplit
  · rw [splitRow] at hsplit
    split at hsplit
    next hempty =>
      have htree : ∀ g ∈ c, isTreeGlyph g = true :=
        List.dropWhile_eq_nil_iff.mp (List.isEmpty_iff.mp hempty)
      obtain ⟨glyphs, shown, hdraws⟩ := exists_draws d
      rw [hdraws.stripTree_eq] at hsplit
      obtain ⟨rfl, hrest⟩ := Prod.mk.inj hsplit
      obtain ⟨rfl, rfl⟩ := Prod.mk.inj hrest
      exact .apart htree hdraws hname
    next =>
      obtain ⟨glyphs, shown, hdraws⟩ := exists_draws c
      rw [hdraws.stripTree_eq] at hsplit
      obtain ⟨rfl, hrest⟩ := Prod.mk.inj hsplit
      obtain ⟨hwords, rfl⟩ := Prod.mk.inj hrest
      obtain ⟨rfl, rfl⟩ := List.cons.inj hwords
      exact .joined hdraws hname

/-- A row with the columns of a device is read as one if its size is a number. -/
theorem ofRow_of_columnsOf (hcolumns : ColumnsOf (wordsOf line) columns) :
    ofRow lastDisk line = match readNat word64 (String.ofList columns.size) with
      | .error fault =>
        .error (.inventory ("invalid size " ++ Text.quoted (String.ofList columns.size)
          ++ " for " ++ String.ofList columns.name ++ ": " ++ fault.message))
      | .ok sizeBytes =>
        .ok
          { name := String.ofList columns.name
            sizeBytes
            kind := DeviceKind.ofColumn (String.ofList columns.kind)
            parent := match columns.more with
              | parent :: _ => some (String.ofList parent)
              | [] =>
                if columns.indented || DeviceKind.ofColumn (String.ofList columns.kind) = .part
                then lastDisk else none } := by
  rw [ofRow, hcolumns.splitRow_eq]
  exact if_neg (mt List.isEmpty_iff.mp hcolumns.name_ne_nil)

/-- A row without the columns is malformed. -/
theorem ofRow_of_not_columnsOf (hnone : ∀ columns, ¬ColumnsOf (wordsOf line) columns) :
    ofRow lastDisk line = .error (ofRow.malformed line) := by
  rw [ofRow]
  rcases hsplit : splitRow (wordsOf line) with ⟨name, _ | ⟨size, _ | ⟨kind, more⟩⟩, indented⟩
  · rfl
  · rfl
  · by_cases hname : name = []
    · simp [hname]
    · exact absurd (columnsOf_of_splitRow hsplit hname) (hnone _)

theorem lists_iff : Lists above line d ↔
    ∃ columns, ColumnsOf (wordsOf line) columns ∧ Shows above columns d := by
  simp [Lists, Text.splitsInto_iff]

/-- **A row** is read as a device exactly if it lists the device. -/
theorem ofRow_eq_ok_iff :
    ofRow (nearestDisk above) line = .ok d ↔ Lists above line d := by
  rw [lists_iff]
  constructor
  · intro hread
    by_cases hnone : ∀ columns, ¬ColumnsOf (wordsOf line) columns
    · rw [ofRow_of_not_columnsOf hnone] at hread
      cases hread
    · obtain ⟨columns, hcolumns⟩ := not_forall_not.mp hnone
      rw [ofRow_of_columnsOf hcolumns] at hread
      split at hread
      next => cases hread
      next n hsize =>
        obtain ⟨hdenotes, hlt⟩ := (Text.readNat_eq_ok_iff Text.word64_pos).mp hsize
        cases hread
        refine ⟨columns, hcolumns, rfl, hdenotes, hlt, rfl, ?_⟩
        simp [Columns.parent]
  · rintro ⟨columns, hcolumns, hshows⟩
    have hsize : readNat word64 (String.ofList columns.size) = .ok d.sizeBytes :=
      (Text.readNat_eq_ok_iff Text.word64_pos).mpr ⟨hshows.size, hshows.size_lt⟩
    rw [ofRow_of_columnsOf hcolumns, hsize]
    obtain ⟨name, sizeBytes, kind, parent⟩ := d
    obtain ⟨hname, -, -, hkind, hparent⟩ := hshows
    simp only at hname hkind hparent
    simp [hname, hkind, hparent, Columns.parent]

/-- Whether a row is read does not depend on the devices above it. -/
theorem exists_lists_iff : (∃ d, Lists above line d) ↔ IsRow line := by
  constructor
  · rintro ⟨d, words, columns, hwords, hcolumns, hshows⟩
    exact ⟨words, columns, hwords, hcolumns, d.sizeBytes, hshows.size, hshows.size_lt⟩
  · rintro ⟨words, columns, hwords, hcolumns, n, hdenotes, hlt⟩
    exact
      ⟨{ name := String.ofList columns.name
         sizeBytes := n
         kind := DeviceKind.ofColumn (String.ofList columns.kind)
         parent := columns.parent (DeviceKind.ofColumn (String.ofList columns.kind)) above },
        words, columns, hwords, hcolumns, rfl, hdenotes, hlt, rfl, rfl⟩

/-- A row that cannot be read is a fault of the listing. -/
theorem ofRow_error {f : Failure} (hread : ofRow lastDisk line = .error f) :
    ∃ reason, f = .inventory reason := by
  by_cases hnone : ∀ columns, ¬ColumnsOf (wordsOf line) columns
  · rw [ofRow_of_not_columnsOf hnone] at hread
    exact ⟨_, (Except.error.inj hread).symm⟩
  · obtain ⟨columns, hcolumns⟩ := not_forall_not.mp hnone
    rw [ofRow_of_columnsOf hcolumns] at hread
    split at hread
    next => exact ⟨_, (Except.error.inj hread).symm⟩
    next => cases hread

/-! ### Reading the rows -/

/-- The rows list the devices, one each, below those above. -/
inductive ListsAll : List BlockDevice → List (List Char) → List BlockDevice → Prop
  | nil {above : List BlockDevice} : ListsAll above [] []
  | cons {above devices : List BlockDevice} {line : List Char} {lines : List (List Char)}
      {d : BlockDevice} (hline : Lists above line d)
      (hrest : ListsAll (above ++ [d]) lines devices) :
      ListsAll above (line :: lines) (d :: devices)

theorem nearestDisk_append_singleton : nearestDisk (above ++ [d]) =
    if d.isDisk then some d.name else nearestDisk above := by
  rw [nearestDisk, List.reverse_append]
  cases hd : d.isDisk <;> simp [nearestDisk, hd]

/-- **Rows** are read as devices exactly if they list them one by one, blank lines apart. -/
theorem ofRows_eq_ok_iff {lines : List (List Char)} :
    ofRows (nearestDisk above) lines = .ok devices ↔
      ListsAll above (lines.filter fun line => !line.all isBlank) devices := by
  induction lines generalizing above devices with
  | nil =>
    constructor
    · intro hread
      cases hread
      exact .nil
    · intro hlists
      cases hlists
      rfl
  | cons line lines ih =>
    rw [ofRows]
    cases hblank : line.all isBlank with
    | true =>
      rw [if_pos rfl, List.filter_cons_of_neg (by simp [hblank]), ih]
    | false =>
      rw [if_neg (by simp), List.filter_cons_of_pos (by simp [hblank])]
      cases hrow : ofRow (nearestDisk above) line with
      | error f =>
        constructor
        · intro hread
          cases hread
        · rintro (_ | ⟨hline, hrest⟩)
          rw [ofRow_eq_ok_iff.mpr hline] at hrow
          cases hrow
      | ok d =>
        -- The disk that is passed on is the nearest one above the next row.
        simp only [← nearestDisk_append_singleton]
        have hd : Lists above line d := ofRow_eq_ok_iff.mp hrow
        constructor
        · intro hread
          cases hmore : ofRows (nearestDisk (above ++ [d])) lines with
          | error f =>
            rw [hmore] at hread
            cases hread
          | ok more =>
            rw [hmore] at hread
            cases hread
            exact .cons hd (ih.mp hmore)
        · rintro (_ | ⟨hline, hrest⟩)
          rw [ofRow_eq_ok_iff.mpr hline] at hrow
          cases hrow
          rw [ih.mpr hrest]
          rfl

/-- Each row is one device. -/
theorem ListsAll.length_eq {lines : List (List Char)} (h : ListsAll above lines devices) :
    devices.length = lines.length := by
  induction h with
  | nil => rfl
  | cons hline hrest ih => rw [List.length_cons, List.length_cons, ih]

/-- A device is listed by the row at its position. -/
theorem ListsAll.lists_getElem {lines : List (List Char)} (h : ListsAll above lines devices)
    {i : Nat} (hi : i < devices.length) (hi' : i < lines.length) :
    Lists (above ++ devices.take i) lines[i] devices[i] := by
  induction h generalizing i with
  | nil => simp at hi
  | cons hline hrest ih =>
    cases i with
    | zero => simpa using hline
    | succ i => simpa using ih (Nat.lt_of_succ_lt_succ hi) (Nat.lt_of_succ_lt_succ hi')

/-- Rows list devices if each of them is a row for itself: what stands above decides about
the parent only. -/
theorem exists_listsAll_iff {lines : List (List Char)} :
    (∃ devices, ListsAll above lines devices) ↔ ∀ line ∈ lines, IsRow line := by
  induction lines generalizing above with
  | nil => simpa using ⟨[], .nil⟩
  | cons line lines ih =>
    rw [List.forall_mem_cons, ← exists_lists_iff]
    constructor
    · rintro ⟨devices, hlists⟩
      cases hlists with
      | cons hline hrest => exact ⟨⟨_, hline⟩, ih.mp ⟨_, hrest⟩⟩
    · rintro ⟨⟨d, hline⟩, hrows⟩
      obtain ⟨devices, hrest⟩ := ih.mpr hrows
      exact ⟨d :: devices, .cons hline hrest⟩

theorem ofRows_error {lines : List (List Char)} {f : Failure}
    (hread : ofRows lastDisk lines = .error f) : ∃ reason, f = .inventory reason := by
  induction lines generalizing lastDisk with
  | nil => cases hread
  | cons line lines ih =>
    rw [ofRows] at hread
    split at hread
    next => exact ih hread
    next =>
      split at hread
      next g hrow =>
        cases hread
        exact ofRow_error hrow
      next d hrow =>
        cases hmore : ofRows (if d.isDisk then some d.name else lastDisk) lines with
        | error g =>
          rw [hmore] at hread
          cases hread
          exact ih hmore
        | ok more =>
          rw [hmore] at hread
          cases hread

/-! ### Columns by their positions -/

/-- Takes the columns by their positions, from the one with the name on. There is no
answer if a position is outside. -/
def ofColumnsByPosition (lastDisk : Option String) (line name : List Char) (indented : Bool)
    (columns : List (List Char)) : Option (Except Failure BlockDevice) :=
  if columns.length < 3 || name.isEmpty then some (.error (ofRow.malformed line))
  else do
    let size ← columns[1]?
    match readNat word64 (String.ofList size) with
    | .error fault =>
      some (.error (.inventory ("invalid size " ++ Text.quoted (String.ofList size) ++ " for "
        ++ String.ofList name ++ ": " ++ fault.message)))
    | .ok sizeBytes =>
      let column ← columns[2]?
      let kind := DeviceKind.ofColumn (String.ofList column)
      let parent := match columns[3]? with
        | some parent => some (String.ofList parent)
        | none => if indented || kind = .part then lastDisk else none
      some (.ok { name := String.ofList name, sizeBytes, kind, parent })

/-- Reads one row as `ofRow` does, but takes its words by their positions. -/
def ofRowByPosition (lastDisk : Option String) (line : List Char) :
    Option (Except Failure BlockDevice) := do
  let words := wordsOf line
  let first ← words[0]?
  if (stripTree first).1.isEmpty && 1 < words.length then
    let second ← words[1]?
    let columns ← if 1 ≤ words.length then some (words.drop 1) else none
    ofColumnsByPosition lastDisk line (stripTree second).1 true columns
  else ofColumnsByPosition lastDisk line (stripTree first).1 (stripTree first).2 words

/-- Reading the columns by position comes to the same, so that no position is out of bounds.
-/
theorem ofColumnsByPosition_eq {column name : List Char} {rest : List (List Char)}
    {indented : Bool} (hsplit : splitRow (wordsOf line) = (name, rest, indented)) :
    ofColumnsByPosition lastDisk line name indented (column :: rest)
      = some (ofRow lastDisk line) := by
  rw [ofRow, hsplit]
  rcases rest with _ | ⟨size, _ | ⟨kind, more⟩⟩
  · simp [ofColumnsByPosition]
  · simp [ofColumnsByPosition]
  · by_cases hname : name = []
    · simp [ofColumnsByPosition, hname]
    · have hlong : ¬more.length + 1 + 1 + 1 < 3 := by omega
      cases hsize : readNat word64 (String.ofList size) with
      | error fault => simp [ofColumnsByPosition, hname, hlong, hsize]
      | ok n => cases more <;> simp [ofColumnsByPosition, hname, hsize]

theorem ofRowByPosition_eq (hline : line.all isBlank = false) :
    ofRowByPosition lastDisk line = some (ofRow lastDisk line) := by
  have hne : wordsOf line ≠ [] := by
    intro hnil
    have hblank := Text.wordsOf_eq_nil_iff.mp hnil
    simp [List.all_eq_true.mpr hblank] at hline
  rw [ofRowByPosition]
  rcases hwords : wordsOf line with _ | ⟨first, _ | ⟨second, rest⟩⟩
  · exact absurd hwords hne
  · have hsplit : splitRow (wordsOf line) = ((stripTree first).1, [], (stripTree first).2) := by
      rw [hwords, splitRow]
    simpa using ofColumnsByPosition_eq hsplit
  · by_cases hempty : (stripTree first).1 = []
    · have hsplit : splitRow (wordsOf line) = ((stripTree second).1, rest, true) := by
        rw [hwords, splitRow, if_pos (List.isEmpty_iff.mpr hempty)]
      simpa [hempty] using ofColumnsByPosition_eq hsplit
    · have hsplit : splitRow (wordsOf line)
          = ((stripTree first).1, second :: rest, (stripTree first).2) := by
        rw [hwords, splitRow, if_neg (mt List.isEmpty_iff.mp hempty)]
      simpa [hempty] using ofColumnsByPosition_eq hsplit

/-! ### The whole listing -/

/-- A text is read as the grammar says. -/
structure ReadByGrammar (text : String) (answer : Except Failure (List BlockDevice)) :
    Prop where
  accepted_iff : (∃ devices, answer = .ok devices) ↔
    rowsOf text ≠ [] ∧ ∀ line ∈ rowsOf text, IsRow line
  /-- There is one device for each row. -/
  length : ∀ devices, answer = .ok devices → devices.length = (rowsOf text).length
  listed : ∀ devices, answer = .ok devices →
    ∀ (i : Nat) (hi : i < devices.length) (hi' : i < (rowsOf text).length),
      Lists (devices.take i) (rowsOf text)[i] devices[i]
  refused : ∀ f, answer = .error f → ∃ reason, f = .inventory reason
  /-- A row is read without looking for a column that it does not have. -/
  inBounds : ∀ line ∈ rowsOf text, ∀ lastDisk,
    ofRowByPosition lastDisk line = some (ofRow lastDisk line)

/-- A listing needs a device at least. -/
theorem ofListing_eq_ok_iff {text : String} : ofListing text = .ok devices ↔
    devices ≠ [] ∧ ListsAll [] (rowsOf text) devices := by
  have hrows : ofRows (nearestDisk []) ((linesOf text.toList).drop 1) = .ok devices ↔
      ListsAll [] (rowsOf text) devices := ofRows_eq_ok_iff
  rw [show nearestDisk [] = none from rfl] at hrows
  rw [← hrows, ofListing]
  split
  next hnil =>
    rw [hnil]
    constructor
    · intro hread
      cases hread
    · rintro ⟨hne, heq⟩
      exact absurd (Except.ok.inj heq).symm hne
  next hnot =>
    constructor
    · intro hread
      refine ⟨?_, hread⟩
      rintro rfl
      exact hnot hread
    · exact And.right

/-- **A listing is read by its grammar.** It is accepted if there are rows below its
header and each one is that of a device. It then lists these devices, in their order. -/
theorem listing_read_by_grammar (text : String) : ReadByGrammar text (ofListing text) where
  accepted_iff := by
    simp only [ofListing_eq_ok_iff]
    -- Which devices stand above a row does not matter for its being one.
    have hrows : (∃ devices, ListsAll [] (rowsOf text) devices) ↔
        ∀ line ∈ rowsOf text, IsRow line := exists_listsAll_iff
    rw [← hrows]
    constructor
    · rintro ⟨devices, hne, hlists⟩
      refine ⟨?_, devices, hlists⟩
      rw [← List.length_pos_iff, ← hlists.length_eq, List.length_pos_iff]
      exact hne
    · rintro ⟨hne, devices, hlists⟩
      refine ⟨devices, ?_, hlists⟩
      rw [← List.length_pos_iff, hlists.length_eq, List.length_pos_iff]
      exact hne
  length := by
    intro devices hread
    exact (ofListing_eq_ok_iff.mp hread).2.length_eq
  listed := by
    intro devices hread i hi hi'
    have hlisted := (ofListing_eq_ok_iff.mp hread).2.lists_getElem hi hi'
    rwa [List.nil_append] at hlisted
  refused := by
    intro f hread
    rw [ofListing] at hread
    split at hread
    next => exact ⟨_, (Except.error.inj hread).symm⟩
    next => exact ofRows_error hread
  inBounds := by
    intro line hline lastDisk
    obtain ⟨-, hsome⟩ := List.mem_filter.mp hline
    exact ofRowByPosition_eq (by simpa using hsome)

/-- A tree apart from the name, a signed size and no parent column. -/
example : ofListing "NAME SIZE TYPE\nsdd +7 disk\n\n│ └─sdd1 5 part\n" =
    .ok [⟨"sdd", 7, .disk, none⟩, ⟨"sdd1", 5, .part, some "sdd"⟩] := by
  decide +kernel

end BtrfsStore.BlockDevice
