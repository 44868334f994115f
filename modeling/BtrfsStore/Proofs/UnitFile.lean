import Mathlib.Data.List.TakeWhile
import BtrfsStore.MountUnit
import BtrfsStore.Proofs.Text
/-!
# BtrfsStore.Proofs.UnitFile

Reading the file of a systemd unit line by line, and what the file of a mount unit
says.

A line is the header of a section, an assignment or neither. Each line stands for itself:
that a backslash at its end joins the next line to it is left out. The last assignment of
a key in a section is the one that counts.

`entries_render` says what is read from the file of a mount unit, as long as no part of it
holds a newline; a newline in a part can add assignments of its own. What is read as the
value of an assignment is a single line without blanks at its ends (`isValue_of_mem_entries`),
so that a part that is not cannot be read back from any file.
-/

namespace BtrfsStore

namespace UnitFile

open Text

/-! ### Reading -/

/-- The characters that a unit file takes for blanks. -/
def isSpace (c : Char) : Bool := c = ' ' ∨ c = '\t' ∨ c = '\n' ∨ c = '\r'

theorem isBlank_of_isSpace (c : Char) (hc : isSpace c = true) : isBlank c = true := by
  obtain rfl | rfl | rfl | rfl := by simpa only [isSpace, decide_eq_true_eq] using hc
  all_goals rfl

/-- What a line of a unit file says. -/
inductive Line where
  | header (name : List Char)
  | assignment (key value : List Char)
  /-- A blank line, a comment or a line without a meaning. -/
  | other
  deriving Repr, DecidableEq

/-- Reads a line. Blanks before it, around a key and around a value do not matter. -/
def Line.ofChars (line : List Char) : Line :=
  match line.dropWhile isSpace with
  | [] => .other
  | c :: cs =>
    if c = '#' ∨ c = ';' then .other
    else if c = '[' then
      let name := dropEndWhile isSpace cs
      if name.getLast? = some ']' then .header name.dropLast else .other
    else
      match (c :: cs).dropWhile (· != '=') with
      | '=' :: value =>
        .assignment (strip isSpace ((c :: cs).takeWhile (· != '='))) (strip isSpace value)
      | _ => .other

/-- An assignment in a section. -/
structure Entry where
  group : String
  key : String
  value : String
  deriving Repr, DecidableEq

/-- The assignments of some lines that begin in the given section. -/
def entriesUnder (group : String) : List (List Char) → List Entry
  | [] => []
  | line :: rest =>
    match Line.ofChars line with
    | .header name => entriesUnder (String.ofList name) rest
    | .assignment key value =>
      ⟨group, String.ofList key, String.ofList value⟩ :: entriesUnder group rest
    | .other => entriesUnder group rest

/-- The assignments of a unit file. -/
def entries (text : String) : List Entry := entriesUnder "" (linesOf text.toList)

/-- The value of a key in a section, if it is assigned. -/
def value? (text group key : String) : Option String :=
  (((entries text).filter fun e => e.group = group ∧ e.key = key).getLast?).map (·.value)

/-! ### Assignments -/

/-- The characters are the key of an assignment. -/
def isKey (key : List Char) : Bool :=
  isWord key && !key.contains '=' && key.head?.all (· ∉ ['#', ';', '['])

/-- A line that assigns a value to a key is read so. -/
theorem ofChars_assignment {key : List Char} (hkey : isKey key = true) (value : List Char) :
    Line.ofChars (key ++ '=' :: value) = .assignment key (strip isSpace value) := by
  simp only [isKey, Bool.and_eq_true, Bool.not_eq_true'] at hkey
  obtain ⟨⟨hword, hsign⟩, hhead⟩ := hkey
  obtain ⟨hne, hchars⟩ := isWord_iff.mp hword
  have hspace : ∀ c ∈ key, isSpace c = false := by
    intro c hc
    refine Bool.eq_false_iff.mpr fun hspace => ?_
    exact absurd (isBlank_of_isSpace c hspace) (by simp [hchars c hc])
  have hbefore : ∀ c ∈ key, (c != '=') = true := by
    intro c hc
    rw [bne_iff_ne]
    rintro rfl
    simp [hc] at hsign
  have htake : (key ++ '=' :: value).takeWhile (· != '=') = key := by
    rw [List.takeWhile_append_of_pos hbefore, List.takeWhile_cons_of_neg (by simp),
      List.append_nil]
  have hdrop : (key ++ '=' :: value).dropWhile (· != '=') = '=' :: value := by
    rw [List.dropWhile_append_of_pos hbefore, List.dropWhile_cons_of_neg (by simp)]
  cases key with
  | nil => exact absurd rfl hne
  | cons c cs =>
    have hc : isSpace c = false := hspace c List.mem_cons_self
    obtain ⟨hhash, hsemicolon, hbracket⟩ : c ≠ '#' ∧ c ≠ ';' ∧ c ≠ '[' := by
      simpa using hhead
    rw [List.cons_append] at htake hdrop ⊢
    rw [Line.ofChars, List.dropWhile_cons_of_neg (by simp [hc])]
    simp only [hhash, hsemicolon, hbracket, or_self, if_false, hdrop, htake,
      strip_of_forall hspace]

/-- A value as it is read. -/
def readBack (text : String) : String := String.ofList (strip isSpace text.toList)

/-- Reading back a value leaves its words alone. -/
theorem firstWord_readBack (text : String) : firstWord (readBack text) = firstWord text :=
  firstWord_strip isBlank_of_isSpace text

variable {group : String} {line : List Char} {rest : List (List Char)}

theorem entriesUnder_nil :
    entriesUnder group (String.toList "" :: rest) = entriesUnder group rest := rfl

theorem entriesUnder_header (name : String) (hline : Line.ofChars line = .header name.toList) :
    entriesUnder group (line :: rest) = entriesUnder name rest := by
  rw [entriesUnder, hline]
  simp only [String.ofList_toList]

/-- An assignment is an entry of the group that it stands in. -/
theorem entriesUnder_assignment (key value : String) (hkey : isKey key.toList = true)
    (hline : line = key.toList ++ '=' :: value.toList) :
    entriesUnder group (line :: rest)
      = ⟨group, key, readBack value⟩ :: entriesUnder group rest := by
  rw [entriesUnder, hline, ofChars_assignment hkey]
  simp only [String.ofList_toList, readBack]

/-- An assignment as it is read. -/
def Entry.readBack (e : Entry) : Entry := { e with value := UnitFile.readBack e.value }

/-! ### Values -/

/-- The text can be read as the value of an assignment: it is a single line and has no
blanks at its ends. -/
def IsValue (text : String) : Prop := '\n' ∉ text.toList ∧ readBack text = text

instance : DecidablePred IsValue := fun _ => inferInstanceAs (Decidable (_ ∧ _))

theorem isValue_of_ofChars {key value : List Char} (hline : '\n' ∉ line)
    (h : Line.ofChars line = .assignment key value) : IsValue (String.ofList value) := by
  -- The value is what is left of an end of the line.
  obtain ⟨written, hwritten, rfl⟩ : ∃ written, written ⊆ line ∧ value = strip isSpace written := by
    unfold Line.ofChars at h
    split at h
    next => cases h
    next c cs hstart =>
      split at h
      · cases h
      split at h
      · dsimp only at h
        split at h <;> cases h
      split at h
      next written hvalue =>
        cases h
        have hend : '=' :: written <:+ line :=
          (hvalue ▸ List.dropWhile_suffix _).trans (hstart ▸ List.dropWhile_suffix _)
        exact ⟨written, fun d hd => hend.subset (List.mem_cons_of_mem _ hd), rfl⟩
      next => cases h
  refine ⟨?_, ?_⟩
  · rw [String.toList_ofList]
    obtain ⟨before, after, hparts, -⟩ := exists_strip isSpace written
    intro hnewline
    refine hline (hwritten ?_)
    rw [hparts]
    exact List.mem_append_left after (List.mem_append_right before hnewline)
  · rw [readBack, String.toList_ofList, strip_strip]

theorem isValue_of_mem_entriesUnder {lines : List (List Char)}
    (hlines : ∀ line ∈ lines, '\n' ∉ line) {e : Entry} (he : e ∈ entriesUnder group lines) :
    IsValue e.value := by
  induction lines generalizing group with
  | nil => cases he
  | cons line lines ih =>
    obtain ⟨hline, hrest⟩ := List.forall_mem_cons.mp hlines
    rw [entriesUnder] at he
    cases hmeans : Line.ofChars line with
    | header name =>
      rw [hmeans] at he
      exact ih hrest he
    | assignment key value =>
      rw [hmeans] at he
      rcases List.mem_cons.mp he with rfl | he
      · exact isValue_of_ofChars hline hmeans
      · exact ih hrest he
    | other =>
      rw [hmeans] at he
      exact ih hrest he

/-- What a file says is a value, whatever text the file is. -/
theorem isValue_of_mem_entries {text : String} {e : Entry} (he : e ∈ entries text) :
    IsValue e.value :=
  isValue_of_mem_entriesUnder (fun _ => newline_notMem_of_mem_linesOf) he

/-! ### Lines of a file -/

/-- A carriage return at the end of a line does not matter. -/
theorem ofChars_concat_return (line : List Char) :
    Line.ofChars (line ++ ['\r']) = Line.ofChars line := by
  have hspace : isSpace '\r' = true := by decide
  rw [Line.ofChars, Line.ofChars, List.dropWhile_append]
  cases line.dropWhile isSpace with
  | nil => simp [hspace]
  | cons c cs =>
    rw [List.isEmpty_cons, if_neg Bool.false_ne_true, List.cons_append]
    dsimp only
    rw [dropEndWhile_concat hspace, ← List.cons_append]
    refine if_congr Iff.rfl rfl (if_congr Iff.rfl rfl ?_)
    -- The carriage return belongs to the value, if there is one.
    cases hvalue : (c :: cs).dropWhile (· != '=') with
    | nil =>
      rw [List.dropWhile_append, hvalue]
      rfl
    | cons d value =>
      obtain rfl : d = '=' := by
        have hfirst : d ∈ ((c :: cs).dropWhile (· != '=')).head? := by
          rw [hvalue]
          rfl
        simpa using not_of_mem_head?_dropWhile d hfirst
      have htake : (c :: cs ++ ['\r']).takeWhile (· != '=') = (c :: cs).takeWhile (· != '=') := by
        have hlength := congrArg List.length
          (List.takeWhile_append_dropWhile (p := (· != '=')) (l := c :: cs))
        rw [List.length_append, hvalue, List.length_cons] at hlength
        rw [List.takeWhile_append, if_neg (by omega)]
      rw [List.dropWhile_append, hvalue, List.isEmpty_cons, if_neg Bool.false_ne_true,
        List.cons_append]
      simp only [htake, strip_concat hspace]

/-- What lines say is read from a text in which each of them is ended by a newline. -/
theorem entriesUnder_linesOf_flatMap {lines : List (List Char)}
    (hlines : ∀ line ∈ lines, '\n' ∉ line) (group : String) :
    entriesUnder group (linesOf (lines.flatMap (· ++ ['\n']))) = entriesUnder group lines := by
  induction lines generalizing group with
  | nil => rfl
  | cons line lines ih =>
    obtain ⟨hline, hrest⟩ := List.forall_mem_cons.mp hlines
    obtain ⟨line', hread, hsame⟩ :=
      exists_linesOf_append_newline hline (lines.flatMap (· ++ ['\n']))
    have hmeans : Line.ofChars line' = Line.ofChars line := by
      rcases hsame with rfl | rfl
      · rfl
      · exact (ofChars_concat_return line').symm
    rw [List.flatMap_cons, List.append_assoc, List.singleton_append, hread, entriesUnder,
      entriesUnder, hmeans]
    cases Line.ofChars line with
    | header name => exact ih hrest _
    | assignment key value => exact congrArg (List.cons _) (ih hrest group)
    | other => exact ih hrest group

end UnitFile

namespace MountUnit

open Text UnitFile

/-- The parts of the unit hold no line breaks. -/
def OneLine (u : MountUnit) : Prop :=
  ∀ part ∈ [u.source, u.mountPoint, u.fsType, u.options], Unbroken part.toList

instance : DecidablePred OneLine := fun _ => inferInstanceAs (Decidable (∀ _ ∈ _, _))

/-- What the file of the unit is to declare: its parts. -/
def declarations (u : MountUnit) : List Entry :=
  [⟨"Mount", "What", u.source⟩, ⟨"Mount", "Where", u.mountPoint⟩,
    ⟨"Mount", "Type", u.effectiveFsType⟩, ⟨"Mount", "Options", u.effectiveOptions⟩]

/-- A default is a single line. -/
theorem newline_notMem_orDefault {default text : String} (hdefault : '\n' ∉ default.toList)
    (htext : '\n' ∉ text.toList) : '\n' ∉ (orDefault default text).toList := by
  unfold orDefault
  split
  · exact hdefault
  · exact htext

theorem OneLine.newline_notMem {u : MountUnit} (hline : u.OneLine) :
    ∀ d ∈ u.declarations, '\n' ∉ d.value.toList := by
  simp only [OneLine, Unbroken, List.forall_mem_cons] at hline
  obtain ⟨⟨hsource, -⟩, ⟨hmount, -⟩, ⟨htype, -⟩, ⟨hoptions, -⟩, -⟩ := hline
  simp only [declarations, List.forall_mem_cons]
  exact ⟨hsource, hmount, newline_notMem_orDefault (by decide) htype,
    newline_notMem_orDefault (by decide) hoptions, List.forall_mem_nil _⟩

/-- A unit whose values are single lines is written in lines that hold no line break. -/
theorem newline_notMem_fileLines {u : MountUnit}
    (hparts : ∀ d ∈ u.declarations, '\n' ∉ d.value.toList) :
    ∀ line ∈ u.fileLines.map String.toList, '\n' ∉ line := by
  simp only [declarations, List.forall_mem_cons] at hparts
  obtain ⟨hsource, hmount, htype, hoptions, -⟩ := hparts
  simp only [MountUnit.fileLines, List.map_cons, List.map_nil, List.forall_mem_cons,
    String.toList_append, List.mem_append, hsource, hmount, htype, hoptions]
  decide

/-- The file is its lines, each ended by a newline. -/
theorem toList_render (u : MountUnit) :
    u.render.toList = (u.fileLines.map String.toList).flatMap (· ++ ['\n']) := by
  simp [render, String.toList_join, List.flatMap_map]

/-- All assignments in the file. -/
def assignments (u : MountUnit) : List Entry :=
  ⟨"Unit", "Description", "sqlrs btrfs store (" ++ u.mountPoint ++ ")"⟩ ::
    ⟨"Unit", "After", "local-fs-pre.target"⟩ ::
    (u.declarations ++ [⟨"Install", "WantedBy", "multi-user.target"⟩])

/-- What is read from the lines of a unit are its assignments, in order. -/
theorem entriesUnder_fileLines (u : MountUnit) :
    entriesUnder "" (u.fileLines.map String.toList) = u.assignments.map Entry.readBack := by
  simp only [MountUnit.fileLines, List.map_cons, List.map_nil]
  rw [entriesUnder_header "Unit" (by decide),
    entriesUnder_assignment "Description" ("sqlrs btrfs store (" ++ u.mountPoint ++ ")")
      (by decide) (by simp),
    entriesUnder_assignment "After" "local-fs-pre.target" (by decide) (by simp),
    entriesUnder_nil, entriesUnder_header "Mount" (by decide),
    entriesUnder_assignment "What" u.source (by decide) (by simp),
    entriesUnder_assignment "Where" u.mountPoint (by decide) (by simp),
    entriesUnder_assignment "Type" u.effectiveFsType (by decide) (by simp),
    entriesUnder_assignment "Options" u.effectiveOptions (by decide) (by simp),
    entriesUnder_nil, entriesUnder_header "Install" (by decide),
    entriesUnder_assignment "WantedBy" "multi-user.target" (by decide) (by simp)]
  rfl

/-- What is read from the file of a unit none of whose parts holds a newline. -/
theorem entries_render {u : MountUnit} (hparts : ∀ d ∈ u.declarations, '\n' ∉ d.value.toList) :
    entries u.render = u.assignments.map Entry.readBack := by
  rw [entries, toList_render, entriesUnder_linesOf_flatMap (newline_notMem_fileLines hparts),
    entriesUnder_fileLines]

/-- The type in the file is the one that the unit stands for. -/
theorem value?_type {u : MountUnit} (hline : u.OneLine) :
    UnitFile.value? u.render "Mount" "Type" = some (readBack u.effectiveFsType) := by
  rw [UnitFile.value?, entries_render hline.newline_notMem]
  rfl

/-! ### Files that say what a unit says -/

/-- The text declares the parts of the unit: each of their keys is assigned once, in its
section, to the part. -/
def SaidBy (u : MountUnit) (text : String) : Prop :=
  ∀ d ∈ u.declarations, (entries text).filter (·.key = d.key) = [d]

instance (u : MountUnit) : DecidablePred u.SaidBy :=
  fun _ => inferInstanceAs (Decidable (∀ _ ∈ _, _))

/-- A unit file says what the unit says exactly if all that it says are values. -/
theorem saidBy_render_iff {u : MountUnit} :
    u.SaidBy u.render ↔ ∀ d ∈ u.declarations, IsValue d.value := by
  constructor
  · intro hsaid d hd
    have hmem : d ∈ (entries u.render).filter (·.key = d.key) := by
      rw [hsaid d hd]
      exact List.mem_singleton_self d
    exact isValue_of_mem_entries (List.mem_filter.mp hmem).1
  · intro hvalues d hd
    have hsame : d.readBack = d := congrArg (Entry.mk d.group d.key) (hvalues d hd).2
    rw [entries_render fun d hd => (hvalues d hd).1]
    have hkey : (u.assignments.map Entry.readBack).filter (·.key = d.key) = [d.readBack] := by
      simp only [declarations, List.mem_cons, List.not_mem_nil, or_false] at hd
      rcases hd with rfl | rfl | rfl | rfl <;> rfl
    rw [hkey, hsame]

end MountUnit

end BtrfsStore
