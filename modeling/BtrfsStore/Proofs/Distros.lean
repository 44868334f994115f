import BtrfsStore.Distro
import BtrfsStore.Proofs.Warnings
import BtrfsStore.Rehearsal
/-!
# BtrfsStore.Proofs.Distros

Listings of distros: what is read back from one, and which distro of it gets the store.

A row is a mark, a name, a state and a version, with blanks in between. The mark is told
from the name by the first character of the row alone, so that a row reads back as it
was written if its name is a word that neither begins like the mark nor is the one of
the header (`Listable`). `ofLine_marked` and `ofLine_unmarked` say so of the two kinds
of rows.

The choice is a matter of the first distro with a property (`IsFirst`), and `Chosen`
says which property that is.
-/

namespace BtrfsStore

/-! ### Blanks at the ends -/

namespace Text

theorem trimChars_blanks_append {blanks : List Char} (hblanks : ∀ c ∈ blanks, isBlank c = true)
    (cs : List Char) : trimChars (blanks ++ cs) = trimChars cs := by
  rw [trimChars, List.dropWhile_append_of_pos hblanks, trimChars]

end Text

namespace Distro

open Text (Word gap isBlank isWord)

/-! ### Rows -/

/-- A name that a listing shows such that it can be read back. -/
structure Listable (name : String) : Prop where
  word : isWord name.toList = true
  ne_header : name ≠ "NAME"
  unmarked : name.toList.head? ≠ some '*'

instance : DecidablePred Listable := fun name =>
  decidable_of_iff (isWord name.toList = true ∧ name ≠ "NAME" ∧ name.toList.head? ≠ some '*')
    ⟨fun ⟨word, ne_header, unmarked⟩ => ⟨word, ne_header, unmarked⟩,
      fun h => ⟨h.word, h.ne_header, h.unmarked⟩⟩

/-- The columns of a row that shows a running distro, from its name on. -/
def columns (name : String) : List Char :=
  (Rehearsal.padRight Rehearsal.nameWidth name).toList ++ " Running         2".toList

/-- The distro that the row shows. -/
def running (isDefault : Bool) (name : String) : Distro :=
  { name, state := "Running", version := 2, isDefault }

variable {name : String} {names : List String}

theorem Listable.head?_columns (h : Listable name) (rest : List Char) :
    ∃ c, (columns name ++ rest).head? = some c ∧ isBlank c = false ∧ c ≠ '*' := by
  obtain ⟨hne, hchars⟩ := Text.isWord_iff.mp h.word
  obtain ⟨c, cs, hname⟩ := List.exists_cons_of_ne_nil hne
  have hmark : c ≠ '*' := by
    rintro rfl
    exact h.unmarked (by rw [hname]; rfl)
  refine ⟨c, ?_, hchars c (hname ▸ List.mem_cons_self), hmark⟩
  rw [columns, Rehearsal.padRight, String.toList_append, hname]
  rfl

/-- The last column is not padded. -/
theorem isBlank_of_mem_getLast?_columns (before : List Char) :
    ∀ c ∈ (before ++ columns name).getLast?, isBlank c = false := by
  have hlast : " Running         2".toList.getLast? = some '2' := by decide
  rw [columns, ← List.append_assoc, List.getLast?_append, hlast]
  rintro c ⟨⟩
  decide

theorem Listable.tight_columns (h : Listable name) : Text.Tight (columns name) := by
  obtain ⟨c, hhead, hblank, -⟩ := h.head?_columns []
  rw [List.append_nil] at hhead
  refine ⟨?_, isBlank_of_mem_getLast?_columns []⟩
  rw [hhead]
  rintro d ⟨⟩
  exact hblank

theorem Listable.wordsOf_columns (h : Listable name) :
    Text.wordsOf (columns name) = [name.toList, "Running".toList, "2".toList] := by
  have hcolumns : columns name = name.toList
      ++ (gap (Rehearsal.nameWidth - name.length + 1) ++ "Running         2".toList) := by
    rw [columns, Rehearsal.padRight, gap, List.replicate_succ']
    simp
  have hrest : Text.wordsOf "Running         2".toList = ["Running".toList, "2".toList] := by decide
  rw [hcolumns, Word.wordsOf_append_gap ⟨name.toList, h.word⟩, hrest]

/-- The default distro is read from its line. -/
theorem ofLine_marked (h : Listable name) :
    ofLine ('*' :: ' ' :: columns name) = some (running true name) := by
  have htrim : Text.trimChars ('*' :: ' ' :: columns name) = '*' :: ' ' :: columns name :=
    Text.Tight.trimChars_eq ⟨by rintro c ⟨⟩; decide, isBlank_of_mem_getLast?_columns ['*', ' ']⟩
  have hversion : Text.readNat versionBound "2" = .ok 2 := by decide
  rw [ofLine, htrim]
  simp [Text.wordsOf_blank_cons, isBlank, h.wordsOf_columns, h.ne_header, hversion, running]

/-- Any other distro is read from its line, too. -/
theorem ofLine_unmarked (h : Listable name) :
    ofLine (' ' :: ' ' :: columns name) = some (running false name) := by
  have hblanks : ∀ c ∈ [' ', ' '], isBlank c = true :=
    List.forall_mem_cons.mpr ⟨by decide, List.forall_mem_singleton.mpr (by decide)⟩
  have htrim : Text.trimChars (' ' :: ' ' :: columns name) = columns name :=
    (Text.trimChars_blanks_append hblanks (columns name)).trans h.tight_columns.trimChars_eq
  obtain ⟨c, hhead, -, hmark⟩ := h.head?_columns []
  rw [List.append_nil] at hhead
  obtain ⟨cs, hcolumns⟩ := List.head?_eq_some_iff.mp hhead
  have hversion : Text.readNat versionBound "2" = .ok 2 := by decide
  have hwords := h.wordsOf_columns
  rw [ofLine, htrim, hcolumns]
  rw [hcolumns] at hwords
  simp [hmark, hwords, h.ne_header, hversion, running]

/-! ### Listings -/

/-- A row is on one line. -/
theorem Listable.unbroken_columns (h : Listable name) : Text.Unbroken (columns name) := by
  obtain ⟨-, hchars⟩ := Text.isWord_iff.mp h.word
  have hname : Text.Unbroken name.toList := by
    constructor
    · exact fun hmem => absurd (hchars _ hmem) (by decide)
    · exact fun hmem => absurd (hchars _ hmem) (by decide)
  rw [columns, Rehearsal.padRight, String.toList_append, Text.unbroken_append,
    Text.unbroken_append, String.toList_ofList]
  refine ⟨⟨hname, ?_⟩, by decide⟩
  constructor
  · exact fun hmem => absurd (List.eq_of_mem_replicate hmem) (by decide)
  · exact fun hmem => absurd (List.eq_of_mem_replicate hmem) (by decide)

/-- A row is one line of a listing. -/
theorem Listable.linesOf_distroRow (h : Listable name) (isDefault : Bool) (rest : List Char) :
    Text.linesOf ((Rehearsal.distroRow isDefault name).toList ++ rest)
      = ((if isDefault then ['*', ' '] else [' ', ' ']) ++ columns name) :: Text.linesOf rest := by
  have hrow : (Rehearsal.distroRow isDefault name).toList ++ rest
      = (if isDefault then ['*', ' '] else [' ', ' ']) ++ columns name ++ '\r' :: '\n' :: rest := by
    rw [Rehearsal.distroRow, columns]
    cases isDefault <;> simp
  rw [hrow, Text.linesOf_line_append_crlf]
  rw [Text.unbroken_append]
  exact ⟨by cases isDefault <;> decide, h.unbroken_columns⟩

/-- Each row is read as its distro. -/
theorem filterMap_ofLine_rows (marks : Nat → Bool) (hnames : ∀ name ∈ names, Listable name) :
    (Text.linesOf (String.join
        (names.mapIdx fun i name => Rehearsal.distroRow (marks i) name)).toList).filterMap ofLine
      = names.mapIdx fun i name => running (marks i) name := by
  induction names generalizing marks with
  | nil => rfl
  | cons name names ih =>
    obtain ⟨hname, hrest⟩ := List.forall_mem_cons.mp hnames
    have hfirst : ofLine ((if marks 0 then ['*', ' '] else [' ', ' ']) ++ columns name)
        = some (running (marks 0) name) := by
      cases marks 0 with
      | true => exact ofLine_marked hname
      | false => exact ofLine_unmarked hname
    rw [List.mapIdx_cons, List.mapIdx_cons, String.join_cons, String.toList_append,
      hname.linesOf_distroRow, List.filterMap_cons_some hfirst, ih (fun i => marks (i + 1)) hrest]

theorem distroRows_eq_mapIdx (names : List String) :
    Rehearsal.distroRows names = names.mapIdx fun i name => Rehearsal.distroRow (i == 0) name := by
  cases names with
  | nil => rfl
  | cons name names =>
    have hrest : names.map (Rehearsal.distroRow false)
        = names.mapIdx fun _ name => Rehearsal.distroRow false name := by
      rw [List.mapIdx_eq_zipIdx_map, ← Function.comp_def, ← List.map_map, List.zipIdx_map_fst]
    rw [Rehearsal.distroRows, List.mapIdx_cons, hrest]
    rfl

theorem toList_header_append (rows : String) :
    ("  NAME                   STATE           VERSION\r\n" ++ rows).toList
      = "  NAME                   STATE           VERSION".toList
        ++ '\r' :: '\n' :: rows.toList := by
  have hheader : "  NAME                   STATE           VERSION\r\n"
      = "  NAME                   STATE           VERSION" ++ "\r\n" := rfl
  have hend : "\r\n".toList = ['\r', '\n'] := rfl
  rw [hheader, String.toList_append, String.toList_append, hend, List.append_assoc,
    List.cons_append, List.singleton_append]

theorem toList_distroListing (names : List String) :
    (Rehearsal.distroListing names).toList
      = "  NAME                   STATE           VERSION".toList
        ++ '\r' :: '\n' :: (String.join (Rehearsal.distroRows names)).toList :=
  toList_header_append _

/-- The header is read as no distro. -/
theorem ofListing_distroListing (hnames : ∀ name ∈ names, Listable name) :
    ofListing (Rehearsal.distroListing names)
      = names.mapIdx fun i name => running (i == 0) name := by
  have hheader : Text.Unbroken "  NAME                   STATE           VERSION".toList := by
    simp [Text.Unbroken]
  have hnone : ofLine "  NAME                   STATE           VERSION".toList = none := by
    decide +kernel
  rw [ofListing, toList_distroListing, Text.linesOf_line_append_crlf hheader,
    List.filterMap_cons_none hnone, distroRows_eq_mapIdx, filterMap_ofLine_rows _ hnames]

/-! ### The choice -/

/-- Of the distros that satisfy `P`, the one that is listed first. -/
def IsFirst (P : Distro → Prop) (distros : List Distro) (d : Distro) : Prop :=
  ∃ before after, distros = before ++ d :: after ∧ P d ∧ ∀ e ∈ before, ¬P e

/-- The distro that a listing offers, with or without a requested name. -/
inductive Chosen (distros : List Distro) : Option String → Distro → Prop
  /-- It has the requested name, whatever the case of its ASCII letters. -/
  | requested {name : String} {d : Distro}
      (hfirst : IsFirst (fun e => Text.foldAscii e.name = Text.foldAscii name) distros d) :
      Chosen distros (some name) d
  /-- It is the default one, and no helper. -/
  | marked {d : Distro}
      (hfirst : IsFirst (fun e => e.isDefault = true ∧ e.isDockerHelper = false) distros d) :
      Chosen distros none d
  /-- It is no helper, where no default one is. -/
  | unmarked {d : Distro}
      (hnone : ∀ e ∈ distros, e.isDefault = true → e.isDockerHelper = true)
      (hfirst : IsFirst (fun e => e.isDockerHelper = false) distros d) :
      Chosen distros none d

variable {distros : List Distro} {requested : Option String} {d : Distro}

theorem IsFirst.mem {P : Distro → Prop} (h : IsFirst P distros d) : d ∈ distros := by
  obtain ⟨before, after, rfl, -, -⟩ := h
  simp

theorem Chosen.mem (h : Chosen distros requested d) : d ∈ distros := by
  cases h with
  | requested hfirst => exact hfirst.mem
  | marked hfirst => exact hfirst.mem
  | unmarked _ hfirst => exact hfirst.mem

theorem find?_eq_some_iff_isFirst {p : Distro → Bool} {P : Distro → Prop}
    (hp : ∀ e, p e = true ↔ P e) : distros.find? p = some d ↔ IsFirst P distros d := by
  simp only [List.find?_eq_some_iff_append, IsFirst, Bool.not_eq_true', ← Bool.not_eq_true, hp]
  constructor
  · rintro ⟨hd, before, after, hdistros, hbefore⟩
    exact ⟨before, after, hdistros, hd, hbefore⟩
  · rintro ⟨before, after, hdistros, hd, hbefore⟩
    exact ⟨hd, before, after, hdistros, hbefore⟩

/-- The candidate is the distro that `Chosen` describes. -/
theorem candidate_eq_ok_iff : candidate distros requested = .ok d ↔ Chosen distros requested d := by
  cases requested with
  | some name =>
    have hfind : (distros.find? fun e => Text.sameAscii e.name name) = some d ↔
        IsFirst (fun e => Text.foldAscii e.name = Text.foldAscii name) distros d :=
      find?_eq_some_iff_isFirst fun e => beq_iff_eq
    have hchosen : Chosen distros (some name) d ↔
        IsFirst (fun e => Text.foldAscii e.name = Text.foldAscii name) distros d :=
      ⟨fun h => by cases h with | requested hfirst => exact hfirst, .requested⟩
    rw [hchosen, ← hfind, candidate]
    cases distros.find? fun e => Text.sameAscii e.name name <;> simp
  | none =>
    -- First the default distro, and any other one only if it is a helper of Docker.
    have hmarked : (distros.find? fun e => e.isDefault && !e.isDockerHelper) = some d ↔
        IsFirst (fun e => e.isDefault = true ∧ e.isDockerHelper = false) distros d :=
      find?_eq_some_iff_isFirst fun e => by simp
    have hplain : (distros.find? fun e => !e.isDockerHelper) = some d ↔
        IsFirst (fun e => e.isDockerHelper = false) distros d :=
      find?_eq_some_iff_isFirst fun e => by simp
    have hnone : (distros.find? fun e => e.isDefault && !e.isDockerHelper) = none ↔
        ∀ e ∈ distros, e.isDefault = true → e.isDockerHelper = true := by
      simp [List.find?_eq_none]
    have hchosen : Chosen distros none d ↔
        IsFirst (fun e => e.isDefault = true ∧ e.isDockerHelper = false) distros d ∨
          (∀ e ∈ distros, e.isDefault = true → e.isDockerHelper = true) ∧
            IsFirst (fun e => e.isDockerHelper = false) distros d := by
      constructor
      · intro h
        cases h with
        | marked hfirst => exact Or.inl hfirst
        | unmarked hnone hfirst => exact Or.inr ⟨hnone, hfirst⟩
      · rintro (hfirst | ⟨hnone, hfirst⟩)
        · exact .marked hfirst
        · exact .unmarked hnone hfirst
    rw [hchosen, ← hmarked, ← hplain, ← hnone, ← Option.or_eq_some_iff, candidate]
    split
    next e he => simp [he]
    next hno => simp [hno]

/-- A distro that runs an older WSL is refused. -/
theorem select_eq_ok_iff : select distros requested = .ok d ↔
    d ∈ distros ∧ 2 ≤ d.version ∧ Chosen distros requested d := by
  have hchosen : select distros requested = .ok d ↔
      candidate distros requested = .ok d ∧ 2 ≤ d.version := by
    rw [select]
    split
    next hnone => simp [hnone]
    next e he =>
      rw [he, Except.ok.injEq]
      split
      next hold =>
        simp only [reduceCtorEq, false_iff]
        rintro ⟨rfl, hnew⟩
        omega
      next hnew =>
        rw [Except.ok.injEq]
        refine ⟨?_, fun h => h.1⟩
        rintro rfl
        exact ⟨rfl, Nat.le_of_not_lt hnew⟩
  rw [hchosen, candidate_eq_ok_iff]
  exact ⟨fun ⟨h, hversion⟩ => ⟨h.mem, hversion, h⟩, fun ⟨_, hversion, h⟩ => ⟨h, hversion⟩⟩

/-- **A listing reads back as the distros that were written to it, and the distro for
the store is the first of them that fits the request.** Written are running distros, the
first of which is marked as the default one. The distro is chosen from any listing in
the same way: by the requested name, or else as the default one or the first one,
helpers left aside. -/
theorem listing_read_and_chosen (names : List String) (hnames : ∀ name ∈ names, Listable name) :
    ofListing (Rehearsal.distroListing names)
        = (names.mapIdx fun i name => running (i == 0) name) ∧
      ∀ text requested d, select (ofListing text) requested = .ok d ↔
        d ∈ ofListing text ∧ 2 ≤ d.version ∧ Chosen (ofListing text) requested d :=
  ⟨ofListing_distroListing hnames, fun _ _ _ => select_eq_ok_iff⟩

/-- A helper that is listed first, and so as the default one, is passed over. -/
theorem listing_read_and_chosen_past_helper :
    (∀ name ∈ ["docker-desktop-with-a-long-name", "Ubuntu"], Listable name) ∧
      ofListing (Rehearsal.distroListing ["docker-desktop-with-a-long-name", "Ubuntu"])
        = [running true "docker-desktop-with-a-long-name", running false "Ubuntu"] ∧
      select
          (ofListing (Rehearsal.distroListing ["docker-desktop-with-a-long-name", "Ubuntu"])) none
        = .ok (running false "Ubuntu") := by
  have hnames : ∀ name ∈ ["docker-desktop-with-a-long-name", "Ubuntu"], Listable name := by
    decide +kernel
  obtain ⟨hread, hchosen⟩ := listing_read_and_chosen _ hnames
  refine ⟨hnames, hread, (hchosen _ none _).mpr ?_⟩
  rw [hread]
  refine ⟨by decide, by decide, .unmarked (by decide +kernel) ?_⟩
  exact ⟨[running true "docker-desktop-with-a-long-name"], [], rfl, by decide +kernel,
    by decide +kernel⟩

end Distro

end BtrfsStore
