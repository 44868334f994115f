import BtrfsStore.FileTree
import BtrfsStore.Proofs.Components
/-!
# BtrfsStore.Proofs.Walking

Where a path leads in a file tree, for two spellings of one path.

A walk follows the pieces between the slashes of the text. Whether it ends in a directory
depends on the components alone (`walk_directory_iff`), since a piece that is trivial
changes nothing there; only a file must not be followed by one. A walk that has come to
a directory goes on from there (`follow_append`), so that a relative path leads where it
leads when it is joined to the current directory (`walk_join`).
-/

namespace BtrfsStore

namespace Path

variable {p q : Path}

/-! ### Texts in pieces -/

theorem eq_of_toList_eq (h : p.text.toList = q.text.toList) : p = q :=
  congrArg mk (String.toList_inj.mp h)

/-- The pieces between the slashes of the whole text, the start included. -/
def pieces (p : Path) : List (List Char) := p.text.toList.splitOn '/'

theorem splitStart_chars_append (cs : List Char) :
    (splitStart cs).1.chars ++ (splitStart cs).2 = cs := by
  fun_cases splitStart cs with
  | case1 cs => rfl
  | case2 => rfl
  | case3 cs => rfl
  | case4 => rfl

/-- The text of a path is its start and its segments. -/
theorem start_chars_append (p : Path) :
    p.start.chars ++ joinSlash p.segmentsFromEnd.reverse = p.text.toList := by
  rw [start, segmentsFromEnd, List.reverse_reverse, splitSlash_eq, joinSlash_eq,
    List.intercalate_splitOn, splitStart_chars_append]

theorem joinSlash_cons {s : List Char} {ss : List (List Char)} (hss : ss ≠ []) :
    joinSlash (s :: ss) = s ++ '/' :: joinSlash ss := by
  cases ss with
  | nil => exact absurd rfl hss
  | cons t ts => rfl

theorem joinSlash_append {front back : List (List Char)} (hfront : front ≠ [])
    (hback : back ≠ []) :
    joinSlash (front ++ back) = joinSlash front ++ '/' :: joinSlash back := by
  induction front with
  | nil => exact absurd rfl hfront
  | cons s ss ih =>
    cases ss with
    | nil => exact joinSlash_cons hback
    | cons t ts =>
      rw [List.cons_append, joinSlash_cons (List.append_ne_nil_of_right_ne_nil _ hback),
        ih (List.cons_ne_nil t ts), joinSlash_cons (List.cons_ne_nil t ts), List.append_assoc,
        List.cons_append]

theorem joinSlash_isPrefix {front segments : List (List Char)} (h : front <+: segments) :
    joinSlash front <+: joinSlash segments := by
  obtain ⟨back, rfl⟩ := h
  by_cases hfront : front = []
  · rw [hfront]
    exact List.nil_prefix
  · by_cases hback : back = []
    · have hsame : front ++ back = front := by rw [hback, List.append_nil]
      exact hsame.symm ▸ List.prefix_refl _
    · rw [joinSlash_append hfront hback]
      exact List.prefix_append _ _

theorem mem_joinSlash {segments : List (List Char)} {c : Char} (hc : c ∈ joinSlash segments) :
    c = '/' ∨ ∃ s ∈ segments, c ∈ s := by
  induction segments with
  | nil => cases hc
  | cons s ss ih =>
    by_cases hss : ss = []
    · rw [hss] at hc ⊢
      exact Or.inr ⟨s, List.mem_singleton_self s, hc⟩
    · rw [joinSlash_cons hss] at hc
      obtain hc | hc := List.mem_append.mp hc
      · exact Or.inr ⟨s, List.mem_cons_self, hc⟩
      · obtain rfl | hc := List.mem_cons.mp hc
        · exact Or.inl rfl
        · obtain hslash | ⟨t, ht, hc⟩ := ih hc
          · exact Or.inl hslash
          · exact Or.inr ⟨t, List.mem_cons_of_mem s ht, hc⟩

/-! ### Ancestors -/

/-- What is left of a path without its last segments is the beginning of its text. -/
theorem ofSegmentsFromEnd_isPrefix {segments : List (List Char)}
    (hsuffix : segments <:+ p.segmentsFromEnd) :
    (ofSegmentsFromEnd p.start segments).text.toList <+: p.text.toList := by
  have hkept : segments.dropWhile isTrivial <:+ p.segmentsFromEnd :=
    (List.dropWhile_suffix isTrivial).trans hsuffix
  rw [ofSegmentsFromEnd, String.toList_ofList, ← start_chars_append p]
  exact (List.prefix_append_right_inj _).mpr (joinSlash_isPrefix (List.reverse_prefix.mpr hkept))

/-- The text of an ancestor begins the text of the path. -/
theorem text_prefix_of_mem_ancestors (hq : q ∈ p.ancestors) :
    q.text.toList <+: p.text.toList := by
  obtain rfl | hq := List.mem_cons.mp hq
  · exact List.prefix_refl _
  · obtain rfl | ⟨ss, hsuffix, rfl⟩ := mem_parentsOf hq
    · exact List.nil_prefix
    · exact ofSegmentsFromEnd_isPrefix hsuffix

theorem utf8ByteSize_le_of_isInfix {s t : String} (h : s.toList <:+: t.toList) :
    s.utf8ByteSize ≤ t.utf8ByteSize := by
  obtain ⟨front, back, htext⟩ := h
  have ht : t = String.ofList front ++ s ++ String.ofList back :=
    String.toList_inj.mp (by simp [← htext])
  rw [ht, String.utf8ByteSize_append, String.utf8ByteSize_append]
  omega

/-- The path without the trivial segments at its end. -/
def trimmed (p : Path) : Path := ofSegmentsFromEnd p.start p.segmentsFromEnd

/-! ### Joined paths -/

/-- What stands between a path and one that is joined to it. -/
def separator (p : Path) : List Char :=
  if p.text = "" ∨ ['/'] <:+ p.text.toList then [] else ['/']

/-- Joining puts a separator between two texts, if one is missing. -/
theorem toList_join (hq : q.isAbsolute = false) :
    (p.join q).text.toList = p.text.toList ++ (p.separator ++ q.text.toList) := by
  have hcond : (p.text.isEmpty || p.text.endsWith "/") = true ↔
      p.text = "" ∨ ['/'] <:+ p.text.toList := by
    rw [Bool.or_eq_true, endsWith_slash_iff, String.isEmpty_iff]
  rw [join, hq, if_neg Bool.false_ne_true, separator]
  by_cases h : p.text = "" ∨ ['/'] <:+ p.text.toList
  · rw [if_pos (hcond.mpr h), if_pos h, String.toList_append, List.nil_append]
  · rw [if_neg (mt hcond.mp h), if_neg h, String.toList_append, String.toList_append,
      List.append_assoc]
    rfl

theorem text_suffix_join (hq : q.isAbsolute = false) :
    q.text.toList <:+ (p.join q).text.toList := by
  rw [toList_join hq, ← List.append_assoc]
  exact List.suffix_append _ _

theorem eq_slash_of_mem_separator {c : Char} (hc : c ∈ p.separator) : c = '/' := by
  rw [separator] at hc
  split at hc
  · cases hc
  · exact List.mem_singleton.mp hc

/-- More text behind a path leaves its start as it is, unless it turns a lone dot into a
name. -/
theorem splitStart_append {cs ds : List Char} (hne : cs ≠ [])
    (hdot : cs = ['.'] → ∃ rest, ds = '/' :: rest) :
    splitStart (cs ++ ds) = ((splitStart cs).1, (splitStart cs).2 ++ ds) := by
  fun_cases splitStart cs with
  | case1 cs => rfl
  | case2 =>
    obtain ⟨rest, rfl⟩ := hdot rfl
    rfl
  | case3 cs => rfl
  | case4 cs hroot hlone hdotSlash =>
    obtain ⟨c, cs, rfl⟩ := List.exists_cons_of_ne_nil hne
    rw [splitStart]
    · intro rest h
      obtain ⟨rfl, -⟩ := List.cons.inj h
      exact hroot cs rfl
    · intro h
      obtain ⟨rfl, htail⟩ := List.cons.inj h
      obtain rfl : cs = [] := (List.append_eq_nil_iff.mp htail).1
      exact hlone rfl
    · intro rest h
      obtain ⟨rfl, htail⟩ := List.cons.inj h
      cases cs with
      | nil => exact hlone rfl
      | cons d cs =>
        obtain ⟨rfl, -⟩ := List.cons.inj htail
        exact hdotSlash cs rfl

/-- A text goes on after its pieces, less the empty one behind a slash at its end. -/
theorem exists_splitOn_append {cs sep : List Char}
    (h : sep = ['/'] ∨ sep = [] ∧ (cs = [] ∨ ['/'] <:+ cs)) :
    ∃ front, (cs.splitOn '/' = front ∨ cs.splitOn '/' = front ++ [[]]) ∧
      ∀ ds, (cs ++ (sep ++ ds)).splitOn '/' = front ++ ds.splitOn '/' := by
  obtain rfl | ⟨rfl, rfl | ⟨front, rfl⟩⟩ := h
  · exact ⟨_, Or.inl rfl, fun ds => List.splitOn_append_cons_self cs ds⟩
  · exact ⟨[], Or.inr rfl, fun ds => rfl⟩
  · refine ⟨front.splitOn '/', Or.inr (List.splitOn_append_cons_self front []), fun ds => ?_⟩
    rw [List.nil_append, List.append_assoc]
    exact List.splitOn_append_cons_self front ds

theorem separator_cases (p : Path) :
    p.separator = ['/'] ∨ p.separator = [] ∧ (p.text = "" ∨ ['/'] <:+ p.text.toList) := by
  rw [separator]
  by_cases h : p.text = "" ∨ ['/'] <:+ p.text.toList
  · exact Or.inr ⟨if_pos h, h⟩
  · exact Or.inl (if_neg h)

/-- The pieces of a joined path are those of the one in front and of the other. -/
theorem exists_pieces_join (p : Path) :
    ∃ front, (p.pieces = front ∨ p.pieces = front ++ [[]]) ∧
      ∀ q : Path, q.isAbsolute = false → (p.join q).pieces = front ++ q.pieces := by
  have hsep : p.separator = ['/'] ∨ p.separator = [] ∧
      (p.text.toList = [] ∨ ['/'] <:+ p.text.toList) := by
    simpa only [String.toList_eq_nil_iff] using p.separator_cases
  obtain ⟨front, hfront, hmore⟩ := exists_splitOn_append hsep
  refine ⟨front, hfront, fun q hq => ?_⟩
  rw [pieces, toList_join hq, hmore, pieces]

/-- A joined path starts where the one in front does, and its segments are those of the
one in front and the pieces of the other. -/
theorem exists_segmentsFromEnd_join (hp : p.text ≠ "") :
    ∃ tail, (p.segmentsFromEnd = tail ∨ p.segmentsFromEnd = [] :: tail) ∧
      ∀ q : Path, q.isAbsolute = false → (p.join q).start = p.start ∧
        (p.join q).segmentsFromEnd = q.pieces.reverse ++ tail := by
  have hne : p.text.toList ≠ [] := mt String.toList_eq_nil_iff.mp hp
  -- Either a slash is put between, or what follows the start is nothing or ends in one.
  have hsep : p.separator = ['/'] ∨ p.separator = [] ∧
      ((splitStart p.text.toList).2 = [] ∨ ['/'] <:+ (splitStart p.text.toList).2) := by
    obtain hslash | ⟨hnone, hempty | hend⟩ := p.separator_cases
    · exact Or.inl hslash
    · exact absurd hempty hp
    · have hrest : (splitStart p.text.toList).2 <:+ p.text.toList :=
        ⟨_, splitStart_chars_append p.text.toList⟩
      obtain hslash | hrest := List.suffix_or_suffix_of_suffix hend hrest
      · exact Or.inr ⟨hnone, Or.inr hslash⟩
      · obtain hwhole | hnil := List.suffix_cons_iff.mp hrest
        · exact Or.inr ⟨hnone, Or.inr (hwhole ▸ List.suffix_refl _)⟩
        · exact Or.inr ⟨hnone, Or.inl (List.suffix_nil.mp hnil)⟩
  have hdot : p.text.toList = ['.'] → ∀ ds, ∃ rest, p.separator ++ ds = '/' :: rest := by
    intro hdot ds
    obtain hslash | ⟨-, hempty | hend⟩ := p.separator_cases
    · exact ⟨ds, by rw [hslash]; rfl⟩
    · exact absurd hempty hp
    · rw [hdot] at hend
      exact absurd hend (by decide)
  obtain ⟨front, hfront, hmore⟩ := exists_splitOn_append hsep
  refine ⟨front.reverse, ?_, fun q hq => ?_⟩
  · rw [segmentsFromEnd, splitSlash_eq]
    obtain hfront | hfront := hfront
    · exact Or.inl (congrArg List.reverse hfront)
    · right
      rw [hfront, List.reverse_append]
      rfl
  · have hsplit := splitStart_append hne (fun h => hdot h q.text.toList)
    rw [start, segmentsFromEnd, toList_join hq, hsplit, splitSlash_eq, hmore, List.reverse_append]
    exact ⟨rfl, rfl⟩

/-! ### Components -/

/-- The piece that a component stands for, after the start. -/
def Component.piece? : Component → Option String
  | .root | .current => none
  | .up => some ".."
  | .name text => some text

theorem piece?_ofSegment (s : List Char) :
    (Component.ofSegment s).piece? = some (String.ofList s) := by
  rw [Component.ofSegment]
  split
  next hup => rw [hup]; rfl
  next => rfl

/-- The names of a path are its pieces without the trivial ones. -/
theorem filterMap_piece?_components (p : Path) :
    p.components.filterMap Component.piece?
      = (p.pieces.filter (!isTrivial ·)).map String.ofList := by
  have hfront : ∀ segments, (Component.ofFront segments).filterMap Component.piece? = [] := by
    intro segments
    fun_cases Component.ofFront segments <;> rfl
  have hpiece : Component.piece? ∘ Component.ofSegment = fun s => some (String.ofList s) :=
    funext piece?_ofSegment
  rw [components, Component.ofChars, List.filterMap_append, hfront, List.nil_append,
    Component.ofSegments, List.filterMap_map, hpiece, List.filterMap_eq_map', pieces]

theorem root_mem_append_iff {start : Start} {segments : List (List Char)} :
    Component.root ∈ start.components ++ Component.ofSegments segments ↔ start = .root := by
  have hrest : Component.root ∉ Component.ofSegments segments := by
    intro h
    obtain ⟨s, -, hs⟩ := List.mem_map.mp h
    cases (congrArg Component.piece? hs).symm.trans (piece?_ofSegment s)
  rw [List.mem_append, or_iff_left hrest]
  cases start <;> decide

theorem isAbsolute_iff : p.isAbsolute = true ↔ Component.root ∈ p.components := by
  rw [components_eq, root_mem_append_iff, isAbsolute, beq_iff_eq]

/-- What is left of a path without its last segments starts where the path does. -/
theorem isAbsolute_ofSegmentsFromEnd {segments : List (List Char)}
    (hsuffix : segments <:+ p.segmentsFromEnd) :
    (ofSegmentsFromEnd p.start segments).isAbsolute = p.isAbsolute := by
  rw [Bool.eq_iff_iff, isAbsolute_iff, isAbsolute_iff, components_ofSegmentsFromEnd hsuffix,
    components_eq, root_mem_append_iff, root_mem_append_iff]

end Path

namespace FileTree

open BtrfsStore.Path

variable {t : FileTree} {here place : Place} {p q c : Path}

/-! ### Walks to a directory -/

/-- The pieces lead from one directory to another. -/
inductive Reaches (t : FileTree) : Place → List String → Place → Prop
  | here (place : Place) : Reaches t place [] place
  | stay {here place : Place} {s : String} {rest : List String} (hs : s = "" ∨ s = ".")
      (hrest : Reaches t here rest place) : Reaches t here (s :: rest) place
  | up {here place : Place} {rest : List String} (hrest : Reaches t here.dropLast rest place) :
      Reaches t here (".." :: rest) place
  | enter {here place : Place} {s : String} {rest : List String} (hs : ¬(s = "" ∨ s = "."))
      (hup : s ≠ "..") (hshort : s.utf8ByteSize ≤ maxNameBytes)
      (hnode : t.nodeAt (here ++ [s]) = some .directory)
      (hrest : Reaches t (here ++ [s]) rest place) : Reaches t here (s :: rest) place

theorem follow_eq_directory_iff {names : List String} :
    t.follow here names = .ok (.node place .directory) ↔ Reaches t here names place := by
  constructor
  · fun_induction follow t here names with
    | case1 here =>
      rintro ⟨⟩
      exact .here _
    | case2 here s rest hs ih => exact fun h => .stay hs (ih h)
    | case3 here rest hs ih => exact fun h => .up (ih h)
    | case5 here s rest hs hup hshort hnode ih =>
      exact fun h => .enter hs hup (Nat.le_of_not_lt hshort) hnode (ih h)
    | case4 | case6 | case7 | case8 | case9 => exact nofun
  · intro h
    induction h with
    | here place => rfl
    | stay hs _ ih => rw [follow, if_pos hs, ih]
    | up _ ih => rw [follow, if_neg (by decide), if_pos rfl, ih]
    | enter hs hup hshort hnode _ ih =>
      rw [follow, if_neg hs, if_neg hup, if_neg (Nat.not_lt_of_le hshort)]
      simp only [hnode, ih]

/-- A walk that has come to a directory goes on from there. -/
theorem Reaches.follow_append {front : List String} (h : Reaches t here front place)
    (back : List String) : t.follow here (front ++ back) = t.follow place back := by
  induction h with
  | here place => rfl
  | stay hs _ ih => rw [List.cons_append, follow, if_pos hs, ih]
  | up _ ih => rw [List.cons_append, follow, if_neg (by decide), if_pos rfl, ih]
  | enter hs hup hshort hnode _ ih =>
    rw [List.cons_append, follow, if_neg hs, if_neg hup, if_neg (Nat.not_lt_of_le hshort)]
    simp only [hnode, ih]

/-- Trivial pieces change nothing on a walk to a directory. -/
theorem reaches_filter_iff {names : List String} :
    Reaches t here (names.filter fun s => ¬(s = "" ∨ s = ".")) place ↔
      Reaches t here names place := by
  induction names generalizing here with
  | nil => exact Iff.rfl
  | cons s rest ih =>
    by_cases hs : s = "" ∨ s = "."
    · rw [List.filter_cons_of_neg (by rwa [decide_eq_true_eq, not_not]), ih]
      constructor
      · exact .stay hs
      · intro h
        cases h with
        | stay _ hrest => exact hrest
        | up hrest => exact absurd hs (by decide)
        | enter hname => exact absurd hs hname
    · rw [List.filter_cons_of_pos (by rwa [decide_eq_true_eq])]
      constructor
      · intro h
        cases h with
        | stay htrivial => exact absurd htrivial hs
        | up hrest => exact .up (ih.mp hrest)
        | enter _ hup hshort hnode hrest => exact .enter hs hup hshort hnode (ih.mp hrest)
      · intro h
        cases h with
        | stay htrivial => exact absurd htrivial hs
        | up hrest => exact .up (ih.mpr hrest)
        | enter _ hup hshort hnode hrest => exact .enter hs hup hshort hnode (ih.mpr hrest)

theorem isTrivial_iff_ofList {s : List Char} :
    isTrivial s = true ↔ String.ofList s = "" ∨ String.ofList s = "." := by
  rw [isTrivial_iff, ← String.toList_inj, ← String.toList_inj, String.toList_ofList]
  rfl

/-! ### Walking a path -/

/-- A path that is walked at all. -/
structure Walkable (p : Path) : Prop where
  ne_empty : p.text ≠ ""
  noNul : Char.ofNat 0 ∉ p.text.toList
  fits : p.text.utf8ByteSize ≤ maxPathBytes

/-- The directory where a path starts. -/
def base (t : FileTree) (p : Path) : Place := if p.isAbsolute then [] else t.current

/-- A path that the system accepts is walked piece by piece. -/
theorem Walkable.walk_eq (h : Walkable p) :
    t.walk p = t.follow (t.base p) (p.pieces.map String.ofList) := by
  rw [walk, if_neg (by simpa using h.ne_empty), if_neg (by simpa using h.noNul),
    if_neg (Nat.not_lt_of_le h.fits), splitSlash_eq]
  rfl

theorem Walkable.of_walk {target : Target} (h : t.walk p = .ok target) : Walkable p := by
  rw [walk] at h
  split at h
  next => cases h
  next hne =>
    split at h
    next => cases h
    next hnul =>
      split at h
      next => cases h
      next hfits =>
        exact ⟨by simpa using hne, by simpa using hnul, Nat.le_of_not_lt hfits⟩

/-- Whether a path leads to a directory depends on its components. -/
theorem walk_directory_iff :
    t.walk p = .ok (.node place .directory) ↔
      Walkable p ∧ Reaches t (t.base p) (p.components.filterMap Component.piece?) place := by
  have hnames : p.components.filterMap Component.piece?
      = (p.pieces.map String.ofList).filter fun s => ¬(s = "" ∨ s = ".") := by
    rw [filterMap_piece?_components, List.filter_map]
    simp only [Function.comp_def, ← isTrivial_iff_ofList, Bool.not_eq_true, Bool.decide_eq_false]
  rw [hnames, reaches_filter_iff, ← follow_eq_directory_iff]
  constructor
  · intro h
    have hwalk := Walkable.of_walk h
    exact ⟨hwalk, hwalk.walk_eq.symm.trans h⟩
  · rintro ⟨hwalk, h⟩
    exact hwalk.walk_eq.trans h

/-- A path with a NUL leads nowhere. -/
theorem walk_of_nul (hne : p.text ≠ "") (hnul : Char.ofNat 0 ∈ p.text.toList) :
    t.walk p = .error .nulInPath := by
  rw [walk, if_neg (by simpa using hne), if_pos (by simpa using hnul)]

/-- A relative path leads where it leads when it is joined to the current directory. -/
theorem walk_join (hc : t.walk c = .ok (.node t.current .directory)) (hp : p.isAbsolute = false)
    (hne : p.text ≠ "") (hfits : (c.join p).text.utf8ByteSize ≤ maxPathBytes) :
    t.walk (c.join p) = t.walk p := by
  have hwalkable : Walkable c := .of_walk hc
  rw [hwalkable.walk_eq, follow_eq_directory_iff] at hc
  have htext := toList_join (p := c) hp
  have hsuffix : p.text.toList <:+ (c.join p).text.toList := text_suffix_join hp
  have hjoinNe : (c.join p).text ≠ "" := by
    intro h
    rw [h] at hsuffix
    exact hne (String.toList_eq_nil_iff.mp (List.suffix_nil.mp hsuffix))
  -- With a NUL in it, either path is refused.
  by_cases hnul : Char.ofNat 0 ∈ p.text.toList
  · rw [walk_of_nul hne hnul, walk_of_nul hjoinNe (hsuffix.mem hnul)]
  have hjoined : Walkable (c.join p) := by
    refine ⟨hjoinNe, ?_, hfits⟩
    rw [htext, List.mem_append, List.mem_append, not_or, not_or]
    exact ⟨hwalkable.noNul, fun h => absurd (eq_slash_of_mem_separator h) (by decide), hnul⟩
  have hwalk : Walkable p :=
    ⟨hne, hnul, Nat.le_trans (utf8ByteSize_le_of_isInfix hsuffix.isInfix) hfits⟩
  obtain ⟨front, hfront, hpieces⟩ := c.exists_pieces_join
  -- What stands before the joined path leads to the current directory.
  have hreach : Reaches t (t.base c) (front.map String.ofList) t.current := by
    obtain hfront | hfront := hfront
    · rwa [hfront] at hc
    · rw [hfront, List.map_append, ← reaches_filter_iff, List.filter_append] at hc
      rw [← reaches_filter_iff]
      simpa using hc
  have hbase : t.base (c.join p) = t.base c := by
    obtain ⟨tail, -, hjoin⟩ := exists_segmentsFromEnd_join hwalkable.ne_empty
    rw [base, base, isAbsolute, isAbsolute, (hjoin p hp).1]
  rw [hjoined.walk_eq, hwalk.walk_eq, hbase, hpieces p hp, List.map_append,
    hreach.follow_append, base, hp, if_neg Bool.false_ne_true]

/-- The trivial segments at the end of a path to a directory say nothing. -/
theorem walk_trimmed (h : t.walk p = .ok (.node place .directory)) :
    t.walk p.trimmed = .ok (.node place .directory) := by
  obtain ⟨hwalk, hreach⟩ := walk_directory_iff.mp h
  have hsuffix := List.suffix_refl p.segmentsFromEnd
  have hcomponents : p.trimmed.components = p.components :=
    (components_ofSegmentsFromEnd hsuffix).trans p.components_eq.symm
  have hbegins : p.trimmed.text.toList <+: p.text.toList := ofSegmentsFromEnd_isPrefix hsuffix
  have hbase : t.base p.trimmed = t.base p := by
    rw [base, base, trimmed, isAbsolute_ofSegmentsFromEnd hsuffix]
  refine walk_directory_iff.mpr ⟨⟨?_, ?_, ?_⟩, ?_⟩
  · rw [Ne, ← components_eq_nil_iff, hcomponents, components_eq_nil_iff]
    exact hwalk.ne_empty
  · exact fun hnul => hwalk.noNul (hbegins.mem hnul)
  · exact Nat.le_trans (utf8ByteSize_le_of_isInfix hbegins.isInfix) hwalk.fits
  · rw [hbase, hcomponents]
    exact hreach

/-! ### Places -/

/-- The place to which a path leads, if there is something. -/
def place? (t : FileTree) (p : Path) : Option Place :=
  match t.walk p with
  | .ok (.node place _) => some place
  | _ => none

theorem place?_of_walk {node : Node} (h : t.walk p = .ok (.node place node)) :
    t.place? p = some place := by
  rw [place?, h]

theorem pathExists_eq (t : FileTree) (p : Path) : t.pathExists p = (t.place? p).isSome := by
  rw [pathExists, place?]
  generalize t.walk p = walked
  cases walked with
  | error fault => rfl
  | ok target => cases target <;> rfl

end FileTree

end BtrfsStore
