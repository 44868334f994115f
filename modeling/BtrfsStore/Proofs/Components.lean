import Mathlib.Data.List.Basic
import BtrfsStore.Path
/-!
# BtrfsStore.Proofs.Components

What a path says, apart from how it is spelled: its *components*. They are the root or
the current directory where the path begins with one, then a name or an upward
step for each segment that is not trivial. Two spellings of one path, such as `a//b/./`
and `a/b`, have the same components.

The operations that take paths apart and put them together are described through this
view. The last component decides what a path ends in (`ending`): its file name and its
parent are read off there. A child has one component more than its directory
(`components_child`). What carries `ending` is `components_ofSegmentsFromEnd`: the text
that is put together from a start and segments has the components of the two, for
segments that can stand after that start (`Start.Fits`).
-/

namespace BtrfsStore.Path

/-- A component of a path. -/
inductive Component where
  /-- The root directory, at the beginning only. -/
  | root
  /-- The current directory, at the beginning only. -/
  | current
  /-- The directory above. -/
  | up
  /-- A name in a directory. -/
  | name (text : String)
  deriving Repr, DecidableEq

namespace Component

/-- The component that the first segments of a text stand for beside those of each
segment. -/
def ofFront : List (List Char) → List Component
  | [] :: _ :: _ => [.root]
  | ['.'] :: _ => [.current]
  | _ => []

/-- The component that a segment stands for, if it is not trivial. -/
def ofSegment (segment : List Char) : Component :=
  if segment = ['.', '.'] then .up else .name (String.ofList segment)

/-- The components that segments stand for, one by one. -/
def ofSegments (segments : List (List Char)) : List Component :=
  (segments.filter (!isTrivial ·)).map ofSegment

/-- The components that a text stands for. -/
def ofChars (cs : List Char) : List Component :=
  let segments := cs.splitOn '/'
  ofFront segments ++ ofSegments segments

end Component

open Component

/-- The components of a path. -/
def components (p : Path) : List Component := ofChars p.text.toList

example : components ⟨"./a//b/./.."⟩ = [.current, .name "a", .name "b", .up] := by decide

/-- The components that a start stands for. -/
def Start.components : Start → List Component
  | .root => [.root]
  | .dot => [.current]
  | .implicit => []

/-! ### Segments -/

theorem splitSlash_eq (cs : List Char) : splitSlash cs = cs.splitOn '/' := by
  induction cs with
  | nil => rfl
  | cons c cs ih =>
    rw [splitSlash, List.splitOn_cons_eq_if_modifyHead, ih]
    by_cases hc : c = '/'
    · simp only [hc, if_true, beq_self_eq_true]
    · simp only [hc, if_false, beq_iff_eq]
      cases hsplit : cs.splitOn '/' with
      | nil => exact absurd hsplit (List.splitOn_ne_nil '/' cs)
      | cons s ss => rfl

theorem joinSlash_eq (segments : List (List Char)) :
    joinSlash segments = ['/'].intercalate segments := by
  induction segments with
  | nil => rfl
  | cons s ss ih =>
    cases ss with
    | nil => rw [joinSlash, List.intercalate_singleton]
    | cons t ts =>
      rw [joinSlash, ih, List.intercalate_cons_cons, List.append_assoc, List.singleton_append]
      exact List.cons_ne_nil t ts

theorem slash_notMem_of_mem_splitOn {cs s : List Char} (hs : s ∈ cs.splitOn '/') : '/' ∉ s := by
  induction cs generalizing s with
  | nil =>
    rw [List.splitOn_nil, List.mem_singleton] at hs
    rw [hs]
    exact List.not_mem_nil
  | cons c cs ih =>
    rw [List.splitOn_cons_eq_if_modifyHead] at hs
    by_cases hc : c = '/'
    · rw [hc, beq_self_eq_true, if_pos rfl, List.mem_cons] at hs
      obtain rfl | hs := hs
      · exact List.not_mem_nil
      · exact ih hs
    · rw [if_neg (by simpa using hc)] at hs
      cases hsplit : cs.splitOn '/' with
      | nil => exact absurd hsplit (List.splitOn_ne_nil '/' cs)
      | cons t ts =>
        rw [hsplit] at ih hs
        obtain rfl | hs := List.mem_cons.mp hs
        · rw [List.mem_cons, not_or]
          exact ⟨Ne.symm hc, ih List.mem_cons_self⟩
        · exact ih (List.mem_cons_of_mem t hs)

theorem isTrivial_iff {segment : List Char} :
    isTrivial segment = true ↔ segment = [] ∨ segment = ['.'] := by
  simp [isTrivial]

theorem ofSegments_cons_of_trivial {s : List Char} (ss : List (List Char))
    (hs : isTrivial s = true) : ofSegments (s :: ss) = ofSegments ss := by
  rw [ofSegments, List.filter_cons_of_neg (by simpa using hs), ofSegments]

/-- Segments become components one by one. -/
theorem ofSegments_append (front back : List (List Char)) :
    ofSegments (front ++ back) = ofSegments front ++ ofSegments back := by
  rw [ofSegments, List.filter_append, List.map_append, ofSegments, ofSegments]

theorem ofSegments_singleton {s : List Char} (hs : isTrivial s = false) :
    ofSegments [s] = [ofSegment s] := by
  rw [ofSegments, List.filter_cons_of_pos (by simpa using hs), List.filter_nil, List.map_singleton]

/-- Trivial segments at the end stand for nothing. -/
theorem ofSegments_reverse_dropWhile (segments : List (List Char)) :
    ofSegments (segments.dropWhile isTrivial).reverse = ofSegments segments.reverse := by
  induction segments with
  | nil => rfl
  | cons s ss ih =>
    by_cases hs : isTrivial s = true
    · rw [List.dropWhile_cons_of_pos hs, ih, List.reverse_cons, ofSegments_append,
        ofSegments_cons_of_trivial [] hs]
      exact (List.append_nil _).symm
    · rw [List.dropWhile_cons_of_neg hs]

theorem splitOn_slash_cons (cs : List Char) :
    ('/' :: cs).splitOn '/' = [] :: cs.splitOn '/' :=
  List.splitOn_append_cons_self_of_not_mem List.not_mem_nil cs

theorem splitOn_dot_slash_cons (cs : List Char) :
    ('.' :: '/' :: cs).splitOn '/' = ['.'] :: cs.splitOn '/' :=
  List.splitOn_append_cons_self_of_not_mem (by decide : '/' ∉ ['.']) cs

theorem splitOn_joinSlash {segments : List (List Char)} (hne : segments ≠ [])
    (hslash : ∀ s ∈ segments, '/' ∉ s) : (joinSlash segments).splitOn '/' = segments := by
  rw [joinSlash_eq, List.splitOn_intercalate '/' hslash hne]

/-! ### Starts -/

/-- The segments that can stand after a start: what follows a written `.` begins with a
slash, and what has no start begins with a segment of its own or is empty. -/
def Start.Fits (segments : List (List Char)) : Start → Prop
  | .root => True
  | .dot => ∀ s ∈ segments.head?, s = []
  | .implicit => segments = [[]] ∨ ∀ s ∈ segments.head?, isTrivial s = false

/-- A trivial first segment makes a start of its own, unless there is nothing else. -/
theorem fits_splitStart (cs : List Char) :
    (splitStart cs).1.Fits ((splitStart cs).2.splitOn '/') := by
  fun_cases splitStart cs with
  | case1 cs => exact True.intro
  | case2 =>
    intro s hs
    exact (Option.some.inj hs).symm
  | case3 cs =>
    intro s hs
    rw [splitOn_slash_cons] at hs
    exact (Option.some.inj hs).symm
  | case4 cs hroot hdot hdotSlash =>
    have hcs : ['/'].intercalate (cs.splitOn '/') = cs := List.intercalate_splitOn '/'
    show cs.splitOn '/' = [[]] ∨ ∀ s ∈ (cs.splitOn '/').head?, isTrivial s = false
    generalize cs.splitOn '/' = segments at hcs
    by_cases hs : ∃ s ∈ segments.head?, isTrivial s = true
    · left
      obtain ⟨s, hs, htrivial⟩ := hs
      obtain ⟨ss, rfl⟩ := List.head?_eq_some_iff.mp hs
      -- With more after it, the segment and the slash behind it would be the start.
      cases ss with
      | nil =>
        obtain rfl | rfl := isTrivial_iff.mp htrivial
        · rfl
        · exact absurd hcs.symm hdot
      | cons t ts =>
        rw [List.intercalate_cons_cons] at hcs
        obtain rfl | rfl := isTrivial_iff.mp htrivial
        · exact absurd hcs.symm (hroot _)
        · exact absurd hcs.symm (hdotSlash _)
    · right
      intro s hmem
      rw [Bool.eq_false_iff]
      exact fun htrivial => hs ⟨s, hmem, htrivial⟩

/-- Segments that need no start stand for nothing else. -/
theorem ofFront_of_fits {segments : List (List Char)}
    (hfits : Start.implicit.Fits segments) : ofFront segments = [] := by
  obtain rfl | hfirst := hfits
  · rfl
  · fun_cases ofFront segments with
    | case1 s ss => exact absurd (hfirst [] rfl) (by decide)
    | case2 ss => exact absurd (hfirst ['.'] rfl) (by decide)
    | case3 => rfl

theorem Start.Fits.of_prefix {start : Start} {front segments : List (List Char)}
    (hfits : start.Fits segments) (hfront : front <+: segments) : start.Fits front := by
  have hhead : ∀ s ∈ front.head?, s ∈ segments.head? := by
    obtain ⟨back, rfl⟩ := hfront
    cases front with
    | nil => exact fun s hs => nomatch hs
    | cons t ts => exact fun s hs => hs
  cases start with
  | root => exact True.intro
  | dot => exact fun s hs => hfits s (hhead s hs)
  | implicit =>
    obtain rfl | hfirst := hfits
    · obtain rfl | ⟨rest, rfl, hrest⟩ := List.prefix_cons_iff.mp hfront
      · exact Or.inr fun s hs => nomatch hs
      · rw [List.prefix_nil.mp hrest]
        exact Or.inl rfl
    · exact Or.inr fun s hs => hfirst s (hhead s hs)

/-! ### Texts with a start -/

theorem ofChars_slash_cons (cs : List Char) :
    ofChars ('/' :: cs) = .root :: ofSegments (cs.splitOn '/') := by
  rw [ofChars, splitOn_slash_cons]
  cases hsplit : cs.splitOn '/' with
  | nil => exact absurd hsplit (List.splitOn_ne_nil '/' cs)
  | cons s ss => rfl

theorem ofChars_dot_slash_cons (cs : List Char) :
    ofChars ('.' :: '/' :: cs) = .current :: ofSegments (cs.splitOn '/') := by
  rw [ofChars, splitOn_dot_slash_cons]
  rfl

theorem ofChars_of_fits {cs : List Char} (hfits : Start.implicit.Fits (cs.splitOn '/')) :
    ofChars cs = ofSegments (cs.splitOn '/') := by
  rw [ofChars]
  show ofFront _ ++ _ = _
  rw [ofFront_of_fits hfits, List.nil_append]

/-- What a text says is what its start and the segments after it say. -/
theorem ofChars_eq (cs : List Char) :
    ofChars cs = (splitStart cs).1.components ++ ofSegments ((splitStart cs).2.splitOn '/') := by
  have hfits := fits_splitStart cs
  revert hfits
  fun_cases splitStart cs with
  | case1 cs => exact fun _ => ofChars_slash_cons cs
  | case2 => exact fun _ => by decide
  | case3 cs =>
    intro _
    show _ = _ ++ ofSegments (('/' :: cs).splitOn '/')
    rw [ofChars_dot_slash_cons, splitOn_slash_cons]
    rfl
  | case4 cs => exact ofChars_of_fits

/-- A text that is put together from a start and segments says what the two say. -/
theorem ofChars_chars_append {start : Start} {segments : List (List Char)}
    (hfits : start.Fits segments) (hslash : ∀ s ∈ segments, '/' ∉ s) :
    ofChars (start.chars ++ joinSlash segments) = start.components ++ ofSegments segments := by
  cases start with
  | root =>
    rw [Start.chars, List.singleton_append, ofChars_slash_cons]
    cases segments with
    | nil => rfl
    | cons s ss =>
      rw [splitOn_joinSlash (List.cons_ne_nil s ss) hslash]
      rfl
  | dot =>
    cases segments with
    | nil => decide
    | cons s ss =>
      obtain rfl : s = [] := hfits s rfl
      cases ss with
      | nil => decide
      | cons t ts =>
        show ofChars ('.' :: '/' :: joinSlash (t :: ts)) = _
        rw [ofChars_dot_slash_cons, splitOn_joinSlash (List.cons_ne_nil t ts)
          fun s hs => hslash s (List.mem_cons_of_mem [] hs)]
        rfl
  | implicit =>
    cases segments with
    | nil => rfl
    | cons s ss =>
      have hsplit := splitOn_joinSlash (List.cons_ne_nil s ss) hslash
      show ofChars (joinSlash (s :: ss)) = ofSegments (s :: ss)
      rw [ofChars_of_fits (hsplit.symm ▸ hfits), hsplit]

/-! ### Taking paths apart -/

/-- The components of a path are those of its start and of its segments. -/
theorem components_eq (p : Path) :
    p.components = p.start.components ++ ofSegments p.segmentsFromEnd.reverse := by
  rw [components, ofChars_eq, start, segmentsFromEnd, List.reverse_reverse, splitSlash_eq]

theorem fits_segmentsFromEnd (p : Path) : p.start.Fits p.segmentsFromEnd.reverse := by
  rw [start, segmentsFromEnd, List.reverse_reverse, splitSlash_eq]
  exact fits_splitStart p.text.toList

theorem slash_notMem_of_mem_segmentsFromEnd {p : Path} {s : List Char}
    (hs : s ∈ p.segmentsFromEnd) : '/' ∉ s := by
  rw [segmentsFromEnd, List.mem_reverse, splitSlash_eq] at hs
  exact slash_notMem_of_mem_splitOn hs

/-- What is left of a path without its last segments says what the other ones say. -/
theorem components_ofSegmentsFromEnd {p : Path} {segments : List (List Char)}
    (hsuffix : segments <:+ p.segmentsFromEnd) :
    (ofSegmentsFromEnd p.start segments).components
      = p.start.components ++ ofSegments segments.reverse := by
  have hkept : segments.dropWhile isTrivial <:+ p.segmentsFromEnd :=
    (List.dropWhile_suffix isTrivial).trans hsuffix
  have hfits : p.start.Fits (segments.dropWhile isTrivial).reverse :=
    p.fits_segmentsFromEnd.of_prefix (List.reverse_prefix.mpr hkept)
  have hslash : ∀ s ∈ (segments.dropWhile isTrivial).reverse, '/' ∉ s := fun s hs =>
    slash_notMem_of_mem_segmentsFromEnd (hkept.mem (List.mem_reverse.mp hs))
  rw [ofSegmentsFromEnd, components, String.toList_ofList, ofChars_chars_append hfits hslash,
    ofSegments_reverse_dropWhile]

theorem isTrivial_eq_false_of_dropWhile {segments ss : List (List Char)} {s : List Char}
    (h : segments.dropWhile isTrivial = s :: ss) : isTrivial s = false := by
  have hhead := List.head?_dropWhile_not isTrivial segments
  rw [h] at hhead
  simpa using hhead

/-- The nearest parent is what stands before the last segment that is not trivial. -/
theorem parentsOf_of_dropWhile {start : Start} {segments ss : List (List Char)} {s : List Char}
    (h : segments.dropWhile isTrivial = s :: ss) :
    parentsOf start segments = ofSegmentsFromEnd start ss :: parentsOf start ss := by
  induction segments with
  | nil => cases h
  | cons t ts ih =>
    rw [parentsOf]
    by_cases ht : isTrivial t = true
    · rw [List.dropWhile_cons_of_pos ht] at h
      rw [if_pos ht, ih h]
    · rw [List.dropWhile_cons_of_neg ht] at h
      obtain ⟨-, rfl⟩ := List.cons.inj h
      rw [if_neg ht]

/-- The parents are what is left when the last segments are taken away one by one, down
to what stands before a written `.`. -/
theorem mem_parentsOf {start : Start} {segments : List (List Char)} {q : Path}
    (hq : q ∈ parentsOf start segments) :
    q = ⟨""⟩ ∨ ∃ ss, ss <:+ segments ∧ q = ofSegmentsFromEnd start ss := by
  induction segments with
  | nil =>
    cases start with
    | dot => exact Or.inl (List.mem_singleton.mp hq)
    | root => cases hq
    | implicit => cases hq
  | cons s ss ih =>
    have hrest : q ∈ parentsOf start ss →
        q = ⟨""⟩ ∨ ∃ ts, ts <:+ s :: ss ∧ q = ofSegmentsFromEnd start ts := by
      intro hq
      obtain hempty | ⟨ts, hts, hsame⟩ := ih hq
      · exact Or.inl hempty
      · exact Or.inr ⟨ts, hts.trans (List.suffix_cons s ss), hsame⟩
    rw [parentsOf] at hq
    by_cases hs : isTrivial s = true
    · rw [if_pos hs] at hq
      exact hrest hq
    · rw [if_neg hs] at hq
      obtain rfl | hq := List.mem_cons.mp hq
      · exact Or.inr ⟨ss, List.suffix_cons s ss, rfl⟩
      · exact hrest hq

/-- An ancestor says the beginning of what the path says. -/
theorem components_prefix_of_mem_ancestors {p q : Path} (hq : q ∈ p.ancestors) :
    q.components <+: p.components := by
  obtain rfl | hq := List.mem_cons.mp hq
  · exact List.prefix_refl _
  · obtain rfl | ⟨ss, hsuffix, rfl⟩ := mem_parentsOf hq
    · exact List.nil_prefix
    · obtain ⟨rest, hrest⟩ := List.reverse_prefix.mpr hsuffix
      rw [components_ofSegmentsFromEnd hsuffix, components_eq, ← hrest, ofSegments_append,
        ← List.append_assoc]
      exact List.prefix_append _ _

/-- A text that can stand as a name in a directory. -/
structure IsName (name : String) : Prop where
  noSlash : '/' ∉ name.toList
  ne_empty : name ≠ ""
  ne_dot : name ≠ "."
  ne_up : name ≠ ".."

theorem isName_ofList {s : List Char} (hslash : '/' ∉ s) (htrivial : isTrivial s = false)
    (hup : s ≠ ['.', '.']) : IsName (String.ofList s) := by
  rw [Bool.eq_false_iff, Ne, isTrivial_iff, not_or] at htrivial
  refine ⟨by rwa [String.toList_ofList], ?_, ?_, ?_⟩
  · exact fun h => htrivial.1 (by simpa using congrArg String.toList h)
  · exact fun h => htrivial.2 (by simpa using congrArg String.toList h)
  · exact fun h => hup (by simpa using congrArg String.toList h)

theorem IsName.isTrivial_eq_false {name : String} (h : IsName name) :
    isTrivial name.toList = false := by
  rw [Bool.eq_false_iff, Ne, isTrivial_iff, not_or]
  exact ⟨fun hnil => h.ne_empty (String.toList_inj.mp hnil),
    fun hdot => h.ne_dot (String.toList_inj.mp hdot)⟩

theorem IsName.ofSegment_toList {name : String} (h : IsName name) :
    ofSegment name.toList = .name name := by
  have hup : name.toList ≠ ['.', '.'] := fun hup => h.ne_up (String.toList_inj.mp hup)
  rw [ofSegment, if_neg hup, String.ofList_toList]

theorem IsName.ofSegments_toList {name : String} (h : IsName name) :
    ofSegments [name.toList] = [.name name] := by
  rw [ofSegments_singleton h.isTrivial_eq_false, h.ofSegment_toList]

/-- What a path ends in. -/
inductive Ending (p : Path) : Prop
  /-- There is nothing after the start. -/
  | start (hcomponents : p.components = p.start.components) (hfileName : p.fileName = none)
  /-- The last segment leads up. -/
  | up {dir : Path} (hparent : p.parent = some dir)
      (hcomponents : p.components = dir.components ++ [.up]) (hfileName : p.fileName = none)
  /-- The last segment is a name. -/
  | name {dir : Path} {name : String} (hparent : p.parent = some dir)
      (hcomponents : p.components = dir.components ++ [.name name])
      (hfileName : p.fileName = some name) (hname : IsName name)

/-- Every path ends in one of three ways. -/
theorem ending (p : Path) : Ending p := by
  cases hkept : p.segmentsFromEnd.dropWhile isTrivial with
  | nil =>
    refine .start ?_ ?_
    · rw [components_eq, ← ofSegments_reverse_dropWhile, hkept]
      exact List.append_nil _
    · rw [fileName, hkept]
  | cons s ss =>
    have hs : isTrivial s = false := isTrivial_eq_false_of_dropWhile hkept
    have hsuffix : s :: ss <:+ p.segmentsFromEnd := hkept ▸ List.dropWhile_suffix isTrivial
    have hparent : p.parent = some (ofSegmentsFromEnd p.start ss) := by
      rw [parent, parents, parentsOf_of_dropWhile hkept, List.head?_cons]
    have hcomponents :
        p.components = (ofSegmentsFromEnd p.start ss).components ++ [ofSegment s] := by
      rw [components_ofSegmentsFromEnd ((List.suffix_cons s ss).trans hsuffix), components_eq,
        ← ofSegments_reverse_dropWhile, hkept, List.reverse_cons, ofSegments_append,
        ofSegments_singleton hs, List.append_assoc]
    by_cases hup : s = ['.', '.']
    · rw [ofSegment, if_pos hup] at hcomponents
      refine .up hparent hcomponents ?_
      rw [fileName, hkept]
      exact if_pos hup
    · rw [ofSegment, if_neg hup] at hcomponents
      refine .name hparent hcomponents ?_ ?_
      · rw [fileName, hkept]
        exact if_neg hup
      · exact isName_ofList (slash_notMem_of_mem_segmentsFromEnd (hsuffix.mem List.mem_cons_self))
          hs hup

theorem Start.components_ne_concat {start : Start} {front : List Component} {c : Component}
    (hroot : c ≠ .root) (hcurrent : c ≠ .current) : start.components ≠ front ++ [c] := by
  intro h
  have hc : c ∈ start.components := h ▸ List.mem_append_right front (List.mem_singleton_self c)
  cases start with
  | root => exact hroot (List.mem_singleton.mp hc)
  | dot => exact hcurrent (List.mem_singleton.mp hc)
  | implicit => cases hc

/-- A file name stands in the parent of the path. -/
theorem exists_parent_of_fileName {p : Path} {name : String} (h : p.fileName = some name) :
    ∃ dir, p.parent = some dir ∧ p.components = dir.components ++ [.name name] ∧ IsName name := by
  cases p.ending with
  | start _ hfileName => cases hfileName.symm.trans h
  | up _ _ hfileName => cases hfileName.symm.trans h
  | name hparent hcomponents hfileName hname =>
    obtain rfl := Option.some.inj (hfileName.symm.trans h)
    exact ⟨_, hparent, hcomponents, hname⟩

/-- The file name is the last component, if this is a name. -/
theorem fileName_eq_some_iff {p : Path} {name : String} :
    p.fileName = some name ↔ ∃ front, p.components = front ++ [.name name] := by
  constructor
  · intro h
    obtain ⟨dir, -, hcomponents, -⟩ := exists_parent_of_fileName h
    exact ⟨dir.components, hcomponents⟩
  · rintro ⟨front, h⟩
    cases p.ending with
    | start hcomponents _ =>
      exact absurd (hcomponents.symm.trans h) (Start.components_ne_concat nofun nofun)
    | up _ hcomponents _ => cases (List.append_inj' (hcomponents.symm.trans h) rfl).2
    | name _ hcomponents hfileName _ =>
      cases (List.append_inj' (hcomponents.symm.trans h) rfl).2
      exact hfileName

/-- The path does not end in a name. -/
def Nameless (p : Path) : Prop := ∀ front name, p.components ≠ front ++ [.name name]

/-- A path has no file name if no name ends it. -/
theorem fileName_eq_none_iff {p : Path} : p.fileName = none ↔ p.Nameless := by
  rw [Option.eq_none_iff_forall_ne_some]
  constructor
  · intro h front name hcomponents
    exact h name (fileName_eq_some_iff.mpr ⟨front, hcomponents⟩)
  · intro h name hname
    obtain ⟨front, hcomponents⟩ := fileName_eq_some_iff.mp hname
    exact h front name hcomponents

theorem ofChars_eq_nil_iff {cs : List Char} : ofChars cs = [] ↔ cs = [] := by
  constructor
  · intro h
    rw [ofChars_eq] at h
    have hfits := fits_splitStart cs
    revert h hfits
    fun_cases splitStart cs with
    | case1 cs => exact nofun
    | case2 => exact nofun
    | case3 cs => exact nofun
    | case4 cs =>
      intro h hfits
      have hcs : ['/'].intercalate (cs.splitOn '/') = cs := List.intercalate_splitOn '/'
      change ofSegments (cs.splitOn '/') = [] at h
      change cs.splitOn '/' = [[]] ∨ ∀ s ∈ (cs.splitOn '/').head?, isTrivial s = false at hfits
      generalize cs.splitOn '/' = segments at h hcs hfits
      obtain rfl | hfirst := hfits
      · exact hcs.symm
      · cases segments with
        | nil => exact hcs.symm
        | cons s ss =>
          have hs : ofSegments [s] ++ ofSegments ss = [] := (ofSegments_append [s] ss).symm.trans h
          rw [ofSegments_singleton (hfirst s rfl)] at hs
          cases hs
  · rintro rfl
    rfl

/-- Only the empty path says nothing. -/
theorem components_eq_nil_iff {p : Path} : p.components = [] ↔ p.text = "" := by
  rw [components, ofChars_eq_nil_iff]
  exact ⟨fun h => String.toList_inj.mp h, fun h => congrArg String.toList h⟩

/-! ### Putting paths together -/

/-- What a text begins with does not depend on what comes later. -/
theorem ofFront_append {segments : List (List Char)} (more : List (List Char))
    (hnil : segments ≠ []) (hempty : segments ≠ [[]]) :
    ofFront (segments ++ more) = ofFront segments := by
  cases segments with
  | nil => exact absurd rfl hnil
  | cons s ss =>
    cases s with
    | nil =>
      cases ss with
      | nil => exact absurd rfl hempty
      | cons t ts => rfl
    | cons c cs =>
      by_cases hdot : c :: cs = ['.']
      · rw [hdot]
        rfl
      · have hother : ∀ rest, ofFront ((c :: cs) :: rest) = [] := by
          intro rest
          rw [ofFront]
          · exact fun _ _ h => nomatch h
          · exact fun _ h => hdot (List.cons.inj h).1
        rw [List.cons_append, hother, hother]

/-- One more segment behind a text. -/
theorem ofChars_append_slash_cons {cs name : List Char} (hcs : cs ≠ []) (hslash : '/' ∉ name) :
    ofChars (cs ++ '/' :: name) = ofChars cs ++ ofSegments [name] := by
  have hempty : cs.splitOn '/' ≠ [[]] := by
    intro h
    have hback : ['/'].intercalate (cs.splitOn '/') = cs := List.intercalate_splitOn '/'
    rw [h] at hback
    exact hcs hback.symm
  rw [ofChars, List.splitOn_append_cons_self, List.splitOn_eq_singleton hslash, ofChars,
    ofSegments_append, ofFront_append _ (List.splitOn_ne_nil '/' cs) hempty, List.append_assoc]

/-- A slash at the end of a text says nothing, except for the root. -/
theorem ofChars_concat_slash_append {cs name : List Char} (hslash : '/' ∉ name) :
    ofChars ((cs ++ ['/']) ++ name) = ofChars (cs ++ ['/']) ++ ofSegments [name] := by
  rw [List.append_assoc, List.singleton_append]
  cases cs with
  | nil =>
    rw [List.nil_append, List.nil_append, ofChars_slash_cons, List.splitOn_eq_singleton hslash]
    rfl
  | cons c cs =>
    rw [ofChars_append_slash_cons (List.cons_ne_nil c cs) hslash,
      ofChars_append_slash_cons (List.cons_ne_nil c cs) List.not_mem_nil]
    exact congrArg (· ++ _) (List.append_nil _).symm

theorem IsName.isAbsolute_eq_false {name : String} (h : IsName name) :
    isAbsolute ⟨name⟩ = false := by
  have hslash := h.noSlash
  rw [isAbsolute, start]
  revert hslash
  fun_cases splitStart name.toList with
  | case1 cs => exact fun hslash => absurd List.mem_cons_self hslash
  | case2 => exact fun _ => rfl
  | case3 cs => exact fun _ => rfl
  | case4 => exact fun _ => rfl

theorem endsWith_slash_iff {s : String} : s.endsWith "/" = true ↔ ['/'] <:+ s.toList := by
  rw [← String.endsWith_toSlice, String.Slice.endsWith_string_iff, String.copy_toSlice]
  rfl

/-- A child has the name as its one component more. -/
theorem components_child (dir : Path) {name : String} (hname : IsName name) :
    (dir.child name).components = dir.components ++ [.name name] := by
  rw [child, join, hname.isAbsolute_eq_false, if_neg Bool.false_ne_true, components, components,
    ← hname.ofSegments_toList]
  by_cases hempty : dir.text = ""
  · have hsplit : name.toList.splitOn '/' = [name.toList] := List.splitOn_eq_singleton hname.noSlash
    have hfits : Start.implicit.Fits (name.toList.splitOn '/') := by
      rw [hsplit]
      exact Or.inr fun s hs => Option.some.inj hs ▸ hname.isTrivial_eq_false
    rw [hempty]
    show ofChars ("" ++ name).toList = [] ++ _
    rw [String.empty_append, ofChars_of_fits hfits, hsplit, List.nil_append]
  · by_cases hend : dir.text.endsWith "/" = true
    · obtain ⟨front, hfront⟩ := endsWith_slash_iff.mp hend
      rw [if_pos (by simp [hend]), String.toList_append, ← hfront,
        ofChars_concat_slash_append hname.noSlash]
    · have hne : dir.text.toList ≠ [] := fun h => hempty (String.toList_inj.mp h)
      rw [if_neg (by simp [hempty, hend]), String.toList_append, String.toList_append,
        List.append_assoc]
      exact ofChars_append_slash_cons hne hname.noSlash

/-- A path with another name in place of its own. -/
theorem components_withFileName {p dir : Path} {old name : String} (hparent : p.parent = some dir)
    (hfileName : p.fileName = some old) (hname : IsName name) :
    (p.withFileName name).components = dir.components ++ [.name name] := by
  rw [withFileName, hfileName, hparent]
  exact components_child dir hname

end BtrfsStore.Path
