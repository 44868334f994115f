import BtrfsStore.Proofs.NativeShapes
import BtrfsStore.Proofs.Walking
/-!
# BtrfsStore.Proofs.NearestAncestor

The nearest ancestor that exists, for a relative path and for the same path joined to the
current directory.

Both lists of ancestors go up in step, with the current directory in front of those of
the second one, until the first list ends (`Beside`). There the second one has the current
directory, and goes on above it; the first one has only the empty path, which never exists,
and a written `.` at most. So both searches come to the same place, unless nothing on the
way of a relative path exists: then the second one comes to the current directory, and the
first one to nothing.
-/

namespace BtrfsStore

namespace Path

variable {c d : Path} {lead foot tail segments : List (List Char)}

/-! ### Ancestors side by side -/

/-- The ancestors of a relative path, and those of the path joined to `c`. -/
inductive Beside (c : Path) : List Path → List Path → Prop
  | last {ends above : List Path} (hends : ends = [⟨""⟩] ∨ ends = [⟨"."⟩, ⟨""⟩]) :
      Beside c ends (c.trimmed :: above)
  | cons {p : Path} {ps qs : List Path} (hp : p.isAbsolute = false) (hne : p.text ≠ "")
      (hrest : Beside c ps qs) : Beside c (p :: ps) (c.join p :: qs)

/-- What the start of a relative path puts before the pieces that are segments, and after
the segments. -/
inductive Opening : Start → List (List Char) → List (List Char) → Prop
  | implicit : Opening .implicit [] []
  | dot : Opening .dot [['.']] [[]]

theorem exists_opening (hd : d.isAbsolute = false) :
    ∃ lead foot segments, Opening d.start lead foot ∧ d.segmentsFromEnd = segments ++ foot ∧
      d.pieces = lead ++ segments.reverse := by
  rw [isAbsolute, start] at hd
  rw [start, segmentsFromEnd, pieces, splitSlash_eq]
  revert hd
  fun_cases splitStart d.text.toList with
  | case1 cs =>
    intro hroot
    cases hroot
  | case2 =>
    intro _
    exact ⟨_, _, [], .dot, rfl, rfl⟩
  | case3 cs =>
    intro _
    refine ⟨_, _, (cs.splitOn '/').reverse, .dot, ?_, ?_⟩
    · rw [splitOn_slash_cons, List.reverse_cons]
    · rw [splitOn_dot_slash_cons, List.reverse_reverse]
      rfl
  | case4 =>
    intro _
    refine ⟨_, _, _, .implicit, (List.append_nil _).symm, ?_⟩
    rw [List.reverse_reverse, List.nil_append]

theorem Opening.isTrivial_of_mem {start : Start} (h : Opening start lead foot) {s : List Char}
    (hs : s ∈ foot ∨ s ∈ lead) : isTrivial s = true := by
  cases h with
  | implicit => simp at hs
  | dot =>
    rw [List.mem_singleton, List.mem_singleton] at hs
    obtain rfl | rfl := hs <;> rfl

theorem Opening.reverse_lead {start : Start} (h : Opening start lead foot) :
    lead.reverse = lead := by
  cases h <;> rfl

/-- The start is written in the pieces of the text. -/
theorem Opening.chars_append {start : Start} (h : Opening start lead foot) (hne : segments ≠ []) :
    start.chars ++ joinSlash (foot.reverse ++ segments) = joinSlash (lead ++ segments) := by
  cases h with
  | implicit => rfl
  | dot =>
    rw [List.reverse_singleton, List.singleton_append, List.singleton_append, joinSlash_cons hne,
      joinSlash_cons hne]
    rfl

theorem ofSegmentsFromEnd_cons_of_trivial {start : Start} {s : List Char}
    (hs : isTrivial s = true) :
    ofSegmentsFromEnd start (s :: segments) = ofSegmentsFromEnd start segments := by
  rw [ofSegmentsFromEnd, List.dropWhile_cons_of_pos hs, ofSegmentsFromEnd]

theorem parentsOf_cons_of_trivial {start : Start} {s : List Char} (hs : isTrivial s = true) :
    parentsOf start (s :: segments) = parentsOf start segments := by
  rw [parentsOf, if_pos hs]

theorem parentsOf_cons {start : Start} {s : List Char} (hs : isTrivial s = false) :
    parentsOf start (s :: segments)
      = ofSegmentsFromEnd start segments :: parentsOf start segments := by
  rw [parentsOf, hs, if_neg Bool.false_ne_true]

theorem toList_ofSegmentsFromEnd_cons {start : Start} {s : List Char} (hs : isTrivial s = false) :
    (ofSegmentsFromEnd start (s :: segments)).text.toList
      = start.chars ++ joinSlash (s :: segments).reverse := by
  rw [ofSegmentsFromEnd, List.dropWhile_cons_of_neg (by rw [hs]; exact Bool.false_ne_true),
    String.toList_ofList]

section

variable (hd : d.isAbsolute = false) (hopening : Opening d.start lead foot)
  (hjoin : ∀ q : Path, q.isAbsolute = false → (c.join q).start = c.start ∧
    (c.join q).segmentsFromEnd = q.pieces.reverse ++ tail)

include hopening

/-- The pieces of what is left of a relative path without its last segments. -/
theorem pieces_ofSegmentsFromEnd {s : List Char} (hs : isTrivial s = false)
    (hsuffix : s :: segments ++ foot <:+ d.segmentsFromEnd) :
    (ofSegmentsFromEnd d.start (s :: segments ++ foot)).pieces
      = lead ++ (s :: segments).reverse := by
  have hne : (s :: segments).reverse ≠ [] := by simp
  have hslash : ∀ r ∈ lead ++ (s :: segments).reverse, '/' ∉ r := by
    intro r hr
    obtain hr | hr := List.mem_append.mp hr
    · obtain rfl | rfl := isTrivial_iff.mp (hopening.isTrivial_of_mem (Or.inr hr)) <;> decide
    · exact slash_notMem_of_mem_segmentsFromEnd
        (hsuffix.mem (List.mem_append_left _ (List.mem_reverse.mp hr)))
  rw [pieces, List.cons_append, toList_ofSegmentsFromEnd_cons hs, ← List.cons_append,
    List.reverse_append, hopening.chars_append hne,
    splitOn_joinSlash (List.append_ne_nil_of_right_ne_nil _ hne) hslash]

include hd hjoin

theorem join_ofSegmentsFromEnd {s : List Char} (hs : isTrivial s = false)
    (hsuffix : s :: segments ++ foot <:+ d.segmentsFromEnd) :
    c.join (ofSegmentsFromEnd d.start (s :: segments ++ foot))
      = ofSegmentsFromEnd c.start (s :: segments ++ lead ++ tail) := by
  have hrelative := (isAbsolute_ofSegmentsFromEnd hsuffix).trans hd
  obtain ⟨hstart, hsegments⟩ := hjoin _ hrelative
  rw [pieces_ofSegmentsFromEnd hopening hs hsuffix, List.reverse_append, List.reverse_reverse,
    hopening.reverse_lead] at hsegments
  apply eq_of_toList_eq
  rw [← start_chars_append, hstart, hsegments]
  exact (toList_ofSegmentsFromEnd_cons hs).symm

/-- From any segment on, the ancestors are side by side. -/
theorem beside_of_suffix (htail : ofSegmentsFromEnd c.start tail = c.trimmed)
    (hsuffix : segments ++ foot <:+ d.segmentsFromEnd) :
    Beside c
      (ofSegmentsFromEnd d.start (segments ++ foot) :: parentsOf d.start (segments ++ foot))
      (ofSegmentsFromEnd c.start (segments ++ lead ++ tail) ::
        parentsOf c.start (segments ++ lead ++ tail)) := by
  induction segments with
  | nil =>
    have htop : ofSegmentsFromEnd c.start (lead ++ tail) = c.trimmed := by
      generalize d.start = start at hopening
      cases hopening with
      | implicit => exact htail
      | dot => exact (ofSegmentsFromEnd_cons_of_trivial rfl).trans htail
    rw [List.nil_append, List.nil_append, htop]
    generalize d.start = start at hopening
    cases hopening with
    | implicit => exact .last (Or.inl rfl)
    | dot => exact .last (Or.inr rfl)
  | cons s ss ih =>
    have hrest := ih ((List.suffix_cons s _).trans hsuffix)
    by_cases hs : isTrivial s = true
    · simp only [List.cons_append, ofSegmentsFromEnd_cons_of_trivial hs,
        parentsOf_cons_of_trivial hs]
      exact hrest
    · have hname : isTrivial s = false := Bool.eq_false_iff.mpr hs
      rw [← join_ofSegmentsFromEnd hd hopening hjoin hname hsuffix, List.cons_append,
        List.cons_append, List.cons_append, parentsOf_cons hname, parentsOf_cons hname]
      refine .cons ((isAbsolute_ofSegmentsFromEnd hsuffix).trans hd) (fun hempty => ?_) hrest
      -- A piece is left of what is not trivial, so that the ancestor is not empty.
      have hpieces := pieces_ofSegmentsFromEnd hopening hname hsuffix
      rw [pieces, List.cons_append, hempty] at hpieces
      have hmem : s ∈ [[]] := by
        rw [show [[]] = lead ++ (s :: ss).reverse from hpieces]
        simp
      exact hs (isTrivial_iff.mpr (Or.inl (List.mem_singleton.mp hmem)))

end

/-- The ancestors of a relative path that says more than its start. -/
theorem beside_ancestors (hc : c.text ≠ "") (hd : d.isAbsolute = false) (hne : d.text ≠ "")
    (hname : ∃ s ∈ d.segmentsFromEnd, isTrivial s = false) :
    Beside c d.ancestors (c.join d).ancestors := by
  obtain ⟨lead, foot, segments, hopening, hsegments, hpieces⟩ := exists_opening hd
  obtain ⟨tail, htail, hjoin⟩ := exists_segmentsFromEnd_join hc
  have htrimmed : ofSegmentsFromEnd c.start tail = c.trimmed := by
    rw [trimmed]
    obtain htail | htail := htail
    · rw [htail]
    · rw [htail, ofSegmentsFromEnd_cons_of_trivial rfl]
  have hjoined : (c.join d).segmentsFromEnd = segments ++ (lead ++ tail) := by
    rw [(hjoin d hd).2, hpieces, List.reverse_append, List.reverse_reverse, hopening.reverse_lead,
      List.append_assoc]
  -- Trivial segments at the end are dropped from both paths alike.
  cases hkept : segments.dropWhile isTrivial with
  | nil =>
    obtain ⟨s, hs, hproper⟩ := hname
    rw [hsegments, List.mem_append] at hs
    have htrivial : isTrivial s = true := by
      obtain hs | hs := hs
      · exact List.dropWhile_eq_nil_iff.mp hkept s hs
      · exact hopening.isTrivial_of_mem (Or.inl hs)
    exact absurd htrivial (by rw [hproper]; exact Bool.false_ne_true)
  | cons s ss =>
    have hkeeps : ∀ more, (segments ++ more).dropWhile isTrivial = s :: (ss ++ more) := by
      intro more
      rw [List.dropWhile_append, hkept]
      rfl
    have hsuffix : ss ++ foot <:+ d.segmentsFromEnd := by
      rw [hsegments]
      exact (List.suffix_cons s _).trans (hkeeps foot ▸ List.dropWhile_suffix isTrivial)
    rw [ancestors, ancestors, parents, parents, hsegments, hjoined, (hjoin d hd).1,
      parentsOf_of_dropWhile (hkeeps foot), parentsOf_of_dropWhile (hkeeps (lead ++ tail)),
      ← List.append_assoc]
    exact .cons hd hne (beside_of_suffix hd hopening hjoin htrimmed hsuffix)

end Path

namespace FileTree

open BtrfsStore.Path

variable {t : FileTree} {c d : Path}

/-! ### The nearest place -/

/-- The place of the nearest ancestor that exists, or else the current directory. -/
def nearestPlace (t : FileTree) (dir : Path) : Place :=
  (dir.ancestors.findSome? t.place?).getD t.current

/-- Where the lists are side by side, the current directory is found at the latest. -/
theorem findSome?_of_beside {ps qs : List Path}
    (hc : t.walk c = .ok (.node t.current .directory)) (h : Beside c ps qs)
    (hfits : ∀ q ∈ qs, q.text.utf8ByteSize ≤ maxPathBytes) :
    qs.findSome? t.place? = some ((ps.findSome? t.place?).getD t.current) := by
  induction h with
  | @last ends above hends =>
    have hfound : (ends.findSome? t.place?).getD t.current = t.current := by
      obtain rfl | rfl := hends <;> rfl
    rw [List.findSome?_cons, place?_of_walk (walk_trimmed hc), hfound]
  | @cons p ps qs hp hne hrest ih =>
    have hsame : t.place? (c.join p) = t.place? p := by
      rw [place?, place?, walk_join hc hp hne (hfits _ List.mem_cons_self)]
    rw [List.findSome?_cons, List.findSome?_cons, hsame,
      ih fun q hq => hfits q (List.mem_cons_of_mem _ hq)]
    cases t.place? p <;> rfl

/-- A relative path that says no more than its start leads to the current directory. -/
theorem walk_of_trivial (hd : d.isAbsolute = false) (hne : d.text ≠ "")
    (hfits : d.text.utf8ByteSize ≤ maxPathBytes)
    (htrivial : ∀ s ∈ d.segmentsFromEnd, isTrivial s = true) :
    t.walk d = .ok (.node t.current .directory) := by
  have hchars : ∀ ch ∈ d.text.toList, ch = '/' ∨ ch = '.' := by
    intro ch hch
    rw [← start_chars_append, List.mem_append] at hch
    obtain hch | hch := hch
    · rw [isAbsolute] at hd
      cases hstart : d.start with
      | root => rw [hstart] at hd; cases hd
      | dot => rw [hstart] at hch; exact Or.inr (List.mem_singleton.mp hch)
      | implicit => rw [hstart] at hch; cases hch
    · obtain hslash | ⟨s, hs, hch⟩ := mem_joinSlash hch
      · exact Or.inl hslash
      · obtain rfl | rfl := isTrivial_iff.mp (htrivial s (List.mem_reverse.mp hs))
        · cases hch
        · exact Or.inr (List.mem_singleton.mp hch)
  have hnul : Char.ofNat 0 ∉ d.text.toList := fun h => absurd (hchars _ h) (by decide)
  have hnothing : d.components.filterMap Component.piece? = [] := by
    have hstart : d.start.components.filterMap Component.piece? = [] := by cases d.start <;> rfl
    have hnone : Component.ofSegments d.segmentsFromEnd.reverse = [] := by
      simpa [Component.ofSegments] using htrivial
    rw [components_eq, List.filterMap_append, hstart, hnone]
    rfl
  refine walk_directory_iff.mpr ⟨⟨hne, hnul, hfits⟩, ?_⟩
  rw [hnothing, base, hd, if_neg Bool.false_ne_true]
  exact .here _

/-- A joined path finds what the relative path finds, and the current directory if that
finds nothing. -/
theorem findSome?_ancestors_join (hc : t.walk c = .ok (.node t.current .directory))
    (hd : d.isAbsolute = false) (hne : d.text ≠ "")
    (hfits : (c.join d).text.utf8ByteSize ≤ maxPathBytes) :
    (c.join d).ancestors.findSome? t.place? = some (t.nearestPlace d) := by
  have hancestors : ∀ q ∈ (c.join d).ancestors, q.text.utf8ByteSize ≤ maxPathBytes := fun q hq =>
    Nat.le_trans (utf8ByteSize_le_of_isInfix (text_prefix_of_mem_ancestors hq).isInfix) hfits
  by_cases hname : ∃ s ∈ d.segmentsFromEnd, isTrivial s = false
  · exact findSome?_of_beside hc (beside_ancestors (Walkable.of_walk hc).ne_empty hd hne hname)
      hancestors
  · have htrivial : ∀ s ∈ d.segmentsFromEnd, isTrivial s = true := by simpa using hname
    have hshort : d.text.utf8ByteSize ≤ maxPathBytes :=
      Nat.le_trans (utf8ByteSize_le_of_isInfix (text_suffix_join hd).isInfix) hfits
    have hthere : t.walk d = .ok (.node t.current .directory) :=
      walk_of_trivial hd hne hshort htrivial
    have hjoined := (walk_join hc hd hne hfits).trans hthere
    rw [nearestPlace, ancestors, ancestors, List.findSome?_cons, List.findSome?_cons,
      place?_of_walk hthere, place?_of_walk hjoined]
    rfl

end FileTree

namespace Native

open BtrfsStore.Path FileTree

variable {t : FileTree} {reply : Place → Except Failure String} {dir : Path} {h : History}

/-! ### Looks -/

/-- The path that a command is given last. -/
def lastPath (c : Command) : Path := ⟨c.args.getLastD ""⟩

/-- The event is one of a host whose files are those of the tree, and whose replies about
filesystems depend on the places of the paths alone. -/
def Mirrors (t : FileTree) (reply : Place → Except Failure String) : Event → Prop
  | ⟨.pathExists p, there⟩ => there = t.pathExists p
  | ⟨.run c, answer⟩ =>
    c = typeQuestion (lastPath c) → ∀ place ∈ t.place? (lastPath c), answer = reply place
  | _ => True

instance (t : FileTree) (reply : Place → Except Failure String) : DecidablePred (Mirrors t reply)
  | ⟨.pathExists _, _⟩ => inferInstanceAs (Decidable (_ = _))
  | ⟨.run _, _⟩ => inferInstanceAs (Decidable (_ = _ → ∀ _ ∈ _, _ = _))
  | ⟨.locate _, _⟩ | ⟨.isRoot, _⟩ | ⟨.sleep _, _⟩ | ⟨.makeDirectories _, _⟩
  | ⟨.removeFile _, _⟩ | ⟨.readText _, _⟩ | ⟨.writeText _ _, _⟩ => .isTrue trivial

/-- The search finds the first path that leads anywhere. -/
theorem SearchRun.findSome?_place {paths : List Path} {found : Option Path}
    (hs : SearchRun paths found h) (hm : ∀ e ∈ h, Mirrors t reply e) :
    paths.findSome? t.place? = found.bind t.place? ∧ ∀ p ∈ found, (t.place? p).isSome := by
  induction hs with
  | nowhere => exact ⟨rfl, nofun⟩
  | @here path rest =>
    have hthere : true = t.pathExists path := hm _ (List.mem_singleton_self _)
    rw [t.pathExists_eq] at hthere
    obtain ⟨place, hplace⟩ := Option.isSome_iff_exists.mp hthere.symm
    refine ⟨?_, fun p hp => Option.some.inj hp ▸ hthere.symm⟩
    rw [List.findSome?_cons, hplace, Option.bind_some, hplace]
  | @further path rest found h hrest ih =>
    obtain ⟨hsame, hfound⟩ := ih fun e he => hm e (List.mem_cons_of_mem _ he)
    have hmissing : false = t.pathExists path := hm _ List.mem_cons_self
    rw [t.pathExists_eq, eq_comm, Option.isSome_eq_false_iff, Option.isNone_iff_eq_none] at hmissing
    rw [List.findSome?_cons, hmissing, hsame]
    exact ⟨rfl, hfound⟩

/-- A look is decided by the place of the nearest ancestor that exists. -/
theorem LookRun.iff_place {onBtrfs : Bool} (hl : LookRun dir onBtrfs h)
    (hm : ∀ e ∈ h, Mirrors t reply e) :
    onBtrfs = true ↔ ∃ place ∈ dir.ancestors.findSome? t.place?, NamesBtrfs (reply place) := by
  cases hl with
  | nowhere hsearch =>
    obtain ⟨hnone, -⟩ := hsearch.findSome?_place hm
    rw [hnone]
    exact iff_of_false Bool.false_ne_true fun ⟨place, hplace, _⟩ => nomatch hplace
  | @asked search existing a _ hsearch ha =>
    obtain ⟨hsame, hsome⟩ := hsearch.findSome?_place fun e he => hm e (List.mem_append_left _ he)
    obtain ⟨place, hplace⟩ := Option.isSome_iff_exists.mp (hsome existing rfl)
    have hreply : a = reply place :=
      hm _ (List.mem_append_right _ (List.mem_singleton_self _)) rfl place hplace
    rw [hsame, Option.bind_some, hplace, ha, hreply]
    simp

/-- **A look at a relative path comes to what the look at the full path does**, the path
being joined to the current directory, as soon as something on the way of the relative
path exists. Both are decided by the nearest ancestor that exists. If there is none, this
is the current directory for the full path, and the look at the relative path finds
nothing. -/
theorem look_agrees_once_found {σ : Type} (host : Host σ) (s s' : σ) (t : FileTree)
    (reply : Place → Except Failure String) (c d : Path)
    (hc : t.walk c = .ok (.node t.current .directory)) (hd : d.isAbsolute = false)
    (hne : d.text ≠ "") (hfits : (c.join d).text.utf8ByteSize ≤ maxPathBytes)
    (hown : ∀ e ∈ (isOnBtrfs d).record host s, Mirrors t reply e)
    (hfull : ∀ e ∈ (isOnBtrfs (c.join d)).record host s', Mirrors t reply e) :
    let own := ((isOnBtrfs d).runWith host s).1
    let full := ((isOnBtrfs (c.join d)).runWith host s').1
    (full = true ↔ NamesBtrfs (reply (t.nearestPlace d))) ∧
      (own = true ↔ full = true ∧ ∃ p ∈ d.ancestors, t.pathExists p = true) := by
  intro own full
  have hownRun : LookRun d own _ := isOnBtrfs_run (Action.leads_record _ _ _)
  have hfullRun : LookRun (c.join d) full _ := isOnBtrfs_run (Action.leads_record _ _ _)
  have hownIff := hownRun.iff_place hown
  have hfullIff : full = true ↔ NamesBtrfs (reply (t.nearestPlace d)) := by
    rw [hfullRun.iff_place hfull, findSome?_ancestors_join hc hd hne hfits]
    simp
  refine ⟨hfullIff, ?_⟩
  rw [hownIff, hfullIff, nearestPlace]
  cases hfound : d.ancestors.findSome? t.place? with
  | none =>
    refine iff_of_false (fun ⟨place, hplace, _⟩ => nomatch hplace) fun ⟨_, p, hp, hthere⟩ => ?_
    rw [t.pathExists_eq, List.findSome?_eq_none_iff.mp hfound p hp] at hthere
    cases hthere
  | some place =>
    obtain ⟨p, hp, hplace⟩ := List.exists_of_findSome?_eq_some hfound
    have hthere : ∃ p ∈ d.ancestors, t.pathExists p = true :=
      ⟨p, hp, by rw [t.pathExists_eq, hplace]; rfl⟩
    simp [hthere]

/-- A tree with the current directory `/work` and the directory `/work/data`. -/
def workTree : FileTree :=
  { nodes := [(["work"], .directory), (["work", "data"], .directory)], current := ["work"] }

/-- A host with this tree, all of it on btrfs. -/
def hostOnBtrfs : Scripted.State :=
  { ({} : Scripted.State).on "stat" [] [.output "btrfs\n"] with files := workTree }

/-- Every place of the tree is on btrfs. -/
def allBtrfs : Place → Except Failure String := fun _ => .ok "btrfs\n"

/-- The first component of the path is there in the current directory, so that both looks
end at it. -/
theorem look_agrees_once_found_in_data :
    let look := fun d => ((isOnBtrfs d).runWith Scripted.host hostOnBtrfs).1
    let record := fun d => (isOnBtrfs d).record Scripted.host hostOnBtrfs
    workTree.walk ⟨"/work"⟩ = .ok (.node workTree.current .directory) ∧
      (∀ e ∈ record ⟨"data/store"⟩, Mirrors workTree allBtrfs e) ∧
      (∀ e ∈ record (Path.join ⟨"/work"⟩ ⟨"data/store"⟩), Mirrors workTree allBtrfs e) ∧
      look ⟨"data/store"⟩ = true ∧ look (Path.join ⟨"/work"⟩ ⟨"data/store"⟩) = true := by
  intro look record
  have hc : workTree.walk ⟨"/work"⟩ = .ok (.node workTree.current .directory) := by
    decide +kernel
  have hown : ∀ e ∈ record ⟨"data/store"⟩, Mirrors workTree allBtrfs e := by
    decide +kernel
  have hfull : ∀ e ∈ record (Path.join ⟨"/work"⟩ ⟨"data/store"⟩),
      Mirrors workTree allBtrfs e := by
    decide +kernel
  have hagrees := look_agrees_once_found Scripted.host hostOnBtrfs hostOnBtrfs workTree allBtrfs
    ⟨"/work"⟩ ⟨"data/store"⟩ hc (by decide +kernel) (by decide +kernel) (by decide +kernel)
    hown hfull
  have hfound : look (Path.join ⟨"/work"⟩ ⟨"data/store"⟩) = true :=
    hagrees.1.mpr (show Text.trim "btrfs\n" = btrfsType by decide +kernel)
  exact ⟨hc, hown, hfull, hagrees.2.mpr ⟨hfound, ⟨"data"⟩, by decide +kernel, by decide +kernel⟩,
    hfound⟩

/-- Nothing on the way of a relative path exists: the look at it finds nothing, while the
current directory decides for the full path. -/
theorem look_misses_current_directory :
    let look := fun d => ((isOnBtrfs d).runWith Scripted.host hostOnBtrfs).1
    let record := fun d => (isOnBtrfs d).record Scripted.host hostOnBtrfs
    workTree.walk ⟨"/work"⟩ = .ok (.node workTree.current .directory) ∧
      (∀ e ∈ record ⟨"store"⟩, Mirrors workTree allBtrfs e) ∧
      (∀ e ∈ record (Path.join ⟨"/work"⟩ ⟨"store"⟩), Mirrors workTree allBtrfs e) ∧
      look ⟨"store"⟩ = false ∧ look (Path.join ⟨"/work"⟩ ⟨"store"⟩) = true :=
  ⟨by decide +kernel, by decide +kernel, by decide +kernel, by decide +kernel, by decide +kernel⟩

end Native

end BtrfsStore
