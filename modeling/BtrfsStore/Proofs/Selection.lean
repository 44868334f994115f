import Mathlib.Data.List.Perm.Basic
import BtrfsStore.BlockDevice
/-!
# BtrfsStore.Proofs.Selection

Which disk and which partition are taken for the store.

A disk is told by its size alone (`Fits`), a partition by its parent (`PartOf`). The
search for the disk is a matter of counting: none, one or several devices fit. The
search for the partition is a fold that keeps the larger of two devices;
`foldl_larger_iff` says that it ends with the last of the largest ones.

Both searches read a listing from the top. What of their answers does not depend on
the order of the rows is the subject of the last section.
-/

namespace BtrfsStore.BlockDevice

/-! ### What is looked for -/

/-- The device is a disk, and its size differs from the wanted one by at most 100 MiB
or one percent, whichever is more. -/
def Fits (target : Nat) (d : BlockDevice) : Prop :=
  d.kind = .disk ∧ d.sizeBytes ≤ target + max (100 * 1024 * 1024) (target / 100) ∧
    target ≤ d.sizeBytes + max (100 * 1024 * 1024) (target / 100)

/-- The device is a partition of the disk. -/
def PartOf (disk : String) (d : BlockDevice) : Prop := d.kind = .part ∧ d.parent = some disk

instance (target : Nat) : DecidablePred (Fits target) :=
  fun _ => inferInstanceAs (Decidable (_ ∧ _ ∧ _))

instance (disk : String) : DecidablePred (PartOf disk) :=
  fun _ => inferInstanceAs (Decidable (_ ∧ _))

/-- The disks of the wanted size, in their order. -/
def candidates (target : Nat) (devices : List BlockDevice) : List BlockDevice :=
  devices.filter fun d => Fits target d

/-- Of the devices that satisfy `P`, none is larger than `p`, and those after `p` are
smaller. -/
def LastLargest (P : BlockDevice → Prop) (devices : List BlockDevice) (p : BlockDevice) : Prop :=
  ∃ before after, devices = before ++ p :: after ∧ P p ∧
    (∀ d ∈ before, P d → d.sizeBytes ≤ p.sizeBytes) ∧
    ∀ d ∈ after, P d → d.sizeBytes < p.sizeBytes

variable {devices devices' : List BlockDevice} {target : Nat} {disk : String}
  {d p q : BlockDevice}

theorem isStoreDisk_iff : isStoreDisk target d = true ↔ Fits target d := by
  have hdistance : ∀ tolerance, sizeDistance d.sizeBytes target ≤ tolerance ↔
      d.sizeBytes ≤ target + tolerance ∧ target ≤ d.sizeBytes + tolerance := by
    intro tolerance
    unfold sizeDistance
    omega
  simp only [isStoreDisk, isDisk, Bool.and_eq_true, decide_eq_true_eq, hdistance, Fits]
  rfl

/-- The candidates are the disks of the size. -/
theorem filter_isStoreDisk : devices.filter (isStoreDisk target) = candidates target devices :=
  List.filter_congr fun d _ => by rw [Bool.eq_iff_iff, isStoreDisk_iff, decide_eq_true_iff]

/-! ### The disk -/

/-- What the search for the disk of the wanted size answers. -/
structure DiskSelection (target : Nat) (devices : List BlockDevice)
    (answer : Except Failure (Option BlockDevice)) : Prop where
  none_iff : answer = .ok none ↔ ∀ d ∈ devices, ¬Fits target d
  /-- There is exactly one such disk, and it is the one found. -/
  some_iff : ∀ d, answer = .ok (some d) ↔
    ∃ before after, devices = before ++ d :: after ∧ Fits target d ∧
      ∀ e ∈ before ++ after, ¬Fits target e
  /-- There are several, which are all named, in the order of the listing. -/
  error_iff : ∀ f, answer = .error f ↔ 2 ≤ (candidates target devices).length ∧
    f = .ambiguousDisk target ((candidates target devices).map (·.name))

/-- What is found among the disks of the wanted size. -/
def verdict (target : Nat) : List BlockDevice → Except Failure (Option BlockDevice)
  | [] => .ok none
  | [d] => .ok (some d)
  | many => .error (.ambiguousDisk target (many.map (·.name)))

/-- Only the candidates decide about the disk. -/
theorem selectDisk_eq_verdict (devices : List BlockDevice) (target : Nat) :
    selectDisk devices target = verdict target (candidates target devices) := by
  rw [selectDisk, filter_isStoreDisk]
  rfl

/-- A single candidate, as it stands among the devices. -/
theorem candidates_eq_singleton_iff : candidates target devices = [d] ↔
    ∃ before after, devices = before ++ d :: after ∧ Fits target d ∧
      ∀ e ∈ before ++ after, ¬Fits target e := by
  rw [candidates, List.filter_eq_cons_iff]
  constructor
  · intro hfilter
    obtain ⟨before, after, rfl, hbefore, hd, hafter⟩ := hfilter
    refine ⟨before, after, rfl, of_decide_eq_true hd, List.forall_mem_append.mpr ⟨?_, ?_⟩⟩
    · simpa using hbefore
    · simpa [List.filter_eq_nil_iff] using hafter
  · intro honly
    obtain ⟨before, after, rfl, hd, hothers⟩ := honly
    obtain ⟨hbefore, hafter⟩ := List.forall_mem_append.mp hothers
    refine ⟨before, after, rfl, by simpa using hbefore, decide_eq_true hd, ?_⟩
    simpa [List.filter_eq_nil_iff] using hafter

/-- The disk is chosen as `DiskSelection` says. -/
theorem selectDisk_selection (devices : List BlockDevice) (target : Nat) :
    DiskSelection target devices (selectDisk devices target) := by
  have hnone : candidates target devices = [] ↔ ∀ d ∈ devices, ¬Fits target d := by
    simp [candidates, List.filter_eq_nil_iff]
  have hone : ∀ d, candidates target devices = [d] ↔ _ := fun d => candidates_eq_singleton_iff
  constructor
  · rw [← hnone, selectDisk_eq_verdict]
    rcases candidates target devices with _ | ⟨a, _ | ⟨b, more⟩⟩ <;> simp [verdict]
  · intro d
    rw [← hone d, selectDisk_eq_verdict]
    rcases candidates target devices with _ | ⟨a, _ | ⟨b, more⟩⟩ <;> simp [verdict]
  · intro f
    rw [selectDisk_eq_verdict]
    rcases candidates target devices with _ | ⟨a, _ | ⟨b, more⟩⟩ <;> simp [verdict, eq_comm]

/-! ### The partition -/

/-- What the search for the partition of a disk answers. -/
structure PartitionSelection (disk : String) (devices : List BlockDevice)
    (answer : Except Failure BlockDevice) : Prop where
  ok_iff : ∀ p, answer = .ok p ↔ LastLargest (PartOf disk) devices p
  error_iff : ∀ f, answer = .error f ↔
    f = .partitionNotFound disk ∧ ∀ d ∈ devices, ¬PartOf disk d

/-- The last largest device is the first one if all others that count are smaller, and is
found among the others if not. -/
theorem lastLargest_cons {P : BlockDevice → Prop} :
    LastLargest P (d :: devices) p ↔
      (d = p ∧ P p ∧ ∀ e ∈ devices, P e → e.sizeBytes < p.sizeBytes) ∨
      ((P d → d.sizeBytes ≤ p.sizeBytes) ∧ LastLargest P devices p) := by
  constructor
  · intro hlargest
    obtain ⟨before, after, hsplit, hp, hbefore, hafter⟩ := hlargest
    cases before with
    | nil =>
      obtain ⟨rfl, rfl⟩ := List.cons.inj hsplit
      exact .inl ⟨rfl, hp, hafter⟩
    | cons e before =>
      obtain ⟨rfl, rfl⟩ := List.cons.inj hsplit
      obtain ⟨hd, hbefore⟩ := List.forall_mem_cons.mp hbefore
      exact .inr ⟨hd, before, after, rfl, hp, hbefore, hafter⟩
  · intro hlargest
    rcases hlargest with ⟨rfl, hp, hafter⟩ | ⟨hd, before, after, rfl, hp, hbefore, hafter⟩
    · exact ⟨[], devices, rfl, hp, List.forall_mem_nil _, hafter⟩
    · exact ⟨d :: before, after, rfl, hp, List.forall_mem_cons.mpr ⟨hd, hbefore⟩, hafter⟩

/-- Devices that do not count may be left out. -/
theorem lastLargest_filter {P : BlockDevice → Prop} [DecidablePred P] :
    LastLargest (fun _ => True) (devices.filter fun d => P d) p ↔ LastLargest P devices p := by
  induction devices with
  | nil => simp [LastLargest]
  | cons d devices ih =>
    by_cases hd : P d
    · rw [List.filter_cons_of_pos (by simpa using hd), lastLargest_cons, lastLargest_cons, ih]
      simp only [List.mem_filter, decide_eq_true_eq, and_imp, true_implies, hd, true_and]
      constructor
      · rintro (⟨rfl, hafter⟩ | hlater)
        · exact .inl ⟨rfl, hd, hafter⟩
        · exact .inr hlater
      · rintro (⟨rfl, -, hafter⟩ | hlater)
        · exact .inl ⟨rfl, hafter⟩
        · exact .inr hlater
    · rw [List.filter_cons_of_neg (by simpa using hd), lastLargest_cons, ih]
      constructor
      · exact fun hlater => .inr ⟨fun hP => absurd hP hd, hlater⟩
      · rintro (⟨rfl, hP, -⟩ | ⟨-, hlater⟩)
        · exact absurd hP hd
        · exact hlater

/-- A fold that keeps the larger of two devices ends with the last of the largest
ones. -/
theorem foldl_larger_iff : devices.foldl larger (some d) = some p ↔
    LastLargest (fun _ => True) (d :: devices) p := by
  induction devices generalizing d with
  | nil =>
    rw [lastLargest_cons]
    simp [LastLargest]
  | cons e devices ih =>
    rw [List.foldl_cons, larger]
    split
    next hsmaller =>
      -- `e` is passed over: `d` is larger, so that `e` bounds nothing.
      rw [ih, lastLargest_cons, lastLargest_cons, lastLargest_cons]
      simp only [List.forall_mem_cons, true_implies, true_and]
      constructor
      · rintro (⟨rfl, hafter⟩ | ⟨hd, hlater⟩)
        · exact .inl ⟨rfl, hsmaller, hafter⟩
        · exact .inr ⟨hd, .inr ⟨by omega, hlater⟩⟩
      · rintro (⟨rfl, -, hafter⟩ | ⟨hd, ⟨rfl, -⟩ | ⟨-, hlater⟩⟩)
        · exact .inl ⟨rfl, hafter⟩
        · omega
        · exact .inr ⟨hd, hlater⟩
    next hlarger =>
      rw [ih, lastLargest_cons, lastLargest_cons, lastLargest_cons]
      simp only [List.forall_mem_cons, true_implies, true_and]
      constructor
      · rintro (⟨rfl, hafter⟩ | ⟨he, hlater⟩)
        · exact .inr ⟨by omega, .inl ⟨rfl, hafter⟩⟩
        · exact .inr ⟨by omega, .inr ⟨he, hlater⟩⟩
      · rintro (⟨rfl, he, -⟩ | ⟨-, hrest⟩)
        · omega
        · exact hrest

theorem foldl_larger_ne_none : devices.foldl larger (some d) ≠ none := by
  induction devices generalizing d with
  | nil => simp
  | cons e devices ih =>
    rw [List.foldl_cons, larger]
    split
    · exact ih
    · exact ih

/-- The partition is chosen as `PartitionSelection` says. -/
theorem selectPartition_selection (devices : List BlockDevice) (disk : String) :
    PartitionSelection disk devices (selectPartition devices disk) := by
  have hfilter : (devices.filter fun d => d.isPartition && d.parent == some disk)
      = devices.filter fun d => PartOf disk d :=
    List.filter_congr fun d _ => by
      rw [Bool.eq_iff_iff, decide_eq_true_iff]
      simp [isPartition, PartOf]
  have hnone : (devices.filter fun d => PartOf disk d) = [] ↔ ∀ d ∈ devices, ¬PartOf disk d := by
    simp [List.filter_eq_nil_iff]
  rw [selectPartition, hfilter]
  constructor
  · intro p
    rw [← lastLargest_filter]
    cases hparts : devices.filter fun d => PartOf disk d with
    | nil => simp [LastLargest]
    | cons a parts =>
      rw [List.foldl_cons, larger, ← foldl_larger_iff]
      cases parts.foldl larger (some a) <;> simp
  · intro f
    rw [← hnone]
    cases hparts : devices.filter fun d => PartOf disk d with
    | nil => simp [eq_comm]
    | cons a parts =>
      have hsome : parts.foldl larger (some a) ≠ none := foldl_larger_ne_none
      obtain ⟨largest, hlargest⟩ := Option.ne_none_iff_exists'.mp hsome
      simp [larger, hlargest]

theorem LastLargest.mem {P : BlockDevice → Prop} (hp : LastLargest P devices p) :
    p ∈ devices ∧ P p := by
  obtain ⟨before, after, rfl, hp, -⟩ := hp
  exact ⟨by simp, hp⟩

/-- No device that counts is larger. -/
theorem LastLargest.sizeBytes_le {P : BlockDevice → Prop} (hp : LastLargest P devices p)
    (hd : d ∈ devices) (hP : P d) : d.sizeBytes ≤ p.sizeBytes := by
  obtain ⟨before, after, rfl, -, hbefore, hafter⟩ := hp
  rcases List.mem_append.mp hd with hd | hd
  · exact hbefore d hd hP
  · rcases List.mem_cons.mp hd with rfl | hd
    · exact Nat.le_refl _
    · exact Nat.le_of_lt (hafter d hd hP)

/-! ### The order of the rows -/

/-- Two answers name the same disk, or the same candidates in some order. -/
inductive SameDisk :
    Except Failure (Option BlockDevice) → Except Failure (Option BlockDevice) → Prop
  | found (d : Option BlockDevice) : SameDisk (.ok d) (.ok d)
  | ambiguous {target : Nat} {names names' : List String} (h : names.Perm names') :
      SameDisk (.error (.ambiguousDisk target names)) (.error (.ambiguousDisk target names'))

/-- Two answers find a partition of the same size, or none for the same disk. -/
inductive SameSize : Except Failure BlockDevice → Except Failure BlockDevice → Prop
  | found {p q : BlockDevice} (h : p.sizeBytes = q.sizeBytes) : SameSize (.ok p) (.ok q)
  | missing (disk : String) :
      SameSize (.error (.partitionNotFound disk)) (.error (.partitionNotFound disk))

/-- In another order the candidates come to the same disk, or are refused by the same names
in another order. -/
theorem verdict_perm {found found' : List BlockDevice} (h : found.Perm found') :
    SameDisk (verdict target found) (verdict target found') := by
  rcases found with _ | ⟨a, _ | ⟨b, more⟩⟩
  · obtain rfl := List.nil_perm.mp h
    exact .found none
  · obtain rfl := List.singleton_perm.mp h
    exact .found (some a)
  · have hlength : more.length + 2 = found'.length := h.length_eq
    obtain ⟨a', b', more', rfl⟩ : ∃ a' b' more', found' = a' :: b' :: more' := by
      rcases found' with _ | ⟨a', _ | ⟨b', more'⟩⟩
      · simp at hlength
      · simp at hlength
      · exact ⟨a', b', more', rfl⟩
    exact .ambiguous (h.map _)

/-- The order of a listing does not decide about the disk. -/
theorem selectDisk_perm (h : devices.Perm devices') (target : Nat) :
    SameDisk (selectDisk devices target) (selectDisk devices' target) := by
  rw [selectDisk_eq_verdict, selectDisk_eq_verdict]
  exact verdict_perm (h.filter _)

/-- The order of a listing does not decide about the size of the partition. -/
theorem selectPartition_perm (h : devices.Perm devices') (disk : String) :
    SameSize (selectPartition devices disk) (selectPartition devices' disk) := by
  have hsel := selectPartition_selection devices disk
  have hsel' := selectPartition_selection devices' disk
  rcases hp : selectPartition devices disk with f | p
  · obtain ⟨rfl, hnone⟩ := (hsel.error_iff f).mp hp
    have hnone' : ∀ d ∈ devices', ¬PartOf disk d := fun d hd => hnone d (h.mem_iff.mpr hd)
    rw [(hsel'.error_iff _).mpr ⟨rfl, hnone'⟩]
    exact .missing disk
  · have hlargest := (hsel.ok_iff p).mp hp
    rcases hq : selectPartition devices' disk with f | q
    · obtain ⟨-, hnone⟩ := (hsel'.error_iff f).mp hq
      obtain ⟨hmem, hpart⟩ := hlargest.mem
      exact absurd hpart (hnone p (h.mem_iff.mp hmem))
    · -- Each of the two partitions is listed in both orders, and bounds the other one.
      have hlargest' := (hsel'.ok_iff q).mp hq
      obtain ⟨hmem, hpart⟩ := hlargest.mem
      obtain ⟨hmem', hpart'⟩ := hlargest'.mem
      refine .found (Nat.le_antisymm ?_ ?_)
      · exact hlargest'.sizeBytes_le (h.mem_iff.mp hmem) hpart
      · exact hlargest.sizeBytes_le (h.mem_iff.mpr hmem') hpart'

/-- **The disk of the store is the only one that fits, and its partition the last of
the largest.** In whatever order the devices are listed, the same disk is found, the
same disks are named if there are several, and the partition has the same size. -/
theorem selection_by_size_and_parent (devices : List BlockDevice) (target : Nat)
    (disk : String) :
    DiskSelection target devices (selectDisk devices target) ∧
      PartitionSelection disk devices (selectPartition devices disk) ∧
      ∀ devices', devices.Perm devices' →
        SameDisk (selectDisk devices target) (selectDisk devices' target) ∧
          SameSize (selectPartition devices disk) (selectPartition devices' disk) := by
  refine ⟨selectDisk_selection devices target, selectPartition_selection devices disk, ?_⟩
  intro devices' h
  exact ⟨selectDisk_perm h target, selectPartition_perm h disk⟩

/-- Of two partitions of the same size the one listed later is taken, and so one of
that size in either order. -/
theorem selection_by_size_and_parent_swapped :
    let disk : BlockDevice := ⟨"sdd", 10737418240, .disk, none⟩
    let first : BlockDevice := ⟨"sdd1", 5368709120, .part, some "sdd"⟩
    let second : BlockDevice := ⟨"sdd2", 5368709120, .part, some "sdd"⟩
    [disk, first, second].Perm [disk, second, first] ∧
      selectPartition [disk, first, second] "sdd" = .ok second ∧
      selectPartition [disk, second, first] "sdd" = .ok first ∧
      SameDisk (selectDisk [disk, first, second] 10700000000)
        (selectDisk [disk, second, first] 10700000000) ∧
      SameSize (selectPartition [disk, first, second] "sdd")
        (selectPartition [disk, second, first] "sdd") := by
  intro disk first second
  have hperm : [disk, first, second].Perm [disk, second, first] :=
    .cons disk (.swap second first [])
  obtain ⟨-, -, hanyOrder⟩ :=
    selection_by_size_and_parent [disk, first, second] 10700000000 "sdd"
  exact ⟨hperm, by decide, by decide, hanyOrder _ hperm⟩

end BtrfsStore.BlockDevice
