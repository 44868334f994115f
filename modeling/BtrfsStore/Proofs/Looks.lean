import BtrfsStore.Proofs.History
import BtrfsStore.Proofs.Selection
import BtrfsStore.Wsl.StoreDisk
/-!
# BtrfsStore.Proofs.Looks

What one listing of the block devices decides in the search for the disk of a store.

The search begins with a look that has to be answered and goes on, once the disk is
attached, with looks that may decide nothing. `firstLook` and `look` say what comes of
an answer in the two cases, as far as the answer alone tells.
-/

namespace BtrfsStore.Wsl

open Attempt BlockDevice

variable {user : Target} {bytes : Nat} {h : History}

/-- The question for the block devices. -/
def listing (user : Target) : Command :=
  { target := user, description := "list block devices", program := "lsblk"
    args := ["-b", "-o", "NAME,SIZE,TYPE,PKNAME"], limit := Limit.quick }

/-! ### The search -/

/-- The partition of the disk of the wanted size, if one is attached. -/
def findAttached (user : Target) (bytes : Nat) : Attempt (Option BlockDevice) := do
  let devices ← listBlockDevices user
  match ← Attempt.ofExcept (selectDisk devices bytes) with
  | none => pure none
  | some disk =>
    match selectPartition devices disk.name with
    | .ok partition => pure (some partition)
    | .error _ =>
      throw (.operation ("disk " ++ disk.name
        ++ " has no partition; rerun with --reinit to recreate the store"))

/-- A disk is looked for, attached if there is none, and waited for, each in a
stage of its own. -/
theorem attachStoreDisk_eq (user : Target) (disk : Path) (bytes : Nat) :
    attachStoreDisk .host user disk bytes = (do
      match ← (findAttached user bytes).inStage .deviceDetection with
      | some partition => pure { partition, created := false }
      | none =>
        let created ← (createAndAttach .host disk bytes).inStage .virtualDisk
        let partition ← (awaitPartition user disk bytes).inStage .deviceDetection
        pure { partition, created }) := by
  unfold attachStoreDisk findAttached
  simp only [inStage_bind, bind_assoc]
  refine congrArg _ (funext fun devices => congrArg _ (funext fun selected => ?_))
  cases selected with
  | none => rfl
  | some found =>
    dsimp only
    cases selectPartition devices found.name <;> rfl

/-! ### Decisions -/

/-- The devices that an answer lists. -/
def listed (a : Except Failure String) : Except Failure (List BlockDevice) :=
  a >>= ofListing

/-- What the search makes of its first listing. There may be no disk of the size. -/
def firstLook (bytes : Nat) (a : Except Failure String) : Except Failure (Option BlockDevice) :=
  match listed a with
  | .error f => .error f
  | .ok devices =>
    match candidates bytes devices with
    | [] => .ok none
    | [d] =>
      match selectPartition devices d.name with
      | .ok partition => .ok (some partition)
      | .error _ => .error (.operation ("disk " ++ d.name
          ++ " has no partition; rerun with --reinit to recreate the store"))
    | many => .error (.ambiguousDisk bytes (many.map (·.name)))

/-- What the waiting makes of a listing. It may decide nothing yet. -/
def look (bytes : Nat) (a : Except Failure String) : Option (Except Failure BlockDevice) :=
  match listed a with
  | .error _ => none
  | .ok devices =>
    match candidates bytes devices with
    | [] => none
    | [d] =>
      match selectPartition devices d.name with
      | .ok partition => some (.ok partition)
      | .error _ => none
    | many => some (.error (.ambiguousDisk bytes (many.map (·.name))))

/-- A listing is one command, and its answer is read. -/
theorem outcome_listBlockDevices (user : Target) : (listBlockDevices user).outcome
    = .ask (.run (listing user)) fun a => .done (listed a) := by
  refine congrArg (Action.ask _) (funext fun a => ?_)
  cases a <;> rfl

theorem outcome_findAttached (user : Target) (bytes : Nat) : (findAttached user bytes).outcome
    = .ask (.run (listing user)) fun a => .done (firstLook bytes a) := by
  rw [findAttached, outcome_bind, outcome_listBlockDevices, Action.ask_bind]
  refine congrArg (Action.ask _) (funext fun a => ?_)
  rw [Action.done_bind, firstLook]
  cases listed a with
  | error f => rfl
  | ok devices =>
    rw [andThen_ok, outcome_bind, outcome_ofExcept, Action.done_bind, selectDisk_eq_verdict]
    dsimp only
    rcases candidates bytes devices with _ | ⟨d, _ | ⟨e, more⟩⟩
    · rfl
    · dsimp only [verdict, andThen]
      cases selectPartition devices d.name <;> rfl
    · rfl

/-- Each look for the partition is one listing, and nothing is kept from the looks before.
-/
theorem leads_look {s s' : Option String} {v : Option (Except Failure BlockDevice)}
    (hl : ((lookForPartition user bytes).run s).Leads h (v, s')) :
    ∃ a, h = [(listing user).event a] ∧ v = look bytes a := by
  unfold lookForPartition at hl
  rw [StateT.run_bind] at hl
  obtain ⟨h₁, ⟨found, s₁⟩, h₂, hlift, hrest, rfl⟩ := Action.leads_bind.mp hl
  obtain ⟨h₃, found', h₄, hlist, hpair, rfl⟩ := Action.leads_bind.mp hlift
  obtain ⟨rfl, hfound⟩ := Action.leads_done.mp hpair
  obtain ⟨rfl, rfl⟩ := Prod.mk.inj hfound
  rw [outcome_listBlockDevices] at hlist
  obtain ⟨a, rfl, rfl⟩ := Action.leads_ask_done.mp hlist
  refine ⟨a, ?_⟩
  rw [look]
  cases hlisted : listed a with
  | error f =>
    rw [hlisted] at hrest
    obtain ⟨rfl, hv⟩ := Action.leads_done.mp hrest
    exact ⟨rfl, (Prod.mk.inj hv).1⟩
  | ok devices =>
    rw [hlisted] at hrest
    dsimp only at hrest ⊢
    rw [selectDisk_eq_verdict] at hrest
    -- None, one or several disks fit; only with one is there a partition to look for.
    rcases hfits : candidates bytes devices with _ | ⟨d, _ | ⟨e, more⟩⟩
    · rw [hfits] at hrest
      obtain ⟨rfl, hv⟩ := Action.leads_done.mp hrest
      exact ⟨rfl, (Prod.mk.inj hv).1⟩
    · rw [hfits] at hrest
      obtain ⟨h₅, ⟨u, s₂⟩, h₆, hset, hend, rfl⟩ := Action.leads_bind.mp hrest
      obtain ⟨rfl, -⟩ := Action.leads_done.mp hset
      dsimp only at hend ⊢
      cases hpartition : selectPartition devices d.name with
      | error f =>
        rw [hpartition] at hend
        obtain ⟨rfl, hv⟩ := Action.leads_done.mp hend
        exact ⟨rfl, (Prod.mk.inj hv).1⟩
      | ok p =>
        rw [hpartition] at hend
        obtain ⟨rfl, hv⟩ := Action.leads_done.mp hend
        exact ⟨rfl, (Prod.mk.inj hv).1⟩
    · rw [hfits] at hrest
      obtain ⟨rfl, hv⟩ := Action.leads_done.mp hrest
      exact ⟨rfl, (Prod.mk.inj hv).1⟩

/-! ### What the listing shows -/

theorem listed_eq_ok_iff {a : Except Failure String} {devices : List BlockDevice} :
    listed a = .ok devices ↔ ∃ output, a = .ok output ∧ ofListing output = .ok devices := by
  cases a with
  | error f => simp [listed, bind, Except.bind]
  | ok output => simp [listed, bind, Except.bind]

/-- What a listing shows, and what comes of it: at the first look, and while waiting. -/
inductive Shown (bytes : Nat) : Except Failure String → Except Failure (Option BlockDevice) →
    Option (Except Failure BlockDevice) → Prop
  | unread {a : Except Failure String} {f : Failure} (hlisted : listed a = .error f) :
      Shown bytes a (.error f) none
  | absent {output : String} {devices : List BlockDevice}
      (hdevices : ofListing output = .ok devices) (hnone : ∀ d ∈ devices, ¬Fits bytes d) :
      Shown bytes (.ok output) (.ok none) none
  | unpartitioned {output : String} {devices : List BlockDevice} {d : BlockDevice}
      (hdevices : ofListing output = .ok devices) (hfits : candidates bytes devices = [d])
      (hnone : ∀ p ∈ devices, ¬PartOf d.name p) :
      Shown bytes (.ok output) (.error (.operation ("disk " ++ d.name
        ++ " has no partition; rerun with --reinit to recreate the store"))) none
  | partition {output : String} {devices : List BlockDevice} {d p : BlockDevice}
      (hdevices : ofListing output = .ok devices) (hfits : candidates bytes devices = [d])
      (hp : LastLargest (PartOf d.name) devices p) :
      Shown bytes (.ok output) (.ok (some p)) (some (.ok p))
  | several {output : String} {devices : List BlockDevice}
      (hdevices : ofListing output = .ok devices)
      (hmany : 2 ≤ (candidates bytes devices).length) :
      Shown bytes (.ok output)
        (.error (.ambiguousDisk bytes ((candidates bytes devices).map (·.name))))
        (some (.error (.ambiguousDisk bytes ((candidates bytes devices).map (·.name)))))

/-- What an answer shows decides about the first look and about all later ones. -/
theorem shown (bytes : Nat) (a : Except Failure String) :
    Shown bytes a (firstLook bytes a) (look bytes a) := by
  rw [firstLook, look]
  cases hlisted : listed a with
  | error f => exact .unread hlisted
  | ok devices =>
    obtain ⟨output, rfl, hdevices⟩ := listed_eq_ok_iff.mp hlisted
    dsimp only
    rcases hfits : candidates bytes devices with _ | ⟨d, _ | ⟨e, more⟩⟩
    · exact .absent hdevices (by simpa [candidates, List.filter_eq_nil_iff] using hfits)
    · dsimp only
      cases hp : selectPartition devices d.name with
      | ok p => exact .partition hdevices hfits (((selectPartition_selection _ _).ok_iff p).mp hp)
      | error f =>
        exact .unpartitioned hdevices hfits (((selectPartition_selection _ _).error_iff f).mp hp).2
    · have hmany : 2 ≤ (candidates bytes devices).length := by simp [hfits]
      simpa only [hfits] using Shown.several hdevices hmany

/-- The first look goes on to make a disk if none of those listed fits. -/
theorem firstLook_none {a : Except Failure String} (hfirst : firstLook bytes a = .ok none) :
    ∃ output devices, a = .ok output ∧ ofListing output = .ok devices ∧
      ∀ d ∈ devices, ¬Fits bytes d := by
  have hshown := shown bytes a
  rw [hfirst] at hshown
  generalize look bytes a = waiting at hshown
  cases hshown with
  | absent hdevices hnone => exact ⟨_, _, rfl, hdevices, hnone⟩

/-- The listing shows a single disk of the size, and the partition on it. -/
def ShowsPartition (bytes : Nat) (a : Except Failure String) (p : BlockDevice) : Prop :=
  ∃ output devices d, a = .ok output ∧ ofListing output = .ok devices ∧
    candidates bytes devices = [d] ∧ LastLargest (PartOf d.name) devices p

/-- A partition that is found is the largest of the one disk that fits. -/
theorem firstLook_some {a : Except Failure String} {p : BlockDevice}
    (hfirst : firstLook bytes a = .ok (some p)) : ShowsPartition bytes a p := by
  have hshown := shown bytes a
  rw [hfirst] at hshown
  generalize look bytes a = waiting at hshown
  cases hshown with
  | partition hdevices hfits hp => exact ⟨_, _, _, rfl, hdevices, hfits, hp⟩

theorem look_some {a : Except Failure String} {p : BlockDevice}
    (hlook : look bytes a = some (.ok p)) : ShowsPartition bytes a p := by
  have hshown := shown bytes a
  rw [hlook] at hshown
  generalize firstLook bytes a = first at hshown
  cases hshown with
  | partition hdevices hfits hp => exact ⟨_, _, _, rfl, hdevices, hfits, hp⟩

/-- Waiting ends with a failure only because of several disks. -/
theorem look_error {a : Except Failure String} {f : Failure}
    (hlook : look bytes a = some (.error f)) : ∃ names, f = .ambiguousDisk bytes names := by
  have hshown := shown bytes a
  rw [hlook] at hshown
  generalize firstLook bytes a = first at hshown
  cases hshown with
  | several hdevices hmany => exact ⟨_, rfl⟩

/-- A disk that is there without a partition is not taken. -/
theorem firstLook_unpartitioned {output : String} {devices : List BlockDevice} {d : BlockDevice}
    (hdevices : ofListing output = .ok devices) (hfits : candidates bytes devices = [d])
    (hnone : ∀ p ∈ devices, ¬PartOf d.name p) :
    firstLook bytes (.ok output) = .error (.operation ("disk " ++ d.name
      ++ " has no partition; rerun with --reinit to recreate the store")) := by
  have hpartition : selectPartition devices d.name = .error (.partitionNotFound d.name) :=
    ((selectPartition_selection devices d.name).error_iff _).mpr ⟨rfl, hnone⟩
  have hlisted : listed (.ok output) = .ok devices := listed_eq_ok_iff.mpr ⟨output, rfl, hdevices⟩
  rw [firstLook, hlisted]
  dsimp only
  rw [hfits]
  dsimp only
  rw [hpartition]

/-- The listing shows several disks of the size. -/
def ShowsSeveral (bytes : Nat) (a : Except Failure String) (f : Failure) : Prop :=
  firstLook bytes a = .error f ∧ look bytes a = some (.error f)

/-- Several disks that fit are refused, by their names. -/
theorem showsSeveral {output : String} {devices : List BlockDevice}
    (hdevices : ofListing output = .ok devices) (hmany : 2 ≤ (candidates bytes devices).length) :
    ShowsSeveral bytes (.ok output)
      (.ambiguousDisk bytes ((candidates bytes devices).map (·.name))) := by
  have hlisted : listed (.ok output) = .ok devices := listed_eq_ok_iff.mpr ⟨output, rfl, hdevices⟩
  rw [ShowsSeveral, firstLook, look, hlisted]
  dsimp only
  rcases hfits : candidates bytes devices with _ | ⟨d, _ | ⟨e, more⟩⟩
  · rw [hfits] at hmany
    cases hmany
  · rw [hfits] at hmany
    simp at hmany
  · exact ⟨rfl, rfl⟩

end BtrfsStore.Wsl
