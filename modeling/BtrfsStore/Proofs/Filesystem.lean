import BtrfsStore.Proofs.Steps
import BtrfsStore.Proofs.Text
/-!
# BtrfsStore.Proofs.Filesystem

The runs of the filesystem operations, written out.

An answer to a question about a filesystem is *silent*, *names* a type or is a
failure of the question itself. In these words every run of `ensure` is one of
the eight of `EnsureRun`, and every run of `release` one of the three of `ReleaseRun`: an inductive
predicate for each operation, with one lemma that a run of the operation
satisfies it. Proofs about formatting and about unmounting go by cases on these
predicates and do not open the operations.
-/

namespace BtrfsStore.Filesystem

/-! ### Answers -/

/-- The answer says that there is nothing: it is blank, or the command has
ended with the exit code that stands for nothing. -/
def Silent (noneCode : Int) : Except Failure String → Prop
  | .ok output => Text.isBlankText output = true
  | .error f => f.exitCode = some noneCode

/-- The answer names a filesystem type. -/
def Names (fsType : String) : Except Failure String → Prop
  | .ok output => Text.firstWord output = some fsType
  | .error _ => False

/-- The answer names a filesystem type other than btrfs. -/
def NamesForeign (answer : Except Failure String) : Prop :=
  ∃ fsType, fsType ≠ btrfsType ∧ Names fsType answer

/-- An answer is silent if it is read as no type. -/
theorem silent_iff {noneCode : Int} {answer : Except Failure String} :
    Silent noneCode answer ↔ reading noneCode answer = .ok none := by
  cases answer with
  | ok output => simp [Silent, reading, Text.firstWord_eq_none_iff]
  | error f => simp [Silent, reading]

/-- An answer names a type if it is read as this type, whichever exit code stands for
nothing. -/
theorem names_iff {fsType : String} {answer : Except Failure String} (noneCode : Int) :
    Names fsType answer ↔ reading noneCode answer = .ok (some fsType) := by
  cases answer with
  | ok output => simp [Names, reading]
  | error f =>
    simp only [Names, reading, false_iff]
    split <;> simp

/-- A question has failed if its exit code does not stand for nothing. -/
theorem reading_eq_error_iff {noneCode : Int} {answer : Except Failure String} {f : Failure} :
    reading noneCode answer = .error f ↔ answer = .error f ∧ f.exitCode ≠ some noneCode := by
  cases answer with
  | ok output => simp [reading]
  | error g =>
    by_cases hcode : g.exitCode = some noneCode
    · simp only [reading, hcode, if_true, Except.error.injEq, reduceCtorEq, false_iff]
      intro hfailed
      obtain ⟨rfl, hne⟩ := hfailed
      exact hne hcode
    · simp only [reading, hcode, if_false, Except.error.injEq]
      constructor
      · rintro rfl
        exact ⟨rfl, hcode⟩
      · exact fun h => h.1

/-- A silent answer names nothing. -/
theorem Silent.not_names {noneCode : Int} {answer : Except Failure String}
    (ha : Silent noneCode answer) (fsType : String) : ¬Names fsType answer := by
  rw [names_iff noneCode, silent_iff.mp ha]
  simp

theorem Silent.not_foreign {noneCode : Int} {answer : Except Failure String}
    (ha : Silent noneCode answer) : ¬NamesForeign answer := by
  intro hforeign
  obtain ⟨fsType, -, hnames⟩ := hforeign
  exact ha.not_names fsType hnames

theorem Names.not_foreign {answer : Except Failure String} (ha : Names btrfsType answer) :
    ¬NamesForeign answer := by
  intro hforeign
  obtain ⟨fsType, hne, hnames⟩ := hforeign
  rw [names_iff 0] at ha hnames
  rw [ha] at hnames
  cases hnames
  exact hne rfl

/-! ### Commands -/

/-- The question which filesystem is mounted from a device. -/
def mountCheck (root : Target) (device : String) : Command :=
  { target := root, description := "check existing mount", program := "findmnt"
    args := ["-n", "-o", "FSTYPE", "-S", device], limit := Limit.probe }

/-- The question which signature is on a device. -/
def signatureProbe (root : Target) (device : String) : Command :=
  { target := root, description := "probe filesystem signature", program := "blkid"
    args := ["-p", "-o", "value", "-s", "TYPE", device], limit := Limit.probe }

def wipe (root : Target) (device : String) : Command :=
  { target := root, description := "wipe filesystem signatures", program := "wipefs"
    args := ["-a", device], limit := Limit.standard }

def makeBtrfs (root : Target) (device : String) : Command :=
  { target := root, description := "format btrfs", program := "mkfs.btrfs"
    args := ["-f", device], limit := Limit.standard }

/-- The mount on a probe directory. -/
def trialMount (root : Target) (device dir : String) : Command :=
  { target := root, description := "probe mount", program := "mount"
    args := ["-t", btrfsType, device, dir], limit := Limit.standard }

def makeProbeDir (root : Target) : Command :=
  { target := root, description := "create probe directory", program := "mktemp"
    args := ["-d"], limit := Limit.quick }

def unmountTrial (root : Target) (dir : String) : Command :=
  { target := root, description := "probe unmount", program := "umount"
    args := [dir], limit := Limit.quick }

def removeProbeDir (root : Target) (dir : String) : Command :=
  { target := root, description := "remove probe directory", program := "rmdir"
    args := [dir], limit := Limit.quick }

def unmountStore (root : Target) (dir : String) : Command :=
  { target := root, description := "unmount store", program := "umount"
    args := [dir], limit := Limit.quick }

/-- The question which filesystem is mounted on a directory. -/
def mountPointCheck (root : Target) (dir : String) : Command :=
  { target := root, description := "check live mount", program := "findmnt"
    args := ["-n", "-o", "FSTYPE", "--mountpoint", dir], limit := Limit.probe }

section

variable {root : Target} {device dir : String} {h : History}

/-! ### Questions about types -/

/-- Whether a device is mounted is one question. -/
theorem leads_mountedType {r : Except Failure (Option String)} :
    (mountedType root device).outcome.Leads h r ↔
      ∃ m, h = [(mountCheck root device).event m] ∧ r = reading 1 m := by
  simp only [mountedType, outcome_typeOrNone, Attempt.outcome_runWithin, Action.ask_map,
    Action.done_map]
  exact Action.leads_ask_done

theorem leads_probedType {r : Except Failure (Option String)} :
    (probedType root device).outcome.Leads h r ↔
      ∃ a, h = [(signatureProbe root device).event a] ∧ r = reading 2 a := by
  simp only [probedType, outcome_typeOrNone, Attempt.outcome_runWithin, Action.ask_map,
    Action.done_map]
  exact Action.leads_ask_done

theorem leads_mountPointType {r : Except Failure (Option String)} :
    (mountPointType root dir).outcome.Leads h r ↔
      ∃ m, h = [(mountPointCheck root dir).event m] ∧ r = reading 1 m := by
  simp only [mountPointType, outcome_typeOrNone, Attempt.outcome_runWithin, Action.ask_map,
    Action.done_map]
  exact Action.leads_ask_done

/-! ### Detection -/

/-- The runs of `detect`. -/
inductive DetectRun (root : Target) (device : String) :
    History → Except Failure Detected → Prop
  | mountedBtrfs {m : Except Failure String} (hm : Names btrfsType m) :
      DetectRun root device [(mountCheck root device).event m] (.ok .mountedBtrfs)
  | mountedOther {m : Except Failure String} {fsType : String} (hne : fsType ≠ btrfsType)
      (hm : Names fsType m) :
      DetectRun root device [(mountCheck root device).event m] (.ok (.mountedOther fsType))
  | mountUnknown {f : Failure} (hf : f.exitCode ≠ some 1) :
      DetectRun root device [(mountCheck root device).event (.error f)] (.error f)
  | btrfs {m a : Except Failure String} (hm : Silent 1 m) (ha : Names btrfsType a) :
      DetectRun root device
        [(mountCheck root device).event m, (signatureProbe root device).event a] (.ok .btrfs)
  | other {m a : Except Failure String} {fsType : String} (hm : Silent 1 m)
      (hne : fsType ≠ btrfsType) (ha : Names fsType a) :
      DetectRun root device
        [(mountCheck root device).event m, (signatureProbe root device).event a]
        (.ok (.other fsType))
  | empty {m a : Except Failure String} (hm : Silent 1 m) (ha : Silent 2 a) :
      DetectRun root device
        [(mountCheck root device).event m, (signatureProbe root device).event a] (.ok .empty)
  | signatureUnknown {m : Except Failure String} {f : Failure} (hm : Silent 1 m)
      (hf : f.exitCode ≠ some 2) :
      DetectRun root device
        [(mountCheck root device).event m, (signatureProbe root device).event (.error f)]
        (.error f)

/-- Every look at a device is one of those of `DetectRun`. -/
theorem detect_run {r : Except Failure Detected}
    (hl : (detect root device).outcome.Leads h r) : DetectRun root device h r := by
  unfold detect at hl
  rcases Attempt.leads_bind.mp hl with
    ⟨f, hmounted, rfl⟩ | ⟨h₁, mounted, h₂, hmounted, hrest, rfl⟩
  · obtain ⟨m, rfl, hm⟩ := leads_mountedType.mp hmounted
    obtain ⟨rfl, hf⟩ := reading_eq_error_iff.mp hm.symm
    exact .mountUnknown hf
  obtain ⟨m, rfl, hm⟩ := leads_mountedType.mp hmounted
  cases mounted with
  | some fsType =>
    obtain ⟨rfl, rfl⟩ := Action.leads_done.mp hrest
    have hnames : Names fsType m := (names_iff 1).mpr hm.symm
    by_cases hbtrfs : fsType = btrfsType
    · rw [if_pos hbtrfs]
      exact .mountedBtrfs (hbtrfs ▸ hnames)
    · rw [if_neg hbtrfs]
      exact .mountedOther hbtrfs hnames
  | none =>
    -- Only a device that is mounted nowhere is probed.
    have hsilent : Silent 1 m := silent_iff.mpr hm.symm
    rcases Attempt.leads_bind.mp hrest with
      ⟨f, hprobed, rfl⟩ | ⟨h₁, probed, h₂, hprobed, hrest, rfl⟩
    · obtain ⟨a, rfl, ha⟩ := leads_probedType.mp hprobed
      obtain ⟨rfl, hf⟩ := reading_eq_error_iff.mp ha.symm
      exact .signatureUnknown hsilent hf
    obtain ⟨a, rfl, ha⟩ := leads_probedType.mp hprobed
    cases probed with
    | none =>
      obtain ⟨rfl, rfl⟩ := Action.leads_done.mp hrest
      exact .empty hsilent (silent_iff.mpr ha.symm)
    | some fsType =>
      obtain ⟨rfl, rfl⟩ := Action.leads_done.mp hrest
      have hnames : Names fsType a := (names_iff 2).mpr ha.symm
      by_cases hbtrfs : fsType = btrfsType
      · rw [if_pos hbtrfs]
        exact .btrfs hsilent (hbtrfs ▸ hnames)
      · rw [if_neg hbtrfs]
        exact .other hsilent hbtrfs hnames

/-! ### Verification -/

/-- The event shows that the device carries btrfs: its signature is that of
btrfs, or the kernel has mounted it. -/
def Confirms (root : Target) (device : String) (e : Event) : Prop :=
  (∃ a, e = (signatureProbe root device).event a ∧ Names btrfsType a) ∨
    ∃ dir output, e = (trialMount root device dir).event (.ok output)

theorem confirms_signatureProbe {a : Except Failure String} :
    Confirms root device ((signatureProbe root device).event a) ↔ Names btrfsType a := by
  simp [Confirms, signatureProbe, trialMount]

/-- The runs of `probeMount`. -/
inductive TrialRun (root : Target) (device : String) : History → Except Failure Unit → Prop
  | noDirectory {f : Failure} :
      TrialRun root device [(makeProbeDir root).event (.error f)] (.error f)
  | blankDirectory {output : String} (hblank : (Text.trim output).isEmpty = true) :
      TrialRun root device [(makeProbeDir root).event (.ok output)]
        (.error (.verifyFailed device "mktemp returned no directory"))
  | mounted {output mountOutput : String} {u d : Except Failure String}
      (hdir : (Text.trim output).isEmpty = false) :
      TrialRun root device
        [(makeProbeDir root).event (.ok output),
          (trialMount root device (Text.trim output)).event (.ok mountOutput),
          (unmountTrial root (Text.trim output)).event u,
          (removeProbeDir root (Text.trim output)).event d]
        (.ok ())
  | notMounted {output : String} {f : Failure} {d : Except Failure String}
      (hdir : (Text.trim output).isEmpty = false) :
      TrialRun root device
        [(makeProbeDir root).event (.ok output),
          (trialMount root device (Text.trim output)).event (.error f),
          (removeProbeDir root (Text.trim output)).event d]
        (.error (.verifyFailed device f.message))

/-- Every trial mount is one of the four of `TrialRun`. -/
theorem probeMount_run {r : Except Failure Unit}
    (hl : (probeMount root device).outcome.Leads h r) : TrialRun root device h r := by
  unfold probeMount at hl
  rcases Attempt.leads_bind.mp hl with ⟨f, hmake, rfl⟩ | ⟨_, output, h₂, hmake, hrest, rfl⟩
  · obtain ⟨answer, rfl, ha⟩ := Action.leads_ask_done.mp hmake
    subst ha
    exact .noDirectory
  obtain ⟨answer, rfl, ha⟩ := Action.leads_ask_done.mp hmake
  subst ha
  dsimp only at hrest
  by_cases hblank : (Text.trim output).isEmpty = true
  · rw [if_pos hblank] at hrest
    obtain ⟨rfl, rfl⟩ := Action.leads_done.mp hrest
    exact .blankDirectory hblank
  rw [if_neg hblank] at hrest
  have hdir : (Text.trim output).isEmpty = false := Bool.eq_false_iff.mpr hblank
  obtain ⟨mounted, h₃, rfl, htried⟩ := Attempt.leads_observe_runWithin.mp hrest
  -- Only a mount that has succeeded is taken away again.
  cases mounted with
  | ok mountOutput =>
    obtain ⟨u, h₄, rfl, hunmounted⟩ := Attempt.leads_orIgnore_runWithin.mp htried
    obtain ⟨d, h₅, rfl, hremoved⟩ := Attempt.leads_orIgnore_runWithin.mp hunmounted
    obtain ⟨rfl, rfl⟩ := Action.leads_done.mp hremoved
    exact .mounted hdir
  | error f =>
    obtain ⟨d, h₄, rfl, hremoved⟩ := Attempt.leads_orIgnore_runWithin.mp htried
    obtain ⟨rfl, rfl⟩ := Action.leads_done.mp hremoved
    exact .notMounted hdir

/-- A trial mount succeeds exactly if the kernel has mounted the device. -/
theorem TrialRun.confirms {r : Except Failure Unit} (hr : TrialRun root device h r) :
    r = .ok () ↔ ∃ e ∈ h, Confirms root device e := by
  cases hr <;>
    simp [Confirms, makeProbeDir, trialMount, unmountTrial, removeProbeDir, signatureProbe]

/-- One look at the signature finds btrfs exactly if the answer names it. -/
theorem leads_confirmed {v : Option Unit} (hl : (confirmed root device).Leads h v) :
    v = some () ↔ ∃ e ∈ h, Confirms root device e := by
  unfold confirmed at hl
  obtain ⟨_, probed, h₂, hprobed, hrest, rfl⟩ := Action.leads_bind.mp hl
  obtain ⟨a, rfl, rfl⟩ := leads_probedType.mp hprobed
  have hanswer : h₂ = [] ∧ (v = some () ↔ Names btrfsType a) := by
    rw [names_iff 2]
    generalize reading 2 a = probed at hrest
    rcases probed with f | _ | fsType <;> obtain ⟨rfl, rfl⟩ := Action.leads_done.mp hrest <;> simp
  rw [hanswer.1, hanswer.2]
  simp [confirms_signatureProbe]

/-- Verification succeeds exactly if the signature or a trial mount shows
btrfs. -/
theorem verify_confirms {r : Except Failure Unit}
    (hl : (verify root device).outcome.Leads h r) :
    r = .ok () ↔ ∃ e ∈ h, Confirms root device e := by
  unfold verify at hl
  rcases Attempt.leads_bind.mp hl with ⟨f, hpoll, rfl⟩ | ⟨h₁, found, h₂, hpoll, hrest, rfl⟩
  · rw [Retry.outcome_poll_liftM, Action.leads_map] at hpoll
    obtain ⟨p, -, hp⟩ := hpoll
    cases hp
  rw [Retry.outcome_poll_liftM, Action.leads_map] at hpoll
  obtain ⟨⟨v, s⟩, hpoll, hp⟩ := hpoll
  cases hp
  obtain ⟨n, -, h₀, s₁, h₃, hrounds, hlast, rfl, -⟩ := Retry.leads_pollMore.mp hpoll
  have hlook : ∀ {s s' h v}, ((StateT.lift (confirmed root device) : StateT Unit Action _).run
      s).Leads h (v, s') → (confirmed root device).Leads h v := by
    intro s s' h v hl
    obtain ⟨h₁, v', h₂, hc, hd, rfl⟩ := Action.leads_bind.mp hl
    obtain ⟨rfl, hp⟩ := Action.leads_done.mp hd
    cases hp
    simpa using hc
  -- Neither the rounds nor a last look without success shows btrfs.
  have hvain : ∀ e ∈ h₀, ¬Confirms root device e := by
    refine hrounds.forall_mem (fun s h s' hl e he hc => ?_) ?_
    · have := (leads_confirmed (hlook hl)).mpr ⟨e, he, hc⟩
      cases this
    · simp [Confirms]
  cases v with
  | some u =>
    obtain ⟨rfl, rfl⟩ := Action.leads_done.mp hrest
    obtain ⟨e, he, hc⟩ := (leads_confirmed (hlook hlast)).mp rfl
    exact ⟨fun _ => ⟨e, by simp [he], hc⟩, fun _ => rfl⟩
  | none =>
    have hlast : ∀ e ∈ h₃, ¬Confirms root device e := by
      intro e he hc
      have := (leads_confirmed (hlook hlast)).mpr ⟨e, he, hc⟩
      cases this
    rw [(probeMount_run hrest).confirms]
    simp only [List.mem_append, or_and_right, exists_or]
    constructor
    · exact .inr
    · intro hshown
      rcases hshown with (⟨e, he, hc⟩ | ⟨e, he, hc⟩) | hconfirmed
      · exact absurd hc (hvain e he)
      · exact absurd hc (hlast e he)
      · exact hconfirmed

/-! ### Formatting -/

/-- The runs of `format` in which `mkfs.btrfs` is reached, up to it. -/
inductive Wiped (root : Target) (device : String) : Bool → History → Prop
  | fresh : Wiped root device false []
  | wiped {output : String} : Wiped root device true [(wipe root device).event (.ok output)]

/-- What follows `mkfs.btrfs`, by its answer. -/
inductive AfterMake (root : Target) (device : String) :
    Except Failure String → History → Except Failure FormatOutcome → Prop
  | failed {f : Failure} : AfterMake root device (.error f) [] (.error f)
  | checked {output : String} {h : History} {v : Except Failure Unit}
      (hv : (verify root device).outcome.Leads h v) :
      AfterMake root device (.ok output) h (Except.map (fun _ => .formatted) v)

/-- The runs that format a device and verify it. -/
inductive MakeRun (root : Target) (device : String) (wiping : Bool) :
    History → Except Failure FormatOutcome → Prop
  | wipeFailed {f : Failure} (hw : wiping = true) :
      MakeRun root device wiping [(wipe root device).event (.error f)] (.error f)
  | made {wiped post : History} {a : Except Failure String} {r : Except Failure FormatOutcome}
      (hw : Wiped root device wiping wiped) (ha : AfterMake root device a post r) :
      MakeRun root device wiping (wiped ++ (makeBtrfs root device).event a :: post) r

/-- Formatting is wiping where there is something to wipe, and `mkfs.btrfs` only if that has
succeeded. -/
theorem format_run {wiping : Bool} {r : Except Failure Unit}
    (hl : (format root device wiping).outcome.Leads h r) :
    (∃ f, wiping = true ∧ h = [(wipe root device).event (.error f)] ∧ r = .error f) ∨
      ∃ wiped a, Wiped root device wiping wiped ∧ h = wiped ++ [(makeBtrfs root device).event a] ∧
        r = Except.map (fun _ => ()) a := by
  cases wiping with
  | false =>
    obtain ⟨a, rfl, rfl⟩ := Attempt.leads_discard_runWithin.mp hl
    exact .inr ⟨[], a, .fresh, rfl, rfl⟩
  | true =>
    rcases Attempt.leads_bind.mp hl with ⟨f, hwipe, rfl⟩ | ⟨_, u, h₂, hwipe, hmake, rfl⟩
    · obtain ⟨a | output, rfl, hf⟩ := Attempt.leads_discard_runWithin.mp hwipe
      · cases hf
        exact .inl ⟨f, rfl, rfl, rfl⟩
      · cases hf
    · obtain ⟨f | output, rfl, hf⟩ := Attempt.leads_discard_runWithin.mp hwipe
      · cases hf
      · obtain ⟨a, rfl, rfl⟩ := Attempt.leads_discard_runWithin.mp hmake
        exact .inr ⟨_, a, .wiped, rfl, rfl⟩

/-- Every run that formats and verifies is one of those of `MakeRun`. -/
theorem make_run {wiping : Bool} {r : Except Failure FormatOutcome}
    (hl : (do format root device wiping; verify root device; pure .formatted
      : Attempt FormatOutcome).outcome.Leads h r) : MakeRun root device wiping h r := by
  rcases Attempt.leads_bind.mp hl with ⟨f, hformat, rfl⟩ | ⟨h₁, u, h₂, hformat, hrest, rfl⟩
  · rcases format_run hformat with ⟨f', hw, rfl, hf⟩ | ⟨wiped, a | output, hw, rfl, hf⟩
    · cases hf
      exact .wipeFailed hw
    · cases hf
      exact .made hw .failed
    · cases hf
  · rcases format_run hformat with ⟨f', hw, rfl, hf⟩ | ⟨wiped, f | output, hw, rfl, hf⟩
    · cases hf
    · cases hf
    · rw [List.append_assoc]
      refine .made hw ?_
      rcases Attempt.leads_bind.mp hrest with ⟨f, hverify, rfl⟩ | ⟨h₃, v, h₄, hverify, hd, rfl⟩
      · exact .checked hverify
      · obtain ⟨rfl, rfl⟩ := Action.leads_done.mp hd
        rw [List.append_nil]
        exact .checked hverify

/-- The runs of `ensure`. -/
inductive EnsureRun (root : Target) (device : String) (allowFormat : Bool) :
    History → Except Failure FormatOutcome → Prop
  | mountedBtrfs {m : Except Failure String} (hm : Names btrfsType m) :
      EnsureRun root device allowFormat [(mountCheck root device).event m] (.ok .existing)
  | mountedOther {m : Except Failure String} {f : Failure} (hm : NamesForeign m) :
      EnsureRun root device allowFormat [(mountCheck root device).event m] (.error f)
  | mountUnknown {f : Failure} (hf : f.exitCode ≠ some 1) :
      EnsureRun root device allowFormat [(mountCheck root device).event (.error f)] (.error f)
  | btrfs {m a : Except Failure String} (hm : Silent 1 m) (ha : Names btrfsType a) :
      EnsureRun root device allowFormat
        [(mountCheck root device).event m, (signatureProbe root device).event a] (.ok .existing)
  | refused {m a : Except Failure String} {f : Failure} (hm : Silent 1 m)
      (ha : NamesForeign a ∨ Silent 2 a) (hallow : allowFormat = false) :
      EnsureRun root device allowFormat
        [(mountCheck root device).event m, (signatureProbe root device).event a] (.error f)
  | signatureUnknown {m : Except Failure String} {f : Failure} (hm : Silent 1 m)
      (hf : f.exitCode ≠ some 2) :
      EnsureRun root device allowFormat
        [(mountCheck root device).event m, (signatureProbe root device).event (.error f)]
        (.error f)
  | foreign {m a : Except Failure String} {h : History} {r : Except Failure FormatOutcome}
      (hm : Silent 1 m) (ha : NamesForeign a) (hallow : allowFormat = true)
      (hmake : MakeRun root device true h r) :
      EnsureRun root device allowFormat
        ((mountCheck root device).event m :: (signatureProbe root device).event a :: h) r
  | empty {m a : Except Failure String} {h : History} {r : Except Failure FormatOutcome}
      (hm : Silent 1 m) (ha : Silent 2 a) (hallow : allowFormat = true)
      (hmake : MakeRun root device false h r) :
      EnsureRun root device allowFormat
        ((mountCheck root device).event m :: (signatureProbe root device).event a :: h) r

/-- **Every run of `ensure`** is one of the eight of `EnsureRun`. -/
theorem ensure_run {allowFormat : Bool} {r : Except Failure FormatOutcome}
    (hl : (ensure root device allowFormat).outcome.Leads h r) :
    EnsureRun root device allowFormat h r := by
  unfold ensure at hl
  rcases Attempt.leads_bind.mp hl with ⟨f, hdetect, rfl⟩ | ⟨h₁, state, h₂, hdetect, hrest, rfl⟩
  · cases detect_run hdetect with
    | mountUnknown hf => exact .mountUnknown hf
    | signatureUnknown hm hf => exact .signatureUnknown hm hf
  cases detect_run hdetect with
  | mountedBtrfs hm =>
    obtain ⟨rfl, rfl⟩ := Action.leads_done.mp hrest
    exact .mountedBtrfs hm
  | mountedOther hne hm =>
    obtain ⟨rfl, rfl⟩ := Action.leads_done.mp hrest
    exact .mountedOther ⟨_, hne, hm⟩
  | btrfs hm ha =>
    obtain ⟨rfl, rfl⟩ := Action.leads_done.mp hrest
    exact .btrfs hm ha
  | other hm hne ha =>
    cases allowFormat with
    | false =>
      obtain ⟨rfl, rfl⟩ := Action.leads_done.mp hrest
      exact .refused hm (.inl ⟨_, hne, ha⟩) rfl
    | true => exact .foreign hm ⟨_, hne, ha⟩ rfl (make_run hrest)
  | empty hm ha =>
    cases allowFormat with
    | false =>
      obtain ⟨rfl, rfl⟩ := Action.leads_done.mp hrest
      exact .refused hm (.inr ha) rfl
    | true => exact .empty hm ha rfl (make_run hrest)

/-! ### Unmounting -/

/-- The answer is a failure of the kind that a mount in use causes. -/
def Busy : Except Failure String → Prop
  | .ok _ => False
  | .error f => FailureKind.ofFailure f = .deviceBusy

/-- The runs of `release`. -/
inductive ReleaseRun (root : Target) (dir : String) : History → Except Failure Unit → Prop
  | busy {u : Except Failure String} {f : Failure} (hu : Busy u) :
      ReleaseRun root dir [(unmountStore root dir).event u] (.error f)
  | mounted {u m : Except Failure String} {f : Failure} (hu : ¬Busy u) (hm : ¬Silent 1 m) :
      ReleaseRun root dir
        [(unmountStore root dir).event u, (mountPointCheck root dir).event m] (.error f)
  | released {u m : Except Failure String} (hu : ¬Busy u) (hm : Silent 1 m) :
      ReleaseRun root dir
        [(unmountStore root dir).event u, (mountPointCheck root dir).event m] (.ok ())

/-- **Every run of `release`** is one of the three of `ReleaseRun`. -/
theorem release_run {r : Except Failure Unit} (hl : (release root dir).outcome.Leads h r) :
    ReleaseRun root dir h r := by
  unfold release at hl
  obtain ⟨u, h₂, rfl, hrest⟩ := Attempt.leads_observe_runWithin.mp hl
  extract_lets check at hrest
  -- The check of the mount point is the same after a success and after a
  -- failure that is not of this kind.
  have hcheck : ¬Busy u → (check ()).outcome.Leads h₂ r →
      ReleaseRun root dir ((unmountStore root dir).event u :: h₂) r := by
    intro hbusy hl
    rcases Attempt.leads_bind.mp hl with ⟨f, hmounted, rfl⟩ | ⟨_, found, h₂, hmounted, hrest, rfl⟩
    · obtain ⟨m, rfl, hm⟩ := leads_mountPointType.mp hmounted
      obtain ⟨rfl, hf⟩ := reading_eq_error_iff.mp hm.symm
      exact .mounted hbusy hf
    obtain ⟨m, rfl, hm⟩ := leads_mountPointType.mp hmounted
    cases found with
    | none =>
      obtain ⟨rfl, rfl⟩ := Action.leads_done.mp hrest
      exact .released hbusy (silent_iff.mpr hm.symm)
    | some fsType =>
      obtain ⟨rfl, rfl⟩ := Action.leads_done.mp hrest
      exact .mounted hbusy fun hs => hs.not_names fsType ((names_iff 1).mpr hm.symm)
  cases u with
  | error f =>
    by_cases hbusy : FailureKind.ofFailure f = .deviceBusy
    · simp only [hbusy, if_true] at hrest
      obtain ⟨rfl, rfl⟩ := Action.leads_done.mp hrest
      exact .busy hbusy
    · simp only [hbusy, if_false] at hrest
      exact hcheck hbusy hrest
  | ok output => exact hcheck id hrest

end

end BtrfsStore.Filesystem
