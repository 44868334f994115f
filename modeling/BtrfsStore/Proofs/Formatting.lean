import Mathlib.Data.List.Basic
import BtrfsStore.Proofs.Filesystem
/-!
# BtrfsStore.Proofs.Formatting

**When a device is formatted.** `ensure_format_decision` reads the history of
every run of `ensure` as one or two probes and a rest, and says what the rest
and the result are in terms of the answers to the probes and the permission:

* nothing is changed unless formatting is allowed, nothing is mounted from the
  device, and its signature is foreign or missing;
* a wipe happens exactly for a foreign signature, and formatting only after it;
* a probe that failed otherwise is the failure of the run;
* `existing` and `formatted` mean what they say.

The proof goes by cases on `EnsureRun`. Only the runs that reach `mkfs.btrfs`
have an interesting rest; their part is `MakeRun`, about which the middle
section proves one lemma for each point above.
-/

namespace BtrfsStore.Filesystem

/-- Whether a question changes what is on some device, or mounts one. -/
def ChangesDevice (q : Query) : Prop := q.Runs "wipefs" ∨ q.Runs "mkfs.btrfs" ∨ q.Runs "mount"

/-- Whether a question changes what is on the given device, or mounts it on a
probe directory. -/
def Changes (root : Target) (device : String) (q : Query) : Prop :=
  q = .run (wipe root device) ∨ q = .run (makeBtrfs root device) ∨
    ∃ dir, q = .run (trialMount root device dir)

variable {root : Target} {device : String} {h : History}

/-! ### Runs that format -/

section

variable {a : Except Failure String} {post : History} {r : Except Failure FormatOutcome}

/-- Nothing is wiped or formatted once `mkfs.btrfs` has run. -/
theorem AfterMake.quiet (ha : AfterMake root device a post r) :
    ∀ e ∈ post, ¬e.query.Runs "wipefs" ∧ ¬e.query.Runs "mkfs.btrfs" := by
  have hsteps : ∀ q : Query, q.Within (verifySteps root) →
      ¬q.Runs "wipefs" ∧ ¬q.Runs "mkfs.btrfs" := by
    intro q hq
    constructor
    · intro hc
      have hstep := hq.runs hc
      simp [verifySteps, detectSteps, probeMountSteps] at hstep
    · intro hc
      have hstep := hq.runs hc
      simp [verifySteps, detectSteps, probeMountSteps] at hstep
  cases ha with
  | failed => simp
  | checked hv => exact ((asks_verify root device).within.mono hsteps).of_mem hv

/-- Only the device itself is mounted. -/
theorem AfterMake.on_device (ha : AfterMake root device a post r) :
    ∀ e ∈ post, ChangesDevice e.query → Changes root device e.query := by
  cases ha with
  | failed => simp
  | checked hv =>
    refine (asks_verify_of (Q := fun q => ChangesDevice q → Changes root device q) ?_ ?_ ?_).of_mem
      hv
    · refine (asks_confirmed root device).within.mono fun q hq hc => ?_
      rcases hc with hc | hc | hc <;> simpa [detectSteps] using hq.runs hc
    · simp [ChangesDevice, Query.Runs]
    · simp [probeMount, ChangesDevice, Changes, Query.Runs, trialMount, wipe, makeBtrfs,
        Except.isOk, Except.toBool]

theorem AfterMake.formatted_iff (ha : AfterMake root device a post r) :
    r = .ok .formatted ↔ (∃ output, a = .ok output) ∧ ∃ e ∈ post, Confirms root device e := by
  cases ha with
  | failed => simp
  | @checked output h v hv =>
    rw [← verify_confirms hv]
    rcases v with f | u <;> simp [Except.map]

theorem AfterMake.ne_existing (ha : AfterMake root device a post r) : r ≠ .ok .existing := by
  cases ha with
  | failed => simp
  | @checked output h v hv => rcases v with f | u <;> simp [Except.map]

end

namespace MakeRun

variable {wiping : Bool} {r : Except Failure FormatOutcome}

theorem changes (hr : MakeRun root device wiping h r) : ∃ e ∈ h, ChangesDevice e.query := by
  cases hr with
  | @wipeFailed f hw => exact ⟨(wipe root device).event (.error f), by simp, .inl rfl⟩
  | @made wiped post a _ hw ha =>
    exact ⟨(makeBtrfs root device).event a, by simp, .inr (.inl rfl)⟩

theorem on_device (hr : MakeRun root device wiping h r) :
    ∀ e ∈ h, ChangesDevice e.query → Changes root device e.query := by
  cases hr with
  | wipeFailed hw =>
    rintro e he -
    obtain rfl := List.mem_singleton.mp he
    exact .inl rfl
  | made hw ha =>
    intro e he hc
    rcases List.mem_append.mp he with he | he
    · cases hw with
      | fresh => simp at he
      | wiped =>
        obtain rfl := List.mem_singleton.mp he
        exact .inl rfl
    · rcases List.mem_cons.mp he with rfl | he
      · exact .inr (.inl rfl)
      · exact ha.on_device e he hc

/-- A wipe is the first command of the run, and happens exactly if it is
wanted. -/
theorem wipes (hr : MakeRun root device wiping h r) {before after : History} {e : Event}
    (hsplit : h = before ++ e :: after) (he : e.query.Runs "wipefs") :
    before = [] ∧ wiping = true := by
  cases hr with
  | wipeFailed hw =>
    cases before with
    | nil => exact ⟨rfl, hw⟩
    | cons b before => simp at hsplit
  | @made wiped post a _ hw ha =>
    -- A wipe is neither `mkfs.btrfs` nor anything after it.
    have hmake : e ∉ (makeBtrfs root device).event a :: post := by
      intro hmem
      rcases List.mem_cons.mp hmem with rfl | hmem
      · simp [Query.Runs, makeBtrfs] at he
      · exact (ha.quiet e hmem).1 he
    cases hw with
    | fresh =>
      rw [List.nil_append] at hsplit
      exact absurd (hsplit ▸ by simp) hmake
    | wiped =>
      cases before with
      | nil => exact ⟨rfl, rfl⟩
      | cons b before =>
        have hsplit : (makeBtrfs root device).event a :: post = before ++ e :: after :=
          (List.cons.inj hsplit).2
        exact absurd (hsplit ▸ by simp) hmake

theorem wipes_iff (hr : MakeRun root device wiping h r) :
    (∃ e ∈ h, e.query.Runs "wipefs") ↔ wiping = true := by
  constructor
  · intro hwipes
    obtain ⟨e, hmem, he⟩ := hwipes
    obtain ⟨before, after, hsplit⟩ := List.append_of_mem hmem
    exact (hr.wipes hsplit he).2
  · rintro rfl
    cases hr with
    | @wipeFailed f hw => exact ⟨(wipe root device).event (.error f), by simp, rfl⟩
    | made hw ha =>
      cases hw with
      | @wiped output => exact ⟨(wipe root device).event (.ok output), by simp, rfl⟩

/-- `mkfs.btrfs` is reached only after the wipe, if one is wanted, has
succeeded, and what follows it is decided by its answer. -/
theorem makes (hr : MakeRun root device wiping h r) {before after : History} {e : Event}
    (hsplit : h = before ++ e :: after) (he : e.query.Runs "mkfs.btrfs") :
    Wiped root device wiping before ∧
      ∃ a, e = (makeBtrfs root device).event a ∧ AfterMake root device a after r := by
  cases hr with
  | @wipeFailed f hw =>
    have hmem : e ∈ [(wipe root device).event (.error f)] := hsplit ▸ by simp
    obtain rfl := List.mem_singleton.mp hmem
    simp [Query.Runs, wipe] at he
  | @made wiped post a _ hw ha =>
    have hpre : e ∉ wiped := by
      intro hmem
      cases hw with
      | fresh => simp at hmem
      | wiped =>
        obtain rfl := List.mem_singleton.mp hmem
        simp [Query.Runs, wipe] at he
    have hpost : e ∉ post := fun hmem => (ha.quiet e hmem).2 he
    -- So `mkfs.btrfs` runs once, and the run is split at it in one way only.
    obtain ⟨rfl, rfl, rfl⟩ := (List.append_cons_inj_of_notMem hpre hpost).mp hsplit
    exact ⟨hw, a, rfl, ha⟩

theorem formatted_iff (hr : MakeRun root device wiping h r) :
    r = .ok .formatted ↔ ∃ before output after,
      h = before ++ (makeBtrfs root device).event (.ok output) :: after ∧
        ∃ e ∈ after, Confirms root device e := by
  constructor
  · rintro rfl
    cases hr with
    | @made wiped post a _ hw ha =>
      obtain ⟨⟨output, rfl⟩, hconfirms⟩ := ha.formatted_iff.mp rfl
      exact ⟨wiped, output, post, rfl, hconfirms⟩
  · intro hmade
    obtain ⟨before, output, after, hsplit, hconfirms⟩ := hmade
    obtain ⟨-, a, he, ha⟩ := hr.makes hsplit rfl
    obtain ⟨-, rfl⟩ := Command.event_inj.mp he
    exact ha.formatted_iff.mpr ⟨⟨output, rfl⟩, hconfirms⟩

theorem ne_existing (hr : MakeRun root device wiping h r) : r ≠ .ok .existing := by
  cases hr with
  | wipeFailed hw => simp
  | made hw ha => exact ha.ne_existing

end MakeRun

/-! ### The decision -/

/-- How the rest of a run and its result follow from the answers to its one or
two probes. -/
structure FormatDecision (root : Target) (device : String) (allowFormat : Bool)
    (mounted : Except Failure String) (probed : Option (Except Failure String)) (rest : History)
    (r : Except Failure FormatOutcome) : Prop where
  /-- The device is changed exactly if formatting is allowed, nothing is mounted
  from it, and it carries no btrfs for sure. -/
  changed : (∃ e ∈ rest, ChangesDevice e.query) ↔
    allowFormat = true ∧ Silent 1 mounted ∧ ∃ a, probed = some a ∧ (NamesForeign a ∨ Silent 2 a)
  /-- No other device is changed. -/
  on_device : ∀ e ∈ rest, ChangesDevice e.query → Changes root device e.query
  /-- It is wiped exactly if, moreover, its signature is foreign. -/
  wiped : (∃ e ∈ rest, e.query.Runs "wipefs") ↔
    allowFormat = true ∧ Silent 1 mounted ∧ ∃ a, probed = some a ∧ NamesForeign a
  /-- A wipe comes first. -/
  wipes_first : ∀ before e after, rest = before ++ e :: after → e.query.Runs "wipefs" →
    before = []
  /-- A device with a foreign signature is formatted only after a wipe that has
  succeeded. -/
  makes_after : ∀ before e after, rest = before ++ e :: after → e.query.Runs "mkfs.btrfs" →
    (∃ a, probed = some a ∧ NamesForeign a) →
      ∃ output, before = [(wipe root device).event (.ok output)]
  /-- A probe that has failed otherwise is the failure of the run. -/
  mount_unknown : ∀ f, mounted = .error f → f.exitCode ≠ some 1 → rest = [] ∧ r = .error f
  signature_unknown : ∀ f, probed = some (.error f) → f.exitCode ≠ some 2 →
    rest = [] ∧ r = .error f
  existing : r = .ok .existing ↔
    Names btrfsType mounted ∨ ∃ a, probed = some a ∧ Names btrfsType a
  /-- The result is `formatted` exactly if `mkfs.btrfs` has succeeded and a later
  event shows btrfs on the device. -/
  formatted : r = .ok .formatted ↔ ∃ before output after,
    rest = before ++ (makeBtrfs root device).event (.ok output) :: after ∧
      ∃ e ∈ after, Confirms root device e

section

variable {allowFormat : Bool} {m a : Except Failure String} {r : Except Failure FormatOutcome}

/-- The decision of a run that ends with the question about mounts. -/
theorem FormatDecision.of_mounted (hfailed : ∀ f, m = .error f → r = .error f)
    (hexisting : r = .ok .existing ↔ Names btrfsType m) (hformatted : r ≠ .ok .formatted) :
    FormatDecision root device allowFormat m none [] r where
  changed := by simp
  on_device := by simp
  wiped := by simp
  wipes_first := by simp
  makes_after := by simp
  mount_unknown := fun f hf _ => ⟨rfl, hfailed f hf⟩
  signature_unknown := by simp
  existing := by simp [hexisting]
  formatted := by simp [hformatted]

/-- The decision of a run that ends with the question about the signature. -/
theorem FormatDecision.of_probed (hm : Silent 1 m)
    (hrefused : allowFormat = true → ¬(NamesForeign a ∨ Silent 2 a))
    (hfailed : ∀ f, a = .error f → f.exitCode ≠ some 2 → r = .error f)
    (hexisting : r = .ok .existing ↔ Names btrfsType a) (hformatted : r ≠ .ok .formatted) :
    FormatDecision root device allowFormat m (some a) [] r where
  changed := by simpa using fun hallow _ => not_or.mp (hrefused hallow)
  on_device := by simp
  wiped := by simpa using fun hallow _ => (not_or.mp (hrefused hallow)).1
  wipes_first := by simp
  makes_after := by simp
  mount_unknown := by
    rintro f rfl hcode
    exact absurd hm hcode
  signature_unknown := fun f hf hcode => ⟨rfl, hfailed f (Option.some.inj hf) hcode⟩
  existing := by simp [hexisting, hm.not_names]
  formatted := by simp [hformatted]

/-- The decision of a run that formats. -/
theorem FormatDecision.of_make {wiping : Bool} (hallow : allowFormat = true) (hm : Silent 1 m)
    (hforeign : NamesForeign a ↔ wiping = true) (hprobe : NamesForeign a ∨ Silent 2 a)
    (hr : MakeRun root device wiping h r) :
    FormatDecision root device allowFormat m (some a) h r where
  changed := iff_of_true hr.changes ⟨hallow, hm, a, rfl, hprobe⟩
  on_device := hr.on_device
  wiped := by simp [hr.wipes_iff, hallow, hm, hforeign]
  wipes_first := fun _ _ _ hsplit he => (hr.wipes hsplit he).1
  makes_after := by
    rintro before e after hsplit he ⟨_, hp, ha⟩
    obtain rfl := Option.some.inj hp
    have hw := (hr.makes hsplit he).1
    rw [hforeign.mp ha] at hw
    cases hw with
    | wiped => exact ⟨_, rfl⟩
  mount_unknown := by
    rintro f rfl hcode
    exact absurd hm hcode
  signature_unknown := by
    intro f hp hcode
    obtain rfl := Option.some.inj hp
    rcases hprobe with ⟨fsType, -, ha⟩ | ha
    · exact ha.elim
    · exact absurd ha hcode
  existing := by
    -- Neither answer named btrfs, since the one is silent and the other silent or foreign.
    refine iff_of_false hr.ne_existing ?_
    intro hexists
    rcases hexists with hnames | ⟨_, hp, hnames⟩
    · exact hm.not_names _ hnames
    · obtain rfl := Option.some.inj hp
      rcases hprobe with ha | ha
      · exact hnames.not_foreign ha
      · exact ha.not_names _ hnames
  formatted := hr.formatted_iff

theorem EnsureRun.decision (hr : EnsureRun root device allowFormat h r) :
    ∃ mounted probed rest,
      h = (mountCheck root device).event mounted
        :: (probed.map (signatureProbe root device).event).toList ++ rest ∧
      (probed.isSome = true ↔ Silent 1 mounted) ∧
      FormatDecision root device allowFormat mounted probed rest r := by
  -- One case for each of the eight ways; only in the last two is a device formatted.
  cases hr with
  | @mountedBtrfs m hm =>
    have hloud : ¬Silent 1 m := fun hs => hs.not_names _ hm
    refine ⟨m, none, [], rfl, by simp [hloud], .of_mounted ?_ ?_ ?_⟩
    · rintro f rfl
      exact hm.elim
    · simp [hm]
    · simp
  | @mountedOther m f hm =>
    have hloud : ¬Silent 1 m := fun hs => hs.not_foreign hm
    refine ⟨m, none, [], rfl, by simp [hloud], .of_mounted ?_ ?_ ?_⟩
    · rintro f rfl
      obtain ⟨fsType, -, hnames⟩ := hm
      exact hnames.elim
    · exact iff_of_false (by simp) fun hnames => hnames.not_foreign hm
    · simp
  | @mountUnknown f hf =>
    refine ⟨.error f, none, [], rfl, by simpa [Silent] using hf, .of_mounted ?_ ?_ ?_⟩
    · rintro _ ⟨⟩
      rfl
    · simp [Names]
    · simp
  | @btrfs m a hm ha =>
    refine ⟨m, some a, [], rfl, by simp [hm], .of_probed hm ?_ ?_ ?_ ?_⟩
    · rintro - (hforeign | hsilent)
      · exact ha.not_foreign hforeign
      · exact hsilent.not_names _ ha
    · rintro f rfl
      exact ha.elim
    · simp [ha]
    · simp
  | @refused m a f hm ha hallow =>
    refine ⟨m, some a, [], rfl, by simp [hm], .of_probed hm ?_ ?_ ?_ ?_⟩
    · simp [hallow]
    · rintro f rfl hcode
      rcases ha with ⟨fsType, -, ha⟩ | ha
      · exact ha.elim
      · exact absurd ha hcode
    · refine iff_of_false (by simp) fun hnames => ?_
      rcases ha with ha | ha
      · exact hnames.not_foreign ha
      · exact ha.not_names _ hnames
    · simp
  | @signatureUnknown m f hm hf =>
    refine ⟨m, some (.error f), [], rfl, by simp [hm], .of_probed hm ?_ ?_ ?_ ?_⟩
    · rintro - (⟨fsType, -, hnames⟩ | hsilent)
      · exact hnames.elim
      · exact hf hsilent
    · rintro _ ⟨⟩ -
      rfl
    · simp [Names]
    · simp
  | @foreign m a h r hm ha hallow hmake =>
    refine ⟨m, some a, h, rfl, by simp [hm], ?_⟩
    exact .of_make hallow hm (iff_of_true ha rfl) (.inl ha) hmake
  | @empty m a h r hm ha hallow hmake =>
    refine ⟨m, some a, h, rfl, by simp [hm], ?_⟩
    exact .of_make hallow hm (iff_of_false ha.not_foreign (by simp)) (.inr ha) hmake

end

/-- **The format decision, end to end.** On every host, a run of `ensure` is a
question about mounts, a question about the signature if nothing is mounted,
and a rest that follows from the two answers and the permission. -/
theorem ensure_format_decision {σ : Type} (host : Host σ) (s : σ) (root : Target)
    (device : String) (allowFormat : Bool) :
    ∃ mounted probed rest,
      (ensure root device allowFormat).outcome.record host s
        = (mountCheck root device).event mounted
          :: (probed.map (signatureProbe root device).event).toList ++ rest ∧
      (probed.isSome = true ↔ Silent 1 mounted) ∧
      FormatDecision root device allowFormat mounted probed rest
        ((ensure root device allowFormat).outcome.runWith host s).1 :=
  (ensure_run (Action.leads_record host _ s)).decision

end BtrfsStore.Filesystem
