import BtrfsStore.Proofs.Milestones.Wsl
import BtrfsStore.Proofs.Selection
/-!
# BtrfsStore.Proofs.Discovery

How a run gets hold of the disk of a store, with all the ways in which this ends.

The block devices are listed first. If that does not decide the search, the disk file
is created unless it exists, partitioned and attached, and the devices are listed again
until a listing decides or there were ten of them. What one listing decides is the
subject of `BtrfsStore.Proofs.Looks`. Here `WaitRun` is the history of the waiting and
`AttachRun` that of the whole search; `attachStoreDisk_run` says that there are no other
histories. What the search does and does not do is read off these histories one by one,
and put together in `Discovers`.
-/

namespace BtrfsStore

/-! ### Commands and pauses -/

/-- The command that a question runs. -/
def Query.command? : Query → Option Command
  | .run c => some c
  | _ => none

/-- How long a question waits. -/
def Query.pause? : Query → Option Nat
  | .sleep ms => some ms
  | _ => none

namespace History

/-- The commands of a history, in their order. -/
def commands (h : History) : List Command := h.filterMap fun e => e.query.command?

/-- The pauses of a history. -/
def pauses (h : History) : List Nat := h.filterMap fun e => e.query.pause?

variable {h h' : History}

@[simp] theorem commands_nil : commands [] = [] := rfl

@[simp] theorem commands_append : commands (h ++ h') = commands h ++ commands h' :=
  List.filterMap_append

@[simp] theorem commands_event (c : Command) (a : Except Failure String) :
    commands (c.event a :: h) = c :: commands h := rfl

@[simp] theorem commands_sleep (ms : Nat) (u : Unit) :
    commands (⟨.sleep ms, u⟩ :: h) = commands h := rfl

@[simp] theorem pauses_nil : pauses [] = [] := rfl

@[simp] theorem pauses_append : pauses (h ++ h') = pauses h ++ pauses h' :=
  List.filterMap_append

@[simp] theorem pauses_event (c : Command) (a : Except Failure String) :
    pauses (c.event a :: h) = pauses h := rfl

@[simp] theorem pauses_sleep (ms : Nat) (u : Unit) :
    pauses (⟨.sleep ms, u⟩ :: h) = ms :: pauses h := rfl

theorem mem_commands_of_event {c : Command} {a : Except Failure String} (he : c.event a ∈ h) :
    c ∈ commands h :=
  List.mem_filterMap.mpr ⟨_, he, rfl⟩

end History

theorem Action.asks_true {α : Type} (x : Action α) : x.Asks fun _ => True := by
  induction x with
  | done a => trivial
  | ask q next ih => exact ⟨trivial, ih⟩

namespace Attempt

variable {α β : Type}

/-- The attempt never pauses, and it runs some of the commands, each at most once and
in their order. -/
def Issues (x : Attempt α) (cs : List Command) : Prop :=
  ∀ h r, x.outcome.Leads h r → h.pauses = [] ∧ h.commands.Sublist cs

/-- A sequence issues the commands of its parts in order. -/
theorem Issues.bind {x : Attempt α} {f : α → Attempt β} {cs ds : List Command}
    (hx : x.Issues cs) (hf : ∀ a, (f a).Issues ds) : (x >>= f).Issues (cs ++ ds) := by
  intro h r hl
  rcases leads_bind.mp hl with ⟨e, herror, -⟩ | ⟨h₁, a, h₂, hok, hrest, rfl⟩
  · obtain ⟨hpauses, hcommands⟩ := hx h _ herror
    exact ⟨hpauses, hcommands.trans (List.sublist_append_left cs ds)⟩
  · obtain ⟨hpauses, hcommands⟩ := hx h₁ _ hok
    obtain ⟨hpauses', hcommands'⟩ := hf a h₂ r hrest
    simp only [History.pauses_append, History.commands_append]
    exact ⟨by rw [hpauses, hpauses', List.append_nil], hcommands.append hcommands'⟩

/-- More commands may be allowed, in the same order. -/
theorem Issues.mono {x : Attempt α} {cs ds : List Command} (hx : x.Issues cs)
    (hsub : cs.Sublist ds) : x.Issues ds := by
  intro h r hl
  obtain ⟨hpauses, hcommands⟩ := hx h r hl
  exact ⟨hpauses, hcommands.trans hsub⟩

theorem issues_pure (a : α) : (pure a : Attempt α).Issues [] := by
  intro h r hl
  obtain ⟨rfl, -⟩ := Action.leads_done.mp hl
  exact ⟨rfl, .slnil⟩

theorem issues_throw (f : Failure) : (throw f : Attempt α).Issues [] := by
  intro h r hl
  obtain ⟨rfl, -⟩ := Action.leads_done.mp hl
  exact ⟨rfl, .slnil⟩

/-- What becomes of the end of an attempt does not change what it runs. -/
theorem Issues.of_map {x : Attempt α} {y : Attempt β} {cs : List Command}
    {f : Except Failure α → Except Failure β} (hy : y.outcome = f <$> x.outcome)
    (hx : x.Issues cs) : y.Issues cs := by
  intro h r hl
  rw [hy] at hl
  obtain ⟨a, hrun, -⟩ := Action.leads_map.mp hl
  exact hx h a hrun

theorem issues_runWithin (limit : Nat) (target : Target) (description program : String)
    (args : List String) : (target.runWithin limit description program args).Issues
      [{ target, description, program, args, limit }] := by
  intro h r hl
  obtain rfl := leads_runWithin.mp hl
  exact ⟨rfl, List.Sublist.refl _⟩

end Attempt

namespace Wsl

open Attempt BlockDevice

variable {user : Target} {disk : Path} {bytes : Nat} {h : History}

/-! ### The disk file -/

/-- At most one command creates the disk file. -/
theorem issues_ensureFile (disk : Path) (bytes : Nat) :
    (VirtualDisk.ensureFile .host disk bytes).Issues [createDisk disk bytes] := by
  have hcreate : (do
      discard <| VirtualDisk.powershell .host "create virtual disk"
        (VirtualDisk.createScript disk bytes)
      return true : Attempt Bool).Issues [createDisk disk bytes] :=
    Issues.bind (.of_map (outcome_discard _) (issues_runWithin _ _ _ _ _)) fun _ =>
      issues_pure true
  have hthere : (liftM (Action.pathExists disk) : Attempt Bool).Issues [] := by
    intro h r hl
    obtain ⟨answer, hask, -⟩ := Action.leads_map.mp hl
    obtain ⟨there, rfl, -⟩ := Action.leads_ask_done.mp hask
    exact ⟨rfl, .slnil⟩
  have hmake : ∀ dir, (Attempt.makeDirectories dir).Issues [] := by
    intro dir h r hl
    obtain ⟨answer, hask, -⟩ := Action.leads_map.mp hl
    obtain ⟨made, rfl, -⟩ := Action.leads_ask_done.mp hask
    exact ⟨rfl, .slnil⟩
  unfold VirtualDisk.ensureFile
  refine hthere.bind fun there => ?_
  cases there with
  | true => exact (issues_pure false).mono (List.nil_sublist _)
  | false =>
    cases hparent : disk.parent with
    | none => exact hcreate
    | some dir => exact (hmake dir).bind fun _ => hcreate

theorem issues_ensurePartition (disk : Path) :
    (VirtualDisk.ensurePartition .host disk).Issues [partitionDisk disk] :=
  .of_map (outcome_discard _) (.of_map (outcome_mapFailure _ _) (issues_runWithin _ _ _ _ _))

theorem issues_attach (disk : Path) :
    (VirtualDisk.attach .host disk).Issues [attachDisk disk] := by
  unfold VirtualDisk.attach
  refine Issues.bind (.of_map (outcome_observe _) (issues_runWithin _ _ _ _ _)) fun a => ?_
  cases a with
  | ok output => exact issues_pure ()
  | error f =>
    dsimp only
    split
    · exact issues_pure ()
    · exact issues_throw f

/-- The disk file is created only if it was found missing before. -/
def OnlyIfMissing (disk : Path) (bytes : Nat) (before : History) (q : Query) : Prop :=
  q = .run (createDisk disk bytes) → ⟨.pathExists disk, false⟩ ∈ before

/-- What is done for the disk file, with whatever end. -/
structure FileRun (disk : Path) (bytes : Nat) (h : History) (r : Except Failure Bool) : Prop where
  pauses : h.pauses = []
  commands : h.commands.Sublist [createDisk disk bytes, partitionDisk disk, attachDisk disk]
  guarded : h.Guarded (OnlyIfMissing disk bytes)
  created_iff : ∀ created, r = .ok created →
    (created = true ↔ ∃ output, (createDisk disk bytes).event (.ok output) ∈ h)

/-- The disk file is created only after an answer that it is missing. -/
theorem guarded_ensureFile (disk : Path) (bytes : Nat) (h₀ : History) :
    (VirtualDisk.ensureFile .host disk bytes).outcome.Guarded (OnlyIfMissing disk bytes) h₀ := by
  unfold VirtualDisk.ensureFile
  refine guarded_bind ⟨?_, fun there => trivial⟩ fun h' there hl => ?_
  · intro hcreate
    cases hcreate
  · obtain ⟨answer, hask, hr⟩ := Action.leads_map.mp hl
    obtain ⟨there', rfl, rfl⟩ := Action.leads_ask_done.mp hask
    obtain rfl := Except.ok.inj hr
    cases there with
    | true => trivial
    | false =>
      -- From here on the answer is part of the history, whatever is asked.
      have hmissing : ⟨.pathExists disk, false⟩ ∈ h₀ ++ [(⟨.pathExists disk, false⟩ : Event)] :=
        List.mem_append_right _ (List.mem_singleton.mpr rfl)
      refine Action.Asks.guarded_of_invariant (P := OnlyIfMissing disk bytes)
        (I := fun before => ⟨.pathExists disk, false⟩ ∈ before) (Action.asks_true _)
        (fun _ _ hmem _ _ => hmem) (fun _ _ _ hmem _ => List.mem_append_left _ hmem) hmissing

/-- So it is while the disk is made and attached, since no other step creates the file. -/
theorem guarded_createAndAttach (disk : Path) (bytes : Nat) (h₀ : History) :
    (createAndAttach .host disk bytes).outcome.Guarded (OnlyIfMissing disk bytes) h₀ := by
  have hother : ∀ (x : Attempt Unit) (h : History),
      x.outcome.Asks (fun q => q ≠ .run (createDisk disk bytes)) →
        x.outcome.Guarded (OnlyIfMissing disk bytes) h :=
    fun x h hasks => hasks.guarded (fun _ _ hne heq => absurd heq hne) h
  unfold createAndAttach
  refine guarded_bind (guarded_ensureFile disk bytes h₀) fun _ created _ => ?_
  refine guarded_bind (hother _ _ ?_) fun _ _ _ => guarded_bind (hother _ _ ?_) fun _ _ _ => trivial
  · simp [VirtualDisk.ensurePartition, VirtualDisk.powershell, createDisk]
  · simp [VirtualDisk.attach, createDisk]

theorem createDisk_ne_partitionDisk : createDisk disk bytes ≠ partitionDisk disk := by
  simp [createDisk, partitionDisk]

theorem createDisk_ne_attachDisk : createDisk disk bytes ≠ attachDisk disk := by
  simp [createDisk, attachDisk]

/-- Every run that makes and attaches a disk is one of those of `FileRun`. -/
theorem createAndAttach_run {r : Except Failure Bool}
    (hl : (createAndAttach .host disk bytes).outcome.Leads h r) : FileRun disk bytes h r := by
  have hissues : (createAndAttach .host disk bytes).Issues
      [createDisk disk bytes, partitionDisk disk, attachDisk disk] :=
    (issues_ensureFile disk bytes).bind fun created =>
      (issues_ensurePartition disk).bind fun _ => (issues_attach disk).bind fun _ =>
        issues_pure created
  obtain ⟨hpauses, hcommands⟩ := hissues h r hl
  refine ⟨hpauses, hcommands, (guarded_createAndAttach disk bytes []).history hl, ?_⟩
  rintro created rfl
  obtain ⟨file, partitioned, a, hready, -, rfl⟩ := createAndAttach_ready hl
  have hother : ∀ output, (createDisk disk bytes).event (.ok output) ∉
      [(partitionDisk disk).event (.ok partitioned), (attachDisk disk).event a] := by
    intro output
    simp [createDisk_ne_partitionDisk, createDisk_ne_attachDisk]
  cases hready with
  | existing =>
    refine iff_of_false Bool.false_ne_true ?_
    rintro ⟨output, hmem⟩
    rcases List.mem_append.mp hmem with hfile | hmem
    · cases List.mem_singleton.mp hfile
    · exact hother output hmem
  | @created mid output => exact iff_of_true rfl ⟨output, by simp⟩

/-! ### Waiting for the partition -/

/-- A number of listings that decide nothing, each with a pause after it. -/
inductive Fruitless (user : Target) (bytes : Nat) : Nat → History → Prop
  | nil : Fruitless user bytes 0 []
  | cons {n : Nat} {h : History} {a : Except Failure String} (ha : look bytes a = none)
      (hrest : Fruitless user bytes n h) :
      Fruitless user bytes (n + 1) ((listing user).event a :: ⟨.sleep 1000, ()⟩ :: h)

/-- The waiting for the partition, with whatever end. -/
inductive WaitRun (user : Target) (bytes : Nat) : History → Except Failure BlockDevice → Prop
  | decided {n : Nat} {looks : History} {a : Except Failure String}
      {r : Except Failure BlockDevice} (hn : n ≤ 9) (hlooks : Fruitless user bytes n looks)
      (ha : look bytes a = some r) : WaitRun user bytes (looks ++ [(listing user).event a]) r
  | exhausted {looks : History} {a : Except Failure String} {message : String}
      (hlooks : Fruitless user bytes 9 looks) (ha : look bytes a = none) :
      WaitRun user bytes (looks ++ [(listing user).event a]) (.error (.operation message))

/-- The rounds of a poll in vain are listings without the partition, a second apart. -/
theorem fruitless_of_rounds {n : Nat} {s s' : Option String}
    (hr : Retry.Rounds 1000 (lookForPartition user bytes) n s h s') :
    Fruitless user bytes n h := by
  induction hr with
  | zero s => exact .nil
  | succ hlook _ ih =>
    obtain ⟨a, rfl, ha⟩ := leads_look hlook
    exact .cons ha.symm ih

/-- Every wait for a partition is one of those of `WaitRun`. -/
theorem awaitPartition_run {r : Except Failure BlockDevice}
    (hl : (awaitPartition user disk bytes).outcome.Leads h r) : WaitRun user bytes h r := by
  unfold awaitPartition at hl
  rcases leads_bind.mp hl with ⟨e, hpoll, -⟩ | ⟨h₁, ⟨found, seen⟩, h₂, hpoll, hrest, rfl⟩
  · -- Polling itself does not fail.
    obtain ⟨p, -, hp⟩ := Action.leads_map.mp hpoll
    cases hp
  · rw [Attempt.outcome_liftM, Action.leads_map] at hpoll
    obtain ⟨⟨v, s⟩, hpoll, hpair⟩ := hpoll
    obtain ⟨rfl, rfl⟩ : found = v ∧ seen = s := by simpa using hpair
    obtain ⟨n, hn, h₀, s₁, h₃, hrounds, hlast, rfl, hall⟩ := Retry.leads_pollMore.mp hpoll
    obtain ⟨a, rfl, hdecided⟩ := leads_look hlast
    have hlooks := fruitless_of_rounds hrounds
    obtain _ | f | p := found
    · obtain rfl : n = 9 := hall rfl
      cases seen <;>
        obtain ⟨rfl, rfl⟩ := Action.leads_done.mp hrest <;>
        simpa using WaitRun.exhausted hlooks hdecided.symm
    · obtain ⟨rfl, rfl⟩ := Action.leads_done.mp hrest
      simpa using WaitRun.decided hn hlooks hdecided.symm
    · obtain ⟨rfl, rfl⟩ := Action.leads_done.mp hrest
      simpa using WaitRun.decided hn hlooks hdecided.symm

/-! ### The whole search -/

/-- The search for the disk of a store, with whatever end. -/
inductive AttachRun (user : Target) (disk : Path) (bytes : Nat) :
    History → Except Failure StoreDisk → Prop
  | refused {a : Except Failure String} {f : Failure} (hfirst : firstLook bytes a = .error f) :
      AttachRun user disk bytes [(listing user).event a] (.error (.stage .deviceDetection f))
  | attached {a : Except Failure String} {p : BlockDevice}
      (hfirst : firstLook bytes a = .ok (some p)) :
      AttachRun user disk bytes [(listing user).event a] (.ok ⟨p, false⟩)
  | unmade {a : Except Failure String} {file : History} {f : Failure}
      (hfirst : firstLook bytes a = .ok none) (hfile : FileRun disk bytes file (.error f)) :
      AttachRun user disk bytes ((listing user).event a :: file)
        (.error (.stage .virtualDisk f))
  | unseen {a : Except Failure String} {file looks : History} {created : Bool} {f : Failure}
      (hfirst : firstLook bytes a = .ok none) (hfile : FileRun disk bytes file (.ok created))
      (hwait : WaitRun user bytes looks (.error f)) :
      AttachRun user disk bytes ((listing user).event a :: (file ++ looks))
        (.error (.stage .deviceDetection f))
  | found {a : Except Failure String} {file looks : History} {created : Bool} {p : BlockDevice}
      (hfirst : firstLook bytes a = .ok none) (hfile : FileRun disk bytes file (.ok created))
      (hwait : WaitRun user bytes looks (.ok p)) :
      AttachRun user disk bytes ((listing user).event a :: (file ++ looks)) (.ok ⟨p, created⟩)

/-- Every run that gets hold of the disk of a store is one of those of `AttachRun`. -/
theorem attachStoreDisk_run {r : Except Failure StoreDisk}
    (hl : (attachStoreDisk .host user disk bytes).outcome.Leads h r) :
    AttachRun user disk bytes h r := by
  rw [attachStoreDisk_eq] at hl
  rcases leads_bind.mp hl with ⟨e, hfind, rfl⟩ | ⟨h₁, found, h₂, hfind, hrest, rfl⟩
  · obtain ⟨f, hfinds, rfl⟩ := leads_inStage_error.mp hfind
    rw [outcome_findAttached] at hfinds
    obtain ⟨a, rfl, ha⟩ := Action.leads_ask_done.mp hfinds
    exact .refused ha.symm
  · have hfinds := leads_inStage_ok.mp hfind
    rw [outcome_findAttached] at hfinds
    obtain ⟨a, rfl, ha⟩ := Action.leads_ask_done.mp hfinds
    cases found with
    | some p =>
      obtain ⟨rfl, rfl⟩ := Action.leads_done.mp hrest
      exact .attached ha.symm
    | none =>
      rcases leads_bind.mp hrest with ⟨e, hmake, rfl⟩ | ⟨h₃, created, h₄, hmake, hwait, rfl⟩
      · obtain ⟨f, hmakes, rfl⟩ := leads_inStage_error.mp hmake
        exact .unmade ha.symm (createAndAttach_run hmakes)
      · have hfile := createAndAttach_run (leads_inStage_ok.mp hmake)
        rcases leads_bind.mp hwait with ⟨e, hpoll, rfl⟩ | ⟨h₅, p, h₆, hpoll, hdone, rfl⟩
        · obtain ⟨f, hpolls, rfl⟩ := leads_inStage_error.mp hpoll
          rw [List.singleton_append]
          exact .unseen ha.symm hfile (awaitPartition_run hpolls)
        · obtain ⟨rfl, rfl⟩ := Action.leads_done.mp hdone
          rw [List.append_nil, List.singleton_append]
          exact .found ha.symm hfile (awaitPartition_run (leads_inStage_ok.mp hpoll))

/-! ### What the parts ask -/

theorem listing_ne_createDisk : listing user ≠ createDisk disk bytes := by
  simp [listing, createDisk]

theorem listing_ne_partitionDisk : listing user ≠ partitionDisk disk := by
  simp [listing, partitionDisk]

theorem listing_ne_attachDisk : listing user ≠ attachDisk disk := by
  simp [listing, attachDisk]

theorem Fruitless.commands_eq {n : Nat} (hlooks : Fruitless user bytes n h) :
    h.commands = List.replicate n (listing user) := by
  induction hlooks with
  | nil => rfl
  | cons ha hrest ih =>
    rw [History.commands_event, History.commands_sleep, ih, List.replicate_succ]

theorem Fruitless.pauses_eq {n : Nat} (hlooks : Fruitless user bytes n h) :
    h.pauses = List.replicate n 1000 := by
  induction hlooks with
  | nil => rfl
  | cons ha hrest ih =>
    rw [History.pauses_event, History.pauses_sleep, ih, List.replicate_succ]

/-- No look in vain has shown the partition. -/
theorem Fruitless.look_eq_none {n : Nat} (hlooks : Fruitless user bytes n h)
    {a : Except Failure String} (hmem : (listing user).event a ∈ h) : look bytes a = none := by
  induction hlooks with
  | nil => cases hmem
  | cons ha hrest ih =>
    rcases List.mem_cons.mp hmem with heq | hmem
    · obtain ⟨-, rfl⟩ := Command.event_inj.mp heq
      exact ha
    · rcases List.mem_cons.mp hmem with heq | hmem
      · cases heq
      · exact ih hmem

/-- A wait looks ten times at most, with a second between two looks. -/
theorem WaitRun.asked {r : Except Failure BlockDevice} (hwait : WaitRun user bytes h r) :
    ∃ n ≤ 9, h.commands = List.replicate (n + 1) (listing user) ∧
      h.pauses = List.replicate n 1000 := by
  have hcount : ∀ {n : Nat} {looks : History} {a : Except Failure String},
      Fruitless user bytes n looks →
        (looks ++ [(listing user).event a]).commands = List.replicate (n + 1) (listing user) ∧
        (looks ++ [(listing user).event a]).pauses = List.replicate n 1000 := by
    intro n looks a hlooks
    simp [hlooks.commands_eq, hlooks.pauses_eq, List.replicate_succ']
  cases hwait with
  | decided hn hlooks ha => exact ⟨_, hn, hcount hlooks⟩
  | exhausted hlooks ha => exact ⟨9, Nat.le_refl 9, hcount hlooks⟩

/-- What the search asks: a listing, perhaps commands for the disk file if no disk of the
size is listed, and at most ten more listings with pauses in between. -/
theorem AttachRun.asked {r : Except Failure StoreDisk} (hr : AttachRun user disk bytes h r) :
    ∃ (a : Except Failure String) (rest : History) (cs : List Command) (m n : Nat),
      h = (listing user).event a :: rest ∧
      rest.commands = cs ++ List.replicate m (listing user) ∧
      cs.Sublist [createDisk disk bytes, partitionDisk disk, attachDisk disk] ∧
      (cs ≠ [] → firstLook bytes a = .ok none) ∧
      rest.pauses = List.replicate n 1000 ∧ m ≤ 10 ∧ n ≤ 9 := by
  have hawaited : ∀ {file looks : History} {created : Bool}
      {w : Except Failure BlockDevice}, FileRun disk bytes file (.ok created) →
      WaitRun user bytes looks w → ∃ m n,
        (file ++ looks).commands = file.commands ++ List.replicate m (listing user) ∧
        (file ++ looks).pauses = List.replicate n 1000 ∧ m ≤ 10 ∧ n ≤ 9 := by
    intro file looks created w hfile hwait
    obtain ⟨n, hn, hcommands, hpauses⟩ := hwait.asked
    refine ⟨n + 1, n, ?_, ?_, by omega, hn⟩
    · rw [History.commands_append, hcommands]
    · rw [History.pauses_append, hfile.pauses, hpauses, List.nil_append]
  cases hr with
  | @refused a f hfirst =>
    exact ⟨a, [], [], 0, 0, rfl, rfl, List.nil_sublist _, by simp, rfl, by simp⟩
  | @attached a p hfirst =>
    exact ⟨a, [], [], 0, 0, rfl, rfl, List.nil_sublist _, by simp, rfl, by simp⟩
  | @unmade a file f hfirst hfile =>
    exact ⟨a, file, file.commands, 0, 0, rfl, by simp, hfile.commands, fun _ => hfirst,
      hfile.pauses, by simp⟩
  | @unseen a file looks created f hfirst hfile hwait =>
    obtain ⟨m, n, hcommands, hpauses, hbounds⟩ := hawaited hfile hwait
    exact ⟨a, _, _, m, n, rfl, hcommands, hfile.commands, fun _ => hfirst, hpauses, hbounds⟩
  | @found a file looks created p hfirst hfile hwait =>
    obtain ⟨m, n, hcommands, hpauses, hbounds⟩ := hawaited hfile hwait
    exact ⟨a, _, _, m, n, rfl, hcommands, hfile.commands, fun _ => hfirst, hpauses, hbounds⟩

/-- A first listing that is refused is the end. -/
theorem AttachRun.refused_first {a : Except Failure String} {rest : History} {f : Failure}
    {r : Except Failure StoreDisk}
    (hr : AttachRun user disk bytes ((listing user).event a :: rest) r)
    (ha : firstLook bytes a = .error f) : rest = [] ∧ r = .error (.stage .deviceDetection f) := by
  cases hr with
  | refused hfirst =>
    obtain rfl := Except.error.inj (hfirst.symm.trans ha)
    exact ⟨rfl, rfl⟩
  | attached hfirst => cases hfirst.symm.trans ha
  | unmade hfirst => cases hfirst.symm.trans ha
  | unseen hfirst => cases hfirst.symm.trans ha
  | found hfirst => cases hfirst.symm.trans ha

/-- A listing that shows several disks ends the waiting, and says why. -/
theorem WaitRun.several {w : Except Failure BlockDevice} {a : Except Failure String} {f : Failure}
    {before after : History} (hwait : WaitRun user bytes h w) (ha : look bytes a = some (.error f))
    (hsplit : h = before ++ (listing user).event a :: after) : after = [] ∧ w = .error f := by
  have hlast : ∀ {n : Nat} {looks : History} {b : Except Failure String},
      Fruitless user bytes n looks →
      looks ++ [(listing user).event b] = before ++ (listing user).event a :: after →
      after = [] ∧ b = a := by
    intro n looks b hlooks hsplit
    have hnew : (listing user).event a ∉ looks := by
      intro hmem
      rw [hlooks.look_eq_none hmem] at ha
      cases ha
    obtain ⟨before', -, hend⟩ := History.split_of_notMem hnew hsplit
    rcases List.append_eq_singleton_iff.mp hend.symm with ⟨-, hcons⟩ | ⟨-, hnil⟩
    · obtain ⟨hevent, rfl⟩ := List.cons.inj hcons
      exact ⟨rfl, (Command.event_inj.mp hevent.symm).2⟩
    · cases hnil
  cases hwait with
  | decided hn hlooks hdecided =>
    obtain ⟨rfl, rfl⟩ := hlast hlooks hsplit
    exact ⟨rfl, Option.some.inj (hdecided.symm.trans ha)⟩
  | exhausted hlooks hnone =>
    obtain ⟨rfl, rfl⟩ := hlast hlooks hsplit
    cases hnone.symm.trans ha

/-- While the disk is made nothing is listed. -/
theorem FileRun.notMem {r : Except Failure Bool} (hfile : FileRun disk bytes h r)
    (a : Except Failure String) : (listing user).event a ∉ h := by
  intro hmem
  have hin := hfile.commands.subset (History.mem_commands_of_event hmem)
  simp [listing_ne_createDisk, listing_ne_partitionDisk, listing_ne_attachDisk] at hin

/-- A listing with several disks of the size ends the search, and nothing is asked after it.
-/
theorem AttachRun.several {r : Except Failure StoreDisk} {a : Except Failure String} {f : Failure}
    {before after : History} (hr : AttachRun user disk bytes h r) (ha : ShowsSeveral bytes a f)
    (hsplit : h = before ++ (listing user).event a :: after) :
    after = [] ∧ r = .error (.stage .deviceDetection f) := by
  cases before with
  | nil =>
    rw [hsplit] at hr
    exact hr.refused_first ha.1
  | cons e before =>
    -- The listing comes after the first one.
    have hlooks : ∀ {b : Except Failure String} {file looks : History} {created : Bool},
        FileRun disk bytes file (.ok created) →
        (listing user).event b :: (file ++ looks)
          = e :: before ++ (listing user).event a :: after →
        ∃ before', looks = before' ++ (listing user).event a :: after := by
      intro b file looks created hfile hsplit
      obtain ⟨-, htail⟩ := List.cons.inj hsplit
      obtain ⟨before', -, hlooks⟩ := History.split_of_notMem (hfile.notMem a) htail
      exact ⟨before', hlooks⟩
    cases hr with
    | refused hfirst => simp at hsplit
    | attached hfirst => simp at hsplit
    | @unmade b file g hfirst hfile =>
      obtain ⟨-, htail⟩ := List.cons.inj hsplit
      have hmem : (listing user).event a ∈ file := by simp [htail]
      exact absurd hmem (hfile.notMem a)
    | unseen hfirst hfile hwait =>
      obtain ⟨before', hlooks⟩ := hlooks hfile hsplit
      obtain ⟨hend, hf⟩ := hwait.several ha.2 hlooks
      obtain rfl := Except.error.inj hf
      exact ⟨hend, rfl⟩
    | found hfirst hfile hwait =>
      obtain ⟨before', hlooks⟩ := hlooks hfile hsplit
      obtain ⟨-, hf⟩ := hwait.several ha.2 hlooks
      cases hf

/-- In the whole search the disk file is created only if it is missing. -/
theorem attachStoreDisk_onlyIfMissing (user : Target) (disk : Path) (bytes : Nat) :
    (attachStoreDisk .host user disk bytes).outcome.Guarded (OnlyIfMissing disk bytes) [] := by
  have hlist : ∀ {α : Type} {x : Attempt α} {h : History},
      x.outcome.Asks (Query.Among (listSteps user)) →
        (x.inStage .deviceDetection).outcome.Guarded (OnlyIfMissing disk bytes) h := by
    intro α x h hasks
    refine guarded_inStage (hasks.guarded ?_ h)
    rintro h q hq rfl
    simp [listSteps, createDisk, Command.Takes] at hq
  rw [attachStoreDisk_eq]
  refine guarded_bind (hlist ?_) fun h' found hfind => ?_
  · rw [outcome_findAttached]
    refine ⟨?_, fun _ => trivial⟩
    simp [listSteps, listing, Command.Takes]
  cases found with
  | some p => trivial
  | none =>
    refine guarded_bind (guarded_inStage (guarded_createAndAttach disk bytes _)) ?_
    intro h'' created _
    exact guarded_bind (hlist (asks_awaitPartition user disk bytes)) fun _ _ _ => trivial

/-- What the search for the disk of a store does in a history that ends with `r`. -/
structure Discovers (user : Target) (disk : Path) (bytes : Nat) (h : History)
    (r : Except Failure StoreDisk) : Prop where
  begins : ∃ a rest, h = (listing user).event a :: rest
  /-- The partition is a largest one of the only disk of the size in the last listing. -/
  found : ∀ attached, r = .ok attached → ∃ devices d, LastListing user h devices ∧
    candidates bytes devices = [d] ∧ LastLargest (PartOf d.name) devices attached.partition
  created_iff : ∀ attached, r = .ok attached →
    (attached.created = true ↔ ∃ output, (createDisk disk bytes).event (.ok output) ∈ h)
  /-- Besides the listings, at most these commands are run, once and in this order. -/
  commands : (h.commands.filter (· ≠ listing user)).Sublist
    [createDisk disk bytes, partitionDisk disk, attachDisk disk]
  guarded : h.Guarded (OnlyIfMissing disk bytes)
  /-- They are run only if the first listing shows no disk of the size. -/
  unlisted : (∃ c ∈ h.commands, c ≠ listing user) → ∃ output devices rest,
    h = (listing user).event (.ok output) :: rest ∧ ofListing output = .ok devices ∧
      ∀ d ∈ devices, ¬Fits bytes d
  /-- A disk without a partition is not touched. -/
  unpartitioned : ∀ output devices d rest, h = (listing user).event (.ok output) :: rest →
    ofListing output = .ok devices → candidates bytes devices = [d] →
    (∀ p ∈ devices, ¬PartOf d.name p) → rest = [] ∧ r = .error (.stage .deviceDetection
      (.operation ("disk " ++ d.name
        ++ " has no partition; rerun with --reinit to recreate the store")))
  /-- Several disks of the size end the search at once. -/
  ambiguous : ∀ before output devices after,
    h = before ++ (listing user).event (.ok output) :: after →
    ofListing output = .ok devices → 2 ≤ (candidates bytes devices).length →
    after = [] ∧ r = .error (.stage .deviceDetection
      (.ambiguousDisk bytes ((candidates bytes devices).map (·.name))))
  listings : h.commands.count (listing user) ≤ 11
  pauses : h.pauses.length ≤ 9 ∧ ∀ ms ∈ h.pauses, ms = 1000

/-- The partition that is taken stands in the last listing. -/
theorem lastListing_of_last (user : Target) {a : Except Failure String} {p : BlockDevice}
    (hshows : ShowsPartition bytes a p) (before : History) :
    ∃ devices d, LastListing user (before ++ [(listing user).event a]) devices ∧
      candidates bytes devices = [d] ∧ LastLargest (PartOf d.name) devices p := by
  obtain ⟨output, devices, d, rfl, hdevices, hfits, hlargest⟩ := hshows
  exact ⟨devices, d, ⟨before, output, [], rfl, hdevices, by simp⟩, hfits, hlargest⟩

/-- What holds for every way to get hold of a disk, way by way. -/
theorem AttachRun.discovers {r : Except Failure StoreDisk}
    (hr : AttachRun user disk bytes h r) (hguarded : h.Guarded (OnlyIfMissing disk bytes)) :
    Discovers user disk bytes h r := by
  obtain ⟨a, rest, cs, m, n, hbegin, hcommands, hfile, hunlisted, hpauses, hm, hn⟩ := hr.asked
  -- Every command is a listing or one of those for the disk file.
  have hothers : ∀ c ∈ cs, c ≠ listing user := by
    rintro c hc rfl
    have hin := hfile.subset hc
    simp [listing_ne_createDisk, listing_ne_partitionDisk, listing_ne_attachDisk] at hin
  refine ⟨⟨a, rest, hbegin⟩, ?_, ?_, ?_, hguarded, ?_, ?_, ?_, ?_, ?_⟩
  · rintro attached rfl
    cases hr with
    | attached hfirst => exact lastListing_of_last user (firstLook_some hfirst) []
    | @found b file looks created p hfirst hfile hwait =>
      cases hwait with
      | @decided n looks c r hn hlooks hdecided =>
        rw [← List.append_assoc, ← List.cons_append]
        exact lastListing_of_last user (look_some hdecided) _
  · rintro attached rfl
    cases hr with
    | @attached b p hfirst =>
      refine iff_of_false Bool.false_ne_true ?_
      rintro ⟨output, hmem⟩
      have hsame := List.mem_singleton.mp hmem
      exact listing_ne_createDisk (Command.event_inj.mp hsame).1.symm
    | @found b file looks created p hfirst hfile hwait =>
      refine (hfile.created_iff created rfl).trans (exists_congr fun output => ?_)
      have hlooks : (createDisk disk bytes).event (.ok output) ∉ looks := by
        intro hmem
        obtain ⟨n, -, hcommands, -⟩ := hwait.asked
        have hin := History.mem_commands_of_event hmem
        rw [hcommands] at hin
        exact listing_ne_createDisk (List.mem_replicate.mp hin).2.symm
      simp [hlooks, listing_ne_createDisk.symm]
  · have hnone : (List.replicate m (listing user)).filter (· ≠ listing user) = [] := by
      simp
    rw [hbegin, History.commands_event, hcommands, List.filter_cons_of_neg (by simp),
      List.filter_append, hnone, List.append_nil, List.filter_eq_self.mpr (by simpa using hothers)]
    exact hfile
  · rintro ⟨c, hc, hne⟩
    rw [hbegin, History.commands_event, hcommands] at hc
    have hin : c ∈ cs := by
      simpa [hne] using hc
    obtain ⟨output, devices, rfl, hdevices, hnone⟩ :=
      firstLook_none (hunlisted (List.ne_nil_of_mem hin))
    exact ⟨output, devices, rest, hbegin, hdevices, hnone⟩
  · intro output devices d rest hsplit hdevices hfits hnone
    rw [hsplit] at hr
    exact hr.refused_first (firstLook_unpartitioned hdevices hfits hnone)
  · intro before output devices after hsplit hdevices hmany
    exact hr.several (showsSeveral hdevices hmany) hsplit
  · have hcount : cs.count (listing user) = 0 :=
      List.count_eq_zero.mpr fun hmem => hothers _ hmem rfl
    rw [hbegin, History.commands_event, hcommands, List.count_cons_self, List.count_append,
      List.count_replicate_self, hcount]
    omega
  · rw [hbegin, History.pauses_event, hpauses]
    exact ⟨by simpa using hn, fun ms hms => (List.mem_replicate.mp hms).2⟩

/-- **How a run gets hold of the disk of a store.** Whatever the host answers, the only
disk of the size is taken with its largest partition. Where there is none the disk file is
made and waited for, where there are several the search ends at once, and where the disk
has no partition nothing is done to it. -/
theorem attachStoreDisk_discovers {σ : Type} (host : Host σ) (user : Target) (disk : Path)
    (bytes : Nat) (s : σ) :
    Discovers user disk bytes ((attachStoreDisk .host user disk bytes).outcome.record host s)
      ((attachStoreDisk .host user disk bytes).outcome.runWith host s).1 := by
  have hl := Action.leads_record host (attachStoreDisk .host user disk bytes).outcome s
  exact (attachStoreDisk_run hl).discovers
    ((attachStoreDisk_onlyIfMissing user disk bytes).history hl)

end Wsl

end BtrfsStore
