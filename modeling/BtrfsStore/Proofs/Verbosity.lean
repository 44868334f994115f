import BtrfsStore.Proofs.Conclusion
import BtrfsStore.Proofs.Milestones
import BtrfsStore.Proofs.Steps.Wsl
import BtrfsStore.Scripted
/-!
# BtrfsStore.Proofs.Verbosity

**`verbose` changes nothing but a report.** Two runs for one request, one with
`verbose` and one without, ask the same questions until the unit of the store does
not start. There the run without `verbose` is over, and the other one asks for the
journal of the unit and is over then.

`Action.TellsMore` is this relation of two programs. It has one law for
sequencing, `TellsMore.bind`, which carries it from `MountSupervision.start`, the
only step that looks at `verbose`, to the whole run; what comes before and after
this step starts no unit, as its list of steps shows.
`verbose_only_reads_journal` says what the relation means for runs on a host.
-/

namespace BtrfsStore

/-! ### The journal -/

namespace MountSupervision

/-- The question for the end of the journal of a unit. -/
def journalQuestion (root : Target) (name : String) : Command :=
  { target := root, description := "read mount unit journal", program := "journalctl"
    args := ["-u", name, "-n", journalLines, "--no-pager"], limit := Limit.quick }

/-- What becomes of the failure `f` to start a unit when its journal has been
asked for. -/
def explained (name : String) (f : Failure) : Except Failure String → Failure
  | .ok output =>
    if Text.isBlankText output then f
    else .operation (f.message ++ "\nrecent journal for " ++ name ++ ":\n" ++ Text.trim output)
  | .error _ => f

end MountSupervision

open MountSupervision

/-! ### Starting units -/

/-- The question is to start a unit. -/
def Query.StartsUnit (q : Query) : Prop := ∃ root name, q = .run (startUnit root name)

/-- A unit has not started. -/
def Event.FailedStart (e : Event) : Prop :=
  ∃ root name f, e = (startUnit root name).event (.error f)

theorem Event.FailedStart.startsUnit {e : Event} (he : e.FailedStart) : e.query.StartsUnit := by
  obtain ⟨root, name, f, rfl⟩ := he
  exact ⟨root, name, rfl⟩

/-- The action starts no unit. -/
abbrev Action.StartsNone {α : Type} (x : Action α) : Prop := x.Asks fun q => ¬q.StartsUnit

/-- A question within steps with other names starts no unit. -/
theorem Query.Within.not_startsUnit {q : Query} {steps : List Step} (hq : q.Within steps)
    (hsteps : ∀ s ∈ steps, s.name ≠ "start mount unit") : ¬q.StartsUnit := by
  rintro ⟨root, name, rfl⟩
  obtain ⟨s, hs, -, hname, -⟩ := hq
  exact hsteps s hs hname.symm

/-- Steps of other names start no unit. -/
theorem Action.Asks.startsNone {α : Type} {x : Action α} {steps : List Step}
    (hx : x.Asks (Query.Among steps)) (hsteps : ∀ s ∈ steps, s.name ≠ "start mount unit") :
    x.StartsNone :=
  hx.mono fun _ hq => hq.within.not_startsUnit hsteps

/-! ### Programs that tell more -/

namespace Action

variable {α β : Type}

/-- The second program does what the first one does, but asks for the journal of
a unit that does not start. What is made of the failure to start is one of
`F`. -/
inductive TellsMore (F : (Failure → α) → Prop) : Action α → Action α → Prop
  | done (a : α) : TellsMore F (.done a) (.done a)
  | ask {q : Query} {next next' : q.Answer → Action α} (hq : ¬q.StartsUnit)
      (hnext : ∀ answer, TellsMore F (next answer) (next' answer)) :
      TellsMore F (.ask q next) (.ask q next')
  /-- If the unit does not start, both are over with the failure that `fails` makes
  of it, but the second one asks for the journal before that. -/
  | start {root : Target} {name : String} {fails : Failure → α}
      {next next' : Except Failure String → Action α} (hfails : F fails)
      (hok : ∀ output, TellsMore F (next (.ok output)) (next' (.ok output)))
      (herror : ∀ f, next (.error f) = .done (fails f))
      (hjournal : ∀ f, next' (.error f) = .ask (.run (journalQuestion root name)) fun answer =>
        .done (fails (explained name f answer))) :
      TellsMore F (.ask (.run (startUnit root name)) next)
        (.ask (.run (startUnit root name)) next')

variable {F : (Failure → α) → Prop} {F' : (Failure → β) → Prop} {x y : Action α}

theorem TellsMore.refl (hx : x.StartsNone) : TellsMore F x x := by
  induction x with
  | done a => exact .done a
  | ask q next ih => exact .ask hx.1 fun answer => ih answer (hx.2 answer)

/-- What follows a failure to start has nothing to ask either. -/
theorem TellsMore.bind {f g : α → Action β} (hxy : TellsMore F x y)
    (hfg : ∀ a, TellsMore F' (f a) (g a))
    (hfails : ∀ fails, F fails →
      ∃ fails', F' fails' ∧ ∀ e, f (fails e) = .done (fails' e) ∧ g (fails e) = .done (fails' e)) :
    TellsMore F' (x >>= f) (y >>= g) := by
  induction hxy with
  | done a => exact hfg a
  | ask hq _ ih => exact .ask hq ih
  | @start root name fails next next' hF _ herror hjournal ih =>
    obtain ⟨fails', hF', hdone⟩ := hfails fails hF
    refine .start hF' ih (fun e => ?_) fun e => ?_
    · rw [herror]
      exact (hdone e).1
    · rw [hjournal]
      exact congrArg (Action.ask _) (funext fun answer => (hdone _).2)

theorem TellsMore.map {u : α → β} (hxy : TellsMore F x y)
    (hu : ∀ fails, F fails → F' (u ∘ fails)) : TellsMore F' (u <$> x) (u <$> y) := by
  rw [map_eq_pure_bind, map_eq_pure_bind]
  refine hxy.bind (fun a => .done (u a)) fun fails hF => ?_
  exact ⟨u ∘ fails, hu fails hF, fun _ => ⟨rfl, rfl⟩⟩

end Action

/-! ### From the start of the unit to the whole run -/

namespace Attempt

variable {α β : Type}

/-- The second attempt tells more, and both fail with what is made of the failure
to start. -/
abbrev TellsMore (x y : Attempt α) : Prop := Action.TellsMore (· = Except.error) x.outcome y.outcome

theorem TellsMore.bind {x y : Attempt α} {f g : α → Attempt β} (hxy : x.TellsMore y)
    (hfg : ∀ a, (f a).TellsMore (g a)) : (x >>= f).TellsMore (y >>= g) := by
  rw [TellsMore, outcome_bind, outcome_bind]
  refine Action.TellsMore.bind hxy (fun r => ?_) fun fails hfails => ?_
  · cases r with
    | error e => exact .done _
    | ok a => exact hfg a
  · rw [hfails]
    exact ⟨Except.error, rfl, fun _ => ⟨rfl, rfl⟩⟩

end Attempt

namespace MountSupervision

/-- The one step that looks at `verbose`. -/
theorem start_tellsMore (root : Target) (name : String) :
    (start root false name).TellsMore (start root true name) := by
  refine .start rfl (fun _ => .done _) (fun _ => rfl) fun f => ?_
  refine congrArg (Action.ask _) (funext fun answer => ?_)
  cases answer with
  | error e => rfl
  | ok output =>
    by_cases hblank : Text.trim output = ""
    · rw [explained, if_pos ((Text.trim_eq_empty_iff output).mp hblank)]
      simp only [Action.bind, String.isEmpty_iff, hblank, if_true]
      rfl
    · rw [explained, if_neg (mt (Text.trim_eq_empty_iff output).mpr hblank)]
      simp only [Action.bind, String.isEmpty_iff, hblank, if_false]
      rfl

/-- Only the start of the unit is told more about. -/
theorem activate_tellsMore (root : Target) (unit : MountUnit) :
    (activate root false unit).TellsMore (activate root true unit) := by
  have hawait : (awaitType root unit.mountPoint unit.fsType).outcome.StartsNone :=
    (asks_awaitType _ _ _).startsNone (by simp [Filesystem.mountPointSteps])
  have hactive : (isActive root unit.name).outcome.StartsNone := by
    simp [isActive, Query.StartsUnit, startUnit]
  unfold activate
  refine .bind (.refl (asks_check unit)) fun _ => .bind (.refl hactive) fun active => ?_
  cases active with
  | true => exact .refl hawait
  | false => exact .bind (start_tellsMore root unit.name) fun _ => .refl hawait

end MountSupervision

namespace Wsl

theorem mountUnit_tellsMore (root : Target) (unit : MountUnit) :
    (mountUnit root false unit).TellsMore (mountUnit root true unit) := by
  refine .bind (.refl ?_) fun _ => activate_tellsMore root unit
  exact (asks_install root unit).startsNone (by simp [installSteps])

namespace Stages

variable {α β : Type}

/-- The second run of stages tells more, whatever the outcome was before. The
failure to start is one of stage `mount`. -/
def TellsMore (x y : Stages α) : Prop :=
  ∀ o, Action.TellsMore (fun fails => ∃ o', fails = fun f => (.error (.stage .mount f), o'))
    (x.runFrom o) (y.runFrom o)

theorem TellsMore.refl {x : Stages α} (hx : ∀ o, (x.runFrom o).StartsNone) : x.TellsMore x :=
  fun o => .refl (hx o)

theorem TellsMore.stage {x y : Attempt α} (hxy : x.TellsMore y) :
    TellsMore (stage .mount x) (Wsl.stage .mount y) := by
  intro o
  rw [runFrom_stage, runFrom_stage, Attempt.outcome_inStage, Attempt.outcome_inStage,
    Functor.map_map, Functor.map_map]
  refine Action.TellsMore.map hxy fun fails hfails => ⟨o, ?_⟩
  rw [hfails]
  rfl

theorem TellsMore.bind {x y : Stages α} {f g : α → Stages β} (hxy : x.TellsMore y)
    (hfg : ∀ a, (f a).TellsMore (g a)) : (x >>= f).TellsMore (y >>= g) := by
  intro o
  rw [runFrom_bind, runFrom_bind]
  refine Action.TellsMore.bind (hxy o) (fun p => ?_) fun fails hfails => ?_
  · obtain ⟨e | a, o'⟩ := p
    · exact .done _
    · exact hfg a o'
  · obtain ⟨o', rfl⟩ := hfails
    exact ⟨_, ⟨o', rfl⟩, fun _ => ⟨rfl, rfl⟩⟩

/-- A stage that may be left out. -/
theorem TellsMore.after_if {needed : Bool} {x : Stages Unit} {y y' : Stages α}
    (hx : x.TellsMore x) (hyy' : y.TellsMore y') :
    TellsMore (do if needed then x
                  y) (do if needed then x
                         y') := by
  cases needed with
  | true => exact .bind hx fun _ => hyy'
  | false => exact hyy'

end Stages

open Filesystem StoreContent

variable (request : StoreRequest) (storeRoot : Option Path)

theorem setUp_tellsMore (user : Target) (place : Place) (device : String) :
    (setUp { request with verbose := false } user place device).TellsMore
      (setUp { request with verbose := true } user place device) := by
  have hlink : (findLink place.root device).StartsNone :=
    (asks_findLink _ _).startsNone (by simp [linkSteps])
  unfold setUp
  refine .bind (.refl fun _ => Stages.asks_step (hlink.map _)) fun found => ?_
  obtain ⟨link, uuid⟩ := found
  refine .after_if (.refl fun _ => Stages.asks_update _) ?_
  refine .bind (.stage (mountUnit_tellsMore place.root _)) fun _ => .refl fun o => ?_
  refine Stages.asks_bind (Stages.asks_discard (Stages.asks_stage ?_)) fun _ o => ?_
  · exact (asks_ensureSubvolumes _ _).startsNone (by simp [subvolumeSteps])
  refine Stages.asks_bind (Stages.asks_discard (Stages.asks_stage ?_)) fun _ o => ?_
  · exact (asks_giveTo _ _ _).startsNone (by simp [giveSteps, ownerSteps])
  exact Stages.asks_update _

theorem equip_tellsMore (user : Target) (place : Place) :
    (equip { request with verbose := false } user place).TellsMore
      (equip { request with verbose := true } user place) := by
  unfold equip
  refine .bind (.refl fun _ => Stages.asks_step ?_) fun attached => ?_
  · exact (asks_attachStoreDisk user _ _).startsNone
      (by simp [diskSteps, listSteps, fileSteps, VirtualDisk.createSteps, VirtualDisk.attachSteps])
  refine .bind (.refl fun _ => Stages.asks_discard (Stages.asks_stage ?_)) fun _ => ?_
  · exact (asks_ensure _ _ _).startsNone
      (by simp [ensureSteps, detectSteps, formatSteps, verifySteps, probeMountSteps])
  exact setUp_tellsMore request user place _

theorem runStages_tellsMore (distro : String) :
    (runStages { request with verbose := false } storeRoot distro).TellsMore
      (runStages { request with verbose := true } storeRoot distro) := by
  have hplace : ∀ o, ((findPlace request storeRoot distro).runFrom o).StartsNone := by
    intro o
    refine asks_findPlace request storeRoot distro o fun nsenter q hq => hq.not_startsUnit ?_
    simp [placeSteps, readySteps, startSteps, kernelSteps, toolSteps, systemdSteps, dockerSteps,
      VirtualDisk.elevationSteps, resolveSteps, stateDirSteps, nameSteps]
  rw [runStages_eq, runStages_eq]
  refine .bind (.refl hplace) fun place => .after_if (.refl fun _ => Stages.asks_stage ?_) ?_
  · refine (asks_teardown place.root _ _ _).mono fun q hq => ?_
    rcases hq with hq | rfl
    · refine hq.within.not_startsUnit ?_
      simp [tearDownSteps, teardownSteps, releaseSteps, mountPointSteps, detachSteps]
    · simp [Query.StartsUnit]
  · exact equip_tellsMore request _ place

/-- What is made of a failure in stage `mount`, with some outcome so far. -/
def EndsInMount (require : Bool) (fails : Failure → Except Failure StoreOutcome) : Prop :=
  ∃ o, fails = fun f => conclude require (.ok (.error (.stage .mount f), o))

/-- A whole run tells more, and only at the mount. -/
theorem provision_tellsMore :
    Action.TellsMore (EndsInMount request.require)
      (provision { request with verbose := false } storeRoot).outcome
      (provision { request with verbose := true } storeRoot).outcome := by
  rw [outcome_provision, outcome_provision]
  refine Action.TellsMore.map (F := fun fails =>
    ∃ o, fails = fun f => .ok (.error (.stage .mount f), o)) ?_ ?_
  · have hchoose : (chooseDistro request).StartsNone :=
      (asks_chooseDistro request).mono fun _ hq => hq.not_startsUnit (by simp [chooseSteps])
    refine (Action.TellsMore.refl (F := fun _ => False) hchoose).bind (fun chosen => ?_)
      fun _ hF => hF.elim
    cases chosen with
    | error reason => exact .done _
    | ok distro =>
      refine (runStages_tellsMore request storeRoot distro.name _).map fun fails hfails => ?_
      obtain ⟨o, rfl⟩ := hfails
      exact ⟨o, rfl⟩
  · intro fails hfails
    obtain ⟨o, rfl⟩ := hfails
    exact ⟨o, rfl⟩

end Wsl

/-! ### Runs on a host -/

/-- Two runs on one host that differ at most in a question for a journal. What is
made of the failure to start its unit is one of `F`. -/
inductive DifferInJournal {α σ : Type} (host : Host σ) (s : σ) (F : (Failure → α) → Prop)
    (plain verbose : Action α) : Prop
  /-- The two are the same run, in which no unit has failed to start. -/
  | same (hstarted : ∀ e ∈ plain.record host s, ¬e.FailedStart)
      (hrecord : verbose.record host s = plain.record host s)
      (hrun : verbose.runWith host s = plain.runWith host s)
  /-- The last question of the one run has been to start a unit, which has failed
  with `f`. The other run asks for the journal of the unit after that. -/
  | journal {h : History} {root : Target} {name : String} {f : Failure} {fails : Failure → α}
      {s' : σ} (hfails : F fails)
      (hplain : plain.record host s = h ++ [(startUnit root name).event (.error f)])
      (hplainRun : plain.runWith host s = (fails f, s'))
      (hverbose : verbose.record host s = plain.record host s ++
        [(journalQuestion root name).event (host.answer (.run (journalQuestion root name)) s').1])
      (hverboseRun : verbose.runWith host s
        = (fails (explained name f (host.answer (.run (journalQuestion root name)) s').1),
          (host.answer (.run (journalQuestion root name)) s').2)) :
      DifferInJournal host s F plain verbose

/-- A question that both runs ask first makes no difference, if it is not a failed
start. -/
theorem DifferInJournal.ask {α σ : Type} {host : Host σ} {s : σ} {F : (Failure → α) → Prop}
    {q : Query} {next next' : q.Answer → Action α}
    (hq : ¬(⟨q, (host.answer q s).1⟩ : Event).FailedStart)
    (hnext : DifferInJournal host (host.answer q s).2 F (next (host.answer q s).1)
      (next' (host.answer q s).1)) :
    DifferInJournal host s F (.ask q next) (.ask q next') := by
  cases hnext with
  | same hstarted hrecord hrun =>
    exact .same (List.forall_mem_cons.mpr ⟨hq, hstarted⟩) (congrArg (List.cons _) hrecord) hrun
  | @journal h root name f fails s' hfails hplain hplainRun hverbose hverboseRun =>
    exact .journal (h := ⟨q, (host.answer q s).1⟩ :: h) hfails (congrArg (List.cons _) hplain)
      hplainRun (congrArg (List.cons _) hverbose) hverboseRun

/-- What programs that tell more do on a host. -/
theorem Action.TellsMore.differInJournal {α σ : Type} {F : (Failure → α) → Prop}
    {plain verbose : Action α} (hmore : TellsMore F plain verbose) (host : Host σ) (s : σ) :
    DifferInJournal host s F plain verbose := by
  induction hmore generalizing s with
  | done a => exact .same (List.forall_mem_nil _) rfl rfl
  | ask hq _ ih => exact .ask (fun hfailed => hq hfailed.startsUnit) (ih _ _)
  | @start root name fails next next' hfails _ herror hjournal ih =>
    cases hstarted : (host.answer (.run (startUnit root name)) s).1 with
    | ok output =>
      refine .ask ?_ (hstarted ▸ ih output _)
      rintro ⟨root', name', f, he⟩
      rw [hstarted] at he
      cases (Command.event_inj.mp he).2
    | error f =>
      have hplain : (Action.ask (.run (startUnit root name)) next).record host s
          = [] ++ [(startUnit root name).event (.error f)] := by
        rw [record, hstarted, herror, record, List.nil_append]
      have hplainRun : (Action.ask (.run (startUnit root name)) next).runWith host s
          = (fails f, (host.answer (.run (startUnit root name)) s).2) := by
        rw [runWith_ask, hstarted, herror, runWith_done]
      refine .journal hfails hplain hplainRun ?_ ?_
      · rw [hplain, record, hstarted, hjournal, record, record]
        rfl
      · rw [runWith_ask, hstarted, hjournal, runWith_ask, runWith_done]

/-- **`verbose` changes nothing but a report.** On a Linux host nothing looks at
it. In WSL the run with `verbose` is the run without it, unless the unit of the
store does not start; then both end in stage `mount`, the one with `verbose` after
one more question, for the journal of the unit, and its failure tells what the
journal says. -/
theorem verbose_only_reads_journal {σ : Type} (host : Host σ) (s : σ) (request : StoreRequest)
    (storeRoot : Option Path) :
    Native.provision { request with verbose := true } storeRoot
        = Native.provision { request with verbose := false } storeRoot ∧
      DifferInJournal host s (Wsl.EndsInMount request.require)
        (Wsl.provision { request with verbose := false } storeRoot).outcome
        (Wsl.provision { request with verbose := true } storeRoot).outcome :=
  ⟨rfl, (Wsl.provision_tellsMore request storeRoot).differInJournal host s⟩

/-- A Windows host with a store, whose unit does not start. -/
def hostWithFailingUnit : Scripted.State :=
  let s : Scripted.State := {}
  let s := s.on "wsl.exe" [] [.output "* Ubuntu Running 2"]
  let s := s.on "cat" [] [.output "btrfs"]
  let s := s.on "which" [] [.output "/usr/bin/tool"]
  let s := s.on "sh" [] [.output "running", .output "/state"]
  let s := s.on "powershell.exe" [] [.output "Running", .output "True"]
  let s := s.on "systemd-escape" [] [.output "state-sqlrs-store.mount"]
  let s := s.on "lsblk" [] [.output "NAME SIZE TYPE\nsdb 107374182400 disk\nsdb1 107374182400 part"]
  let s := s.on "findmnt" [] [.failure 1 ""]
  let s := s.on "blkid" [] [.output "btrfs", .output "1-2"]
  let s := s.on "systemctl" ["start"] [.failure 1 "failed"]
  s.on "journalctl" [] [.output "bad superblock"]

/-- What the journal says takes the place of the failed command, and of its exit
code. So the two failures differ in more than a text. -/
theorem verbose_hides_exit_code :
    ∃ f f', ((Wsl.provision { require := true, verbose := false } (some ⟨"C:"⟩)).outcome.runWith
          Scripted.host hostWithFailingUnit).1 = .error f ∧
        ((Wsl.provision { require := true, verbose := true } (some ⟨"C:"⟩)).outcome.runWith
          Scripted.host hostWithFailingUnit).1 = .error f' ∧
        f.exitCode = some 1 ∧ f'.exitCode = none :=
  ⟨.stage .mount (.exited "start mount unit" 1 "failed"),
    .stage .mount (.operation ("start mount unit: exit status 1: failed\n"
      ++ "recent journal for state-sqlrs-store.mount:\nbad superblock")),
    by decide +kernel, by decide +kernel, rfl, rfl⟩

end BtrfsStore
