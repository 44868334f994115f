import Mathlib.Data.List.Basic
import BtrfsStore.Proofs.Conclusion
import BtrfsStore.Proofs.Filesystem
import BtrfsStore.Proofs.Steps.Native
import BtrfsStore.Proofs.Steps.Wsl
/-!
# BtrfsStore.Proofs.Reinit

**A store that is still mounted keeps its backing file.** `KeepsMounted` says it
of a history and a result: the file is removed only directly after an attempt
to unmount the store and a check that found nothing mounted there, and an
attempt or a check with another answer ends the run with a failure.

The proof has three layers. `ReinitRun` lists the histories that a run with
`release` in it can have, and `ReinitRun.keepsMounted` reads the property off
this list. `Native.provision_reinitRun` and `Wsl.provision_reinitRun` put a
whole run of each platform on the list; everything before and after `release`
is quiet there, which the step lists show.
-/

namespace BtrfsStore

open Filesystem

/-! ### Removing and unmounting -/

/-- Whether a question removes a file of the host itself. -/
def Query.RemovesFile : Query → Prop
  | .run c => c.program = "rm" ∧ (c.target = .host ∨ c.target = .hostRoot)
  | .removeFile _ => True
  | _ => False

/-- Whether a question tries to unmount a store. -/
def Query.UnmountsStore (q : Query) : Prop := ∃ root dir, q = .run (unmountStore root dir)

/-- Whether a question neither removes a file nor unmounts a store. -/
def Query.Quiet (q : Query) : Prop := ¬q.RemovesFile ∧ ¬q.UnmountsStore

/-- The removal of the backing file of a store. -/
structure Removal where
  /-- The target that unmounts the store. -/
  root : Target
  /-- The directory of the store. -/
  dir : String
  /-- What is asked between the check and the removal. -/
  cleanup : List Query
  query : Query

/-- The run removes a backing file only when the store is not mounted. The
removals that it may make, by the history before them, are `planned`. -/
structure KeepsMounted (planned : History → Removal → Prop) (require : Bool) (h : History)
    (r : Except Failure StoreOutcome) : Prop where
  removed_after : ∀ before e after, h = before ++ e :: after → e.query.RemovesFile →
    ∃ pre u m cleanup removal, planned pre removal ∧ e.query = removal.query ∧
      before = pre ++ (unmountStore removal.root removal.dir).event u
        :: (mountPointCheck removal.root removal.dir).event m :: cleanup ∧
      ¬Busy u ∧ Silent 1 m ∧ cleanup.map Event.query = removal.cleanup
  busy_last : ∀ root dir before u after,
    h = before ++ (unmountStore root dir).event u :: after → Busy u →
      after = [] ∧ FailsIn .reinit require r ∧ ∀ e ∈ h, ¬e.query.RemovesFile
  mounted_last : ∀ root dir before u m after,
    h = before ++ (unmountStore root dir).event u :: (mountPointCheck root dir).event m :: after →
      ¬Silent 1 m → after = [] ∧ FailsIn .reinit require r ∧ ∀ e ∈ h, ¬e.query.RemovesFile

/-! ### Runs with a release in them -/

/-- The histories of a run that may release a store. -/
inductive ReinitRun (planned : History → Removal → Prop) (require : Bool) :
    History → Except Failure StoreOutcome → Prop
  /-- The store is not released. -/
  | unreached {h : History} {r : Except Failure StoreOutcome} (hquiet : ∀ e ∈ h, e.query.Quiet) :
      ReinitRun planned require h r
  /-- The store is not released because it cannot be, and the run ends. -/
  | failed {pre h : History} {r : Except Failure StoreOutcome} {root : Target} {dir : String}
      {f : Failure} (hpre : ∀ e ∈ pre, e.query.Quiet) (hrelease : ReleaseRun root dir h (.error f))
      (hfails : FailsIn .reinit require r) :
      ReinitRun planned require (pre ++ h) r
  /-- The store is released, and nothing is removed. -/
  | kept {pre h post : History} {r : Except Failure StoreOutcome} {root : Target} {dir : String}
      (hpre : ∀ e ∈ pre, e.query.Quiet) (hrelease : ReleaseRun root dir h (.ok ()))
      (hpost : ∀ e ∈ post, e.query.Quiet) :
      ReinitRun planned require (pre ++ h ++ post) r
  /-- The store is released and its backing file removed. -/
  | removed {pre h cleanup post : History} {r : Except Failure StoreOutcome} {removal : Removal}
      {e : Event} (hpre : ∀ e ∈ pre, e.query.Quiet)
      (hrelease : ReleaseRun removal.root removal.dir h (.ok ()))
      (hplanned : planned pre removal) (hcleanup : cleanup.map Event.query = removal.cleanup)
      (he : e.query = removal.query) (hmounts : ¬e.query.UnmountsStore)
      (hquiet : ∀ e ∈ cleanup, e.query.Quiet) (hpost : ∀ e ∈ post, e.query.Quiet) :
      ReinitRun planned require (pre ++ h ++ cleanup ++ e :: post) r

section

variable {root root' : Target} {dir dir' : String} {u u' : Except Failure String}

theorem quiet_mountPointCheck : (Query.run (mountPointCheck root dir)).Quiet := by
  constructor
  · simp [Query.RemovesFile, mountPointCheck]
  · intro hunmounts
    obtain ⟨root, dir, hq⟩ := hunmounts
    simp [mountPointCheck, unmountStore] at hq

theorem not_removes_unmountStore : ¬(Query.run (unmountStore root dir)).RemovesFile := by
  simp [Query.RemovesFile, unmountStore]

/-- A run that tries once to unmount a store is split by this attempt in only one
way. -/
theorem split_unmountStore {pre post before after : History}
    (hpre : ∀ e ∈ pre, e.query.Quiet) (hpost : ∀ e ∈ post, ¬e.query.UnmountsStore)
    (h : pre ++ (unmountStore root dir).event u :: post
      = before ++ (unmountStore root' dir').event u' :: after) :
    u = u' ∧ post = after := by
  have hnotPre : (unmountStore root' dir').event u' ∉ pre :=
    fun hmem => (hpre _ hmem).2 ⟨root', dir', rfl⟩
  have hnotPost : (unmountStore root' dir').event u' ∉ post :=
    fun hmem => hpost _ hmem ⟨root', dir', rfl⟩
  obtain ⟨-, he, hafter⟩ := (List.append_cons_inj_of_notMem hnotPre hnotPost).mp h
  exact ⟨(Command.event_inj.mp he).2, hafter⟩

end

namespace KeepsMounted

variable {planned : History → Removal → Prop} {require : Bool} {pre post : History}
  {r : Except Failure StoreOutcome} {root : Target} {dir : String} {u m : Except Failure String}

/-- A run that never tries to unmount a store. -/
theorem of_quiet {h : History} (hquiet : ∀ e ∈ h, e.query.Quiet) :
    KeepsMounted planned require h r where
  removed_after := by
    rintro before e after rfl he
    exact absurd he (hquiet e (by simp)).1
  busy_last := by
    rintro root dir before u after rfl -
    exact absurd ⟨root, dir, rfl⟩ (hquiet ((unmountStore root dir).event u) (by simp)).2
  mounted_last := by
    rintro root dir before u m after rfl -
    exact absurd ⟨root, dir, rfl⟩ (hquiet ((unmountStore root dir).event u) (by simp)).2

/-- A run that ends with a failed release. -/
theorem of_failed {h : History} {f : Failure} (hpre : ∀ e ∈ pre, e.query.Quiet)
    (hrelease : ReleaseRun root dir h (.error f)) (hfails : FailsIn .reinit require r) :
    KeepsMounted planned require (pre ++ h) r := by
  have hkeeps : ∀ e ∈ pre ++ h, ¬e.query.RemovesFile := by
    intro e he
    rcases List.mem_append.mp he with he | he
    · exact (hpre e he).1
    · cases hrelease with
      | busy hu =>
        obtain rfl := List.mem_singleton.mp he
        exact not_removes_unmountStore
      | mounted hu hm =>
        rcases List.mem_pair.mp he with rfl | rfl
        · exact not_removes_unmountStore
        · exact quiet_mountPointCheck.1
  -- What follows an attempt to unmount says how the release has failed.
  have hlast : ∀ {root' dir' before u' after}, pre ++ h
      = before ++ (unmountStore root' dir').event u' :: after →
      (Busy u' ∧ after = []) ∨ ∃ m, ¬Busy u' ∧ ¬Silent 1 m ∧
        after = [(mountPointCheck root dir).event m] := by
    intro root' dir' before u' after hsplit
    cases hrelease with
    | busy hu =>
      obtain ⟨rfl, rfl⟩ := split_unmountStore hpre (by simp) hsplit
      exact .inl ⟨hu, rfl⟩
    | @mounted u m f hu hm =>
      obtain ⟨rfl, rfl⟩ := split_unmountStore hpre (by simpa using quiet_mountPointCheck.2) hsplit
      exact .inr ⟨m, hu, hm, rfl⟩
  constructor
  · intro before e after hsplit he
    exact absurd he (hkeeps e (hsplit ▸ by simp))
  · intro root' dir' before u' after hsplit hu'
    rcases hlast hsplit with ⟨-, hafter⟩ | ⟨m, hu, -, -⟩
    · exact ⟨hafter, hfails, hkeeps⟩
    · exact absurd hu' hu
  · intro root' dir' before u' m after hsplit hm
    rcases hlast hsplit with ⟨-, hafter⟩ | ⟨m', -, -, hafter⟩
    · cases hafter
    · exact ⟨(List.cons.inj hafter).2, hfails, hkeeps⟩

/-- A run that releases a store. -/
theorem of_released {h : History} (hpre : ∀ e ∈ pre, e.query.Quiet)
    (hrelease : ReleaseRun root dir h (.ok ())) (hpost : ∀ e ∈ post, ¬e.query.UnmountsStore)
    (hremoved : ∀ before e after, post = before ++ e :: after → e.query.RemovesFile →
      ∃ removal, planned pre removal ∧ removal.root = root ∧ removal.dir = dir ∧
        e.query = removal.query ∧ before.map Event.query = removal.cleanup) :
    KeepsMounted planned require (pre ++ h ++ post) r := by
  cases hrelease with
  | @released u m hu hm =>
  rw [List.append_assoc]
  have hpost' : ∀ e ∈ (mountPointCheck root dir).event m :: post, ¬e.query.UnmountsStore := by
    simpa using ⟨quiet_mountPointCheck.2, hpost⟩
  constructor
  · intro before e after hsplit he
    -- The removal comes after the check.
    have hfirst : e ∉ pre ++ [(unmountStore root dir).event u,
        (mountPointCheck root dir).event m] := by
      intro hmem
      rcases List.mem_append.mp hmem with hmem | hmem
      · exact (hpre e hmem).1 he
      · rcases List.mem_pair.mp hmem with rfl | rfl
        · exact not_removes_unmountStore he
        · exact quiet_mountPointCheck.1 he
    obtain ⟨cleanup, rfl, hrest⟩ := History.split_of_notMem hfirst (by simpa using hsplit)
    obtain ⟨removal, hplanned, rfl, rfl, hquery, hcleanup⟩ := hremoved _ _ _ hrest he
    exact ⟨pre, u, m, cleanup, removal, hplanned, hquery, by simp, hu, hm, hcleanup⟩
  · intro root' dir' before u' after hsplit hu'
    obtain ⟨rfl, -⟩ := split_unmountStore hpre hpost' hsplit
    exact absurd hu' hu
  · intro root' dir' before u' m' after hsplit hm'
    obtain ⟨-, hafter⟩ := split_unmountStore hpre hpost' hsplit
    obtain ⟨hevent, -⟩ := List.cons.inj hafter
    obtain ⟨-, rfl⟩ := Command.event_inj.mp hevent
    exact absurd hm hm'

end KeepsMounted

theorem ReinitRun.keepsMounted {planned : History → Removal → Prop} {require : Bool} {h : History}
    {r : Except Failure StoreOutcome} (hr : ReinitRun planned require h r) :
    KeepsMounted planned require h r := by
  cases hr with
  | unreached hquiet => exact .of_quiet hquiet
  | failed hpre hrelease hfails => exact .of_failed hpre hrelease hfails
  | kept hpre hrelease hpost =>
    refine .of_released hpre hrelease (fun e he => (hpost e he).2) ?_
    rintro before e after rfl he
    exact absurd he (hpost e (by simp)).1
  | @removed pre h cleanup post r removal e hpre hrelease hplanned hcleanup he hmounts hquiet
      hpost =>
    rw [List.append_assoc]
    refine .of_released hpre hrelease ?_ ?_
    · intro e' he'
      rcases List.mem_append.mp he' with he' | he'
      · exact (hquiet e' he').2
      · rcases List.mem_cons.mp he' with rfl | he'
        · exact hmounts
        · exact (hpost e' he').2
    · intro before e' after hsplit hremoves
      have hnotCleanup : e' ∉ cleanup := fun hmem => (hquiet e' hmem).1 hremoves
      have hnotPost : e' ∉ post := fun hmem => (hpost e' hmem).1 hremoves
      obtain ⟨rfl, rfl, -⟩ := (List.append_cons_inj_of_notMem hnotCleanup hnotPost).mp hsplit
      exact ⟨removal, hplanned, rfl, rfl, he, hcleanup⟩

/-! ### Quiet steps -/

/-- A step that neither removes a file of the host nor unmounts a store. -/
def Step.Quiet (s : Step) : Prop :=
  s.name ≠ "unmount store" ∧ s.words ≠ [] ∧
    (s.words.head? = some "rm" → s.target ≠ .host ∧ s.target ≠ .hostRoot)

theorem Query.Within.quiet {steps : List Step} (hsteps : ∀ s ∈ steps, s.Quiet) {q : Query}
    (hq : q.Within steps) : q.Quiet := by
  cases q with
  | run c =>
    obtain ⟨s, hs, htarget, hname, hwords⟩ := hq
    obtain ⟨hmount, hne, hrm⟩ := hsteps s hs
    constructor
    · intro hremoves
      obtain ⟨hprogram, htargets⟩ := hremoves
      obtain ⟨program, words, hcons⟩ := List.exists_cons_of_ne_nil hne
      have hhead : s.words.head? = some "rm" := by
        rw [hcons, List.cons_prefix_cons] at hwords
        rw [hcons, hwords.1, hprogram]
        rfl
      obtain ⟨hhost, hroot⟩ := hrm hhead
      rw [← htarget] at hhost hroot
      exact htargets.elim hhost hroot
    · intro hunmounts
      obtain ⟨root, dir, hunmount⟩ := hunmounts
      cases hunmount
      exact hmount hname.symm
  | removeFile _ | writeText _ _ => exact hq.elim
  | _ => exact ⟨id, by simp [Query.UnmountsStore]⟩

/-! ### On a Linux host -/

namespace Native

def removeImage (image : Path) : Command :=
  { target := .hostRoot, description := "remove store image", program := "rm"
    args := ["-f", image.text], limit := Limit.quick }

/-- The removal that a run may make: that of the image of its plan. -/
def Planned (request : StoreRequest) (storeRoot : Option Path) (_ : History)
    (removal : Removal) : Prop :=
  ∃ plan image, StorePlan.ofRequest request storeRoot = .ok plan ∧ plan.imagePath = some image ∧
    removal = ⟨.hostRoot, plan.storeDir.text, [], .run (removeImage image)⟩

theorem reinit_run {plan : StorePlan} {h : History} {r : Except Failure Unit}
    (hl : (reinit plan).outcome.Leads h r) :
    (∃ f, ReleaseRun .hostRoot plan.storeDir.text h (.error f) ∧ r = .error f) ∨
      ∃ h₁, ReleaseRun .hostRoot plan.storeDir.text h₁ (.ok ()) ∧
        (h = h₁ ∨ ∃ image a, plan.imagePath = some image ∧
          h = h₁ ++ [(removeImage image).event a]) := by
  rcases Attempt.leads_bind.mp hl with ⟨f, hrelease, rfl⟩ | ⟨h₁, u, h₂, hrelease, hrest, rfl⟩
  · exact .inl ⟨f, release_run hrelease, rfl⟩
  refine .inr ⟨h₁, release_run hrelease, ?_⟩
  cases himage : plan.imagePath with
  | none =>
    rw [himage] at hrest
    obtain ⟨rfl, -⟩ := Action.leads_done.mp hrest
    exact .inl (List.append_nil h₁)
  | some image =>
    rw [himage] at hrest
    obtain ⟨a, rfl, -⟩ := Attempt.leads_discard_runWithin.mp hrest
    exact .inr ⟨image, a, rfl, rfl⟩

theorem quiet_equipSteps : ∀ s ∈ equipSteps, s.Quiet := by
  simp [equipSteps, takeSteps, lookSteps, createDirSteps, imageSteps, finishSteps, mountSteps,
    Filesystem.ensureSteps, Filesystem.detectSteps, Filesystem.formatSteps,
    Filesystem.verifySteps, Filesystem.probeMountSteps, Filesystem.mountPointSteps,
    StoreContent.giveSteps, StoreContent.ownerSteps, Step.Quiet]

/-- A run that has released the store and may have removed its image. -/
theorem released_reinitRun {request : StoreRequest} {storeRoot : Option Path} {plan : StorePlan}
    {h₁ h post : History} {r : Except Failure StoreOutcome}
    (hplan : StorePlan.ofRequest request storeRoot = .ok plan)
    (hrelease : ReleaseRun .hostRoot plan.storeDir.text h₁ (.ok ()))
    (hremove : h = h₁ ∨ ∃ image a, plan.imagePath = some image ∧
      h = h₁ ++ [(removeImage image).event a])
    (hpost : ∀ e ∈ post, e.query.Quiet) :
    ReinitRun (Planned request storeRoot) request.require (h ++ post) r := by
  rcases hremove with rfl | ⟨image, a, himage, rfl⟩
  · have hkept : ReinitRun (Planned request storeRoot) request.require ([] ++ h ++ post) r :=
      .kept (by simp) hrelease hpost
    exact hkept
  · have hplanned : Planned request storeRoot []
        ⟨.hostRoot, plan.storeDir.text, [], .run (removeImage image)⟩ :=
      ⟨plan, image, hplan, himage, rfl⟩
    have hmounts : ¬((removeImage image).event a).query.UnmountsStore := by
      intro hunmounts
      obtain ⟨root, dir, hunmount⟩ := hunmounts
      simp [removeImage, unmountStore] at hunmount
    have hremoved : ReinitRun (Planned request storeRoot) request.require
        ([] ++ h₁ ++ [] ++ (removeImage image).event a :: post) r :=
      .removed (by simp) hrelease hplanned rfl rfl hmounts (by simp) hpost
    simpa using hremoved

theorem prepare_reinitRun {request : StoreRequest} {storeRoot : Option Path} {h : History}
    {r : Except Failure StoreOutcome} (hl : (prepare request storeRoot).outcome.Leads h r) :
    ReinitRun (Planned request storeRoot) request.require h (conclude request.require r) := by
  have hequip : ∀ {plan h r}, (equip request plan).outcome.Leads h r → ∀ e ∈ h, e.query.Quiet :=
    fun hl => ((asks_equip request _).mono fun _ hq => hq.quiet quiet_equipSteps).of_mem hl
  rw [prepare_eq] at hl
  rcases Attempt.leads_bind.mp hl with ⟨f, hplan, rfl⟩ | ⟨_, plan, h₂, hplan, hrest, rfl⟩
  · obtain ⟨rfl, -⟩ := Action.leads_done.mp hplan
    exact .unreached (by simp)
  obtain ⟨rfl, hresolved⟩ := Action.leads_done.mp hplan
  rw [List.nil_append]
  cases hreinit : request.reinit with
  | false =>
    simp only [hreinit] at hrest
    exact .unreached (hequip hrest)
  | true =>
    simp only [hreinit, if_true] at hrest
    rcases Attempt.leads_bind.mp hrest with ⟨e, hstage, rfl⟩ | ⟨h₃, u, h₄, hstage, hequipped, rfl⟩
    · obtain ⟨f, hreinit, rfl⟩ := Attempt.leads_inStage_error.mp hstage
      -- Either the release failed, or it succeeded and the removal failed.
      rcases reinit_run hreinit with ⟨g, hrelease, hg⟩ | ⟨h₁, hrelease, hremove⟩
      · have hfails : FailsIn .reinit request.require
            (conclude request.require (.error (.stage .reinit f))) :=
          ⟨f, reported_conclude _ _⟩
        have hrun : ReinitRun (Planned request storeRoot) request.require ([] ++ h₂)
            (conclude request.require (.error (.stage .reinit f))) :=
          .failed (by simp) hrelease hfails
        exact hrun
      · rw [← List.append_nil h₂]
        exact released_reinitRun hresolved.symm hrelease hremove (by simp)
    · rcases reinit_run (Attempt.leads_inStage_ok.mp hstage) with
        ⟨g, -, hg⟩ | ⟨h₁, hrelease, hremove⟩
      · cases hg
      · exact released_reinitRun hresolved.symm hrelease hremove (hequip hequipped)

theorem provision_reinitRun {request : StoreRequest} {storeRoot : Option Path} {h : History}
    {r : Except Failure StoreOutcome} (hl : (provision request storeRoot).outcome.Leads h r) :
    ReinitRun (Planned request storeRoot) request.require h r := by
  rw [outcome_provision] at hl
  obtain ⟨ended, hprepare, rfl⟩ := Action.leads_map.mp hl
  exact prepare_reinitRun hprepare

end Native

/-! ### On a Windows host -/

namespace Wsl

def detachDisk (disk : Path) : Command :=
  { target := .host, description := "detach virtual disk from WSL", program := wslProgram
    args := ["--unmount", disk.text], limit := Limit.quick }

def dismountDisk (disk : Path) : Command :=
  { target := .host, description := "dismount virtual disk"
    program := VirtualDisk.powershellProgram
    args := VirtualDisk.powershellArgs (VirtualDisk.dismountScript disk), limit := Limit.standard }

/-- The removal that a run may make: that of the disk file of its request, with
the state directory that the distro has named. -/
def Planned (request : StoreRequest) (storeRoot : Option Path) (pre : History)
    (removal : Removal) : Prop :=
  ∃ distro nsenter output disk, diskPath request storeRoot = .ok disk ∧
    (stateDirQuestion distro).event (.ok output) ∈ pre ∧
    removal = ⟨.wslRoot distro nsenter, stateDirOf output,
      [.run (detachDisk disk), .run (dismountDisk disk)], .removeFile disk⟩

/-- The answer to the removal of a file says that the file is gone. -/
def Gone : Except FileFault Unit → Prop
  | .ok () | .error .notFound => True
  | .error _ => False

/-- The runs that delete a disk. -/
theorem leads_delete {disk : Path} {h : History} {r : Except Failure Unit}
    (hl : (VirtualDisk.delete disk).outcome.Leads h r) :
    ∃ x, h = [⟨.removeFile disk, x⟩] ∧ (r = .ok () → Gone x) := by
  unfold VirtualDisk.delete at hl
  rw [Attempt.outcome_bind, Attempt.outcome_lift, bind_map_left, Action.leads_bind] at hl
  obtain ⟨_, x, _, hremove, hanswer, rfl⟩ := hl
  obtain ⟨x, rfl, rfl⟩ := Action.leads_ask_done.mp hremove
  rw [Attempt.andThen_ok] at hanswer
  split at hanswer
  case h_3 fault _ =>
    obtain ⟨rfl, rfl⟩ := Action.leads_done.mp hanswer
    exact ⟨_, rfl, nofun⟩
  -- The file has been there, or has not.
  all_goals
    obtain ⟨rfl, -⟩ := Action.leads_done.mp hanswer
    exact ⟨_, rfl, fun _ => trivial⟩

/-- What a teardown asks: about the unit, about the mount and, once the mount is gone, for
the removal of the disk. -/
theorem teardown_run {root : Target} {unitName stateDir : String} {disk : Path} {h : History}
    {r : Except Failure Unit}
    (hl : (teardown .host root unitName stateDir disk).outcome.Leads h r) :
    ∃ h₀ h₁, (∀ e ∈ h₀, e.query.Within (MountSupervision.teardownSteps root)) ∧
      ((∃ f, ReleaseRun root stateDir h₁ (.error f) ∧ h = h₀ ++ h₁ ∧ r = .error f) ∨
        ∃ d₁ d₂ x, ReleaseRun root stateDir h₁ (.ok ()) ∧
          h = h₀ ++ h₁ ++ [(detachDisk disk).event d₁, (dismountDisk disk).event d₂,
            ⟨.removeFile disk, x⟩] ∧ (r = .ok () → Gone x)) := by
  unfold teardown at hl
  rw [Attempt.outcome_bind, Attempt.outcome_liftM, Action.leads_bind] at hl
  obtain ⟨h₀, _, h₂, hlifted, hrest, rfl⟩ := hl
  obtain ⟨u, hunit, rfl⟩ := Action.leads_map.mp hlifted
  have hwithin := (MountSupervision.asks_teardown root unitName).within.of_mem hunit
  rcases Attempt.leads_bind.mp hrest with
    ⟨f, hrelease, rfl⟩ | ⟨h₁, v, h₃, hrelease, hcleanup, rfl⟩
  · exact ⟨h₀, h₂, hwithin, .inl ⟨f, release_run hrelease, rfl, rfl⟩⟩
  obtain ⟨_, _, h₄, hdetach, hdetached, rfl⟩ := Attempt.leads_orIgnore_bind.mp hcleanup
  obtain ⟨_, _, h₅, hdismount, hdismounted, rfl⟩ := Attempt.leads_orIgnore_bind.mp hdetached
  obtain ⟨d₁, rfl, -⟩ := Attempt.leads_discard_runWithin.mp hdetach
  obtain ⟨d₂, rfl, -⟩ := Attempt.leads_discard_runWithin.mp hdismount
  obtain ⟨x, rfl, hgone⟩ := leads_delete hdismounted
  refine ⟨h₀, h₁, hwithin, .inr ⟨d₁, d₂, x, release_run hrelease, ?_, hgone⟩⟩
  rw [List.append_assoc]
  rfl

theorem quiet_placeSteps (distro : String) (nsenter : Bool) :
    ∀ s ∈ placeSteps distro nsenter, s.Quiet := by
  simp [placeSteps, readySteps, startSteps, kernelSteps, toolSteps, systemdSteps, dockerSteps,
    resolveSteps, stateDirSteps, VirtualDisk.elevationSteps, MountSupervision.nameSteps, Step.Quiet,
    VirtualDisk.powershellProgram]

theorem quiet_teardownSteps (distro : String) (nsenter : Bool) :
    ∀ s ∈ MountSupervision.teardownSteps (.wslRoot distro nsenter), s.Quiet := by
  simp [MountSupervision.teardownSteps, Step.Quiet]

theorem quiet_equipSteps (distro : String) (root : Target) :
    ∀ s ∈ equipSteps (.wsl distro) root, s.Quiet := by
  simp [equipSteps, diskSteps, listSteps, fileSteps, setUpSteps, linkSteps, VirtualDisk.createSteps,
    VirtualDisk.attachSteps, Filesystem.ensureSteps, Filesystem.detectSteps,
    Filesystem.formatSteps, Filesystem.verifySteps, Filesystem.probeMountSteps,
    Filesystem.mountPointSteps, MountSupervision.installSteps, MountSupervision.activateSteps,
    StoreContent.subvolumeSteps, StoreContent.giveSteps, StoreContent.ownerSteps, Step.Quiet,
    VirtualDisk.powershellProgram, wslProgram]

theorem quiet_chooseSteps : ∀ s ∈ chooseSteps, s.Quiet := by
  simp [chooseSteps, Step.Quiet, wslProgram]

/-- A run that has released the store and gone on to its disk file. -/
theorem removed_reinitRun {request : StoreRequest} {storeRoot : Option Path} {distro : String}
    {pre h post : History} {place : Place} (d₁ d₂ : Except Failure String)
    (x : Except FileFault Unit) (r : Except Failure StoreOutcome)
    (hpre : ∀ e ∈ pre, e.query.Quiet) (hfound : place.FoundIn request storeRoot distro pre)
    (hrelease : ReleaseRun place.root place.stateDir h (.ok ()))
    (hpost : ∀ e ∈ post, e.query.Quiet) :
    ReinitRun (Planned request storeRoot) request.require
      (pre ++ h ++ [(detachDisk place.disk).event d₁, (dismountDisk place.disk).event d₂]
        ++ ⟨.removeFile place.disk, x⟩ :: post) r := by
  have hplanned : Planned request storeRoot pre
      ⟨place.root, place.stateDir,
        [.run (detachDisk place.disk), .run (dismountDisk place.disk)],
        .removeFile place.disk⟩ := by
    obtain ⟨nsenter, output, hroot, hdisk, hasked, hdir⟩ := hfound
    exact ⟨distro, nsenter, output, place.disk, hdisk, hasked, by rw [hroot, hdir]⟩
  refine .removed hpre hrelease hplanned rfl rfl ?_ ?_ hpost
  · simp [Query.UnmountsStore]
  · simp [Query.Quiet, Query.RemovesFile, Query.UnmountsStore, detachDisk, dismountDisk,
      unmountStore, wslProgram, VirtualDisk.powershellProgram]

theorem runStages_reinitRun {request : StoreRequest} {storeRoot : Option Path} {distro : String}
    {o o' : StoreOutcome} {h₀ h : History} {r : Except Failure Unit}
    (hquiet : ∀ e ∈ h₀, e.query.Quiet)
    (hl : ((runStages request storeRoot distro).runFrom o).Leads h (r, o')) :
    ReinitRun (Planned request storeRoot) request.require (h₀ ++ h)
      (conclude request.require (.ok (r, o'))) := by
  -- Whatever comes before and after a teardown is quiet.
  have hfindPlace : ∀ {h p}, ((findPlace request storeRoot distro).runFrom o).Leads h p →
      ∀ e ∈ h, e.query.Quiet := fun hl =>
    (asks_findPlace request storeRoot distro o
      fun nsenter _ hq => hq.quiet (quiet_placeSteps distro nsenter)).of_mem hl
  have hequip : ∀ {place o h p}, ((equip request (.wsl distro) place).runFrom o).Leads h p →
      ∀ e ∈ h, e.query.Quiet := fun hl =>
    ((asks_equip request _ _ _).within.mono fun _ hq =>
      hq.quiet (quiet_equipSteps distro _)).of_mem hl
  rw [runStages_eq] at hl
  rcases Stages.leads_bind.mp hl with ⟨e, hplace, rfl⟩ | ⟨h₁, place, o₁, h₂, hplace, hrest, rfl⟩
  · exact .unreached (List.forall_mem_append.mpr ⟨hquiet, hfindPlace hplace⟩)
  have hpre : ∀ e ∈ h₀ ++ h₁, e.query.Quiet :=
    List.forall_mem_append.mpr ⟨hquiet, hfindPlace hplace⟩
  have hfound := findPlace_foundIn hplace
  rw [← List.append_assoc]
  cases hreinit : request.reinit with
  | false =>
    simp only [hreinit] at hrest
    exact .unreached (List.forall_mem_append.mpr ⟨hpre, hequip hrest⟩)
  | true =>
    simp only [hreinit, if_true] at hrest
    have hunit : ∀ {t}, (∀ e ∈ t, e.query.Within (MountSupervision.teardownSteps place.root)) →
        ∀ e ∈ h₀ ++ h₁ ++ t, e.query.Quiet := by
      intro t hwithin
      obtain ⟨nsenter, output, hroot, -⟩ := hfound
      refine List.forall_mem_append.mpr ⟨hpre, fun e he => ?_⟩
      exact (hroot ▸ hwithin e he).quiet (quiet_teardownSteps distro nsenter)
    -- A teardown that fails ends the run, before the release or after it.
    rcases Stages.leads_bind.mp hrest with
      ⟨e, hstage, rfl⟩ | ⟨h₃, u, o₂, h₄, hstage, hequipped, rfl⟩
    · obtain ⟨f, hteardown, rfl⟩ := Attempt.leads_inStage_error.mp (Stages.leads_stage.mp hstage).1
      obtain ⟨t, t₁, hwithin, ⟨g, hrelease, rfl, -⟩ | ⟨d₁, d₂, x, hrelease, rfl, -⟩⟩ :=
        teardown_run hteardown
      · rw [← List.append_assoc]
        exact .failed (hunit hwithin) hrelease ⟨f, reported_conclude _ _ _⟩
      · have hrun := removed_reinitRun d₁ d₂ x
          (conclude request.require (.ok (.error (.stage .reinit f), o')))
          (hunit hwithin) (hfound.mono (by simp)) hrelease (List.forall_mem_nil _)
        simpa using hrun
    · have hteardown := Attempt.leads_inStage_ok.mp (Stages.leads_stage.mp hstage).1
      obtain ⟨t, t₁, hwithin, ⟨g, -, -, hg⟩ | ⟨d₁, d₂, x, hrelease, rfl, -⟩⟩ :=
        teardown_run hteardown
      · cases hg
      · have hrun := removed_reinitRun d₁ d₂ x (conclude request.require (.ok (r, o')))
          (hunit hwithin) (hfound.mono (by simp)) hrelease (hequip hequipped)
        simpa using hrun

theorem provision_reinitRun {request : StoreRequest} {storeRoot : Option Path} {h : History}
    {r : Except Failure StoreOutcome} (hl : (provision request storeRoot).outcome.Leads h r) :
    ReinitRun (Planned request storeRoot) request.require h r := by
  rw [outcome_provision] at hl
  obtain ⟨ended, hattempt, rfl⟩ := Action.leads_map.mp hl
  obtain ⟨h₁, chosen, h₂, hchoose, hrest, rfl⟩ := Action.leads_bind.mp hattempt
  have hquiet : ∀ e ∈ h₁, e.query.Quiet :=
    ((asks_chooseDistro request).mono fun _ hq => hq.quiet quiet_chooseSteps).of_mem hchoose
  cases chosen with
  | error reason =>
    obtain ⟨rfl, rfl⟩ := Action.leads_done.mp hrest
    exact .unreached (by simpa using hquiet)
  | ok distro =>
    obtain ⟨p, hstages, rfl⟩ := Action.leads_map.mp hrest
    exact runStages_reinitRun hquiet hstages

end Wsl

/-! ### Both platforms -/

/-- **A reinitialisation never removes the backing file of a mounted store.**
Whatever the host answers, a file is removed only directly after an attempt to
unmount the store and a check that found nothing mounted, and a busy mount or a
check with another answer is the end of the run. -/
theorem reinit_keeps_mounted_stores {σ : Type} (host : Host σ) (s : σ) (request : StoreRequest)
    (storeRoot : Option Path) :
    KeepsMounted (Native.Planned request storeRoot) request.require
        ((Native.provision request storeRoot).outcome.record host s)
        ((Native.provision request storeRoot).outcome.runWith host s).1 ∧
      KeepsMounted (Wsl.Planned request storeRoot) request.require
        ((Wsl.provision request storeRoot).outcome.record host s)
        ((Wsl.provision request storeRoot).outcome.runWith host s).1 :=
  ⟨(Native.provision_reinitRun (Action.leads_record host _ s)).keepsMounted,
    (Wsl.provision_reinitRun (Action.leads_record host _ s)).keepsMounted⟩

end BtrfsStore
