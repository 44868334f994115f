import BtrfsStore.Init
import BtrfsStore.Proofs.Config.Loading
import BtrfsStore.Proofs.Targets
import BtrfsStore.Scripted
/-!
# BtrfsStore.Proofs.Config.Unusable

Initializing a workspace whose config is there but not usable: it cannot be read,
or it does not hold a mapping.

A run looks twice at the config. At first it only asks whether the file exists,
which decides about the options; what the file holds it looks at when the store
is settled. So an unusable config stops a run early if the options do not allow
to change an initialized workspace. Otherwise the store is settled as for any
other config, and the fault is found after that. `Init.UnusableRun` lists these
runs. While the store is settled, a run itself reads and writes no file: what is
written then, such as the unit of the mount or the disk, is written by commands. A run
whose look at the config fails ends there, so that it never writes over what it cannot read.
-/

namespace BtrfsStore

/-! ### On the way to a store -/

/-- What provisioning does to files it does by commands. -/
theorem Platform.provision_not_opensFile {platform : Platform} {request : StoreRequest}
    {storeRoot : Option Path} {h : History} {r : Except Failure StoreOutcome}
    (hl : (platform.provision request storeRoot).outcome.Leads h r) :
    ∀ e ∈ h, ¬e.query.OpensFile := by
  cases platform with
  | windows => exact (Wsl.provision_goesByRules hl).not_opensFile
  | linux => exact fun e he => (Native.provision_keeps hl e he).not_opensFile
  | other name =>
    have hnothing : (unsupported name request).outcome.Asks fun q => ¬q.OpensFile := by
      unfold unsupported
      rw [Attempt.outcome_ite, Action.asks_ite]
      exact ⟨fun _ => trivial, fun _ => trivial⟩
    exact hnothing.of_mem hl

namespace Init

/-- Settles on a backend and a store, on the given platform. -/
def makeStore (o : InitOptions) (platform : Platform) (verbose : Bool) (storeRoot : Option Path) :
    Run InitOutcome :=
  resolve o platform verbose (platform.provision · storeRoot) storeRoot

section

variable {o : InitOptions} {platform : Platform} {verbose : Bool} {storeRoot : Option Path}

theorem asks_plainDirectory {Q : Query → Prop} (hmake : ∀ p, Q (.makeDirectories p)) :
    (plainDirectory o storeRoot).run.Asks Q := by
  unfold plainDirectory
  dsimp only
  generalize (if o.storeKind = .dir then o.storePath else none).or storeRoot = chosen
  cases chosen with
  | none => trivial
  | some dir =>
    refine ⟨hmake dir, fun answer => ?_⟩
    cases answer <;> trivial

/-- Settling on a store opens no file, whether the store is provisioned or a plain
directory. -/
theorem makeStore_not_opensFile {h : History} {r : Except InitFault InitOutcome}
    (hl : (makeStore o platform verbose storeRoot).run.Leads h r) :
    ∀ e ∈ h, ¬e.query.OpensFile := by
  have hplain : ∀ backend result, (do
      let dir ← plainDirectory o storeRoot
      pure (plainOutcome backend dir result) : Run InitOutcome).run.Asks
        fun q => ¬q.OpensFile := by
    intro backend result
    rw [ExceptT.run_bind]
    refine (asks_plainDirectory fun _ => id).bind fun dir => ?_
    cases dir <;> trivial
  unfold makeStore resolve at hl
  cases hplan : planBackend o.snapshot platform with
  | plain backend =>
    rw [hplan] at hl
    exact (hplain backend {}).of_mem hl
  | provision require fallback =>
    rw [hplan] at hl
    dsimp only at hl
    rw [ExceptT.run_bind_lift] at hl
    obtain ⟨h₁, provisioned, h₂, hprovision, hrest, rfl⟩ := Action.leads_bind.mp hl
    refine List.forall_mem_append.mpr ⟨Platform.provision_not_opensFile hprovision, ?_⟩
    cases provisioned with
    | error f =>
      obtain ⟨rfl, -⟩ := Action.leads_done.mp hrest
      exact List.forall_mem_nil _
    | ok result =>
      dsimp only at hrest
      split at hrest
      · obtain ⟨rfl, -⟩ := Action.leads_done.mp hrest
        exact List.forall_mem_nil _
      · exact (hplain fallback result).of_mem hrest

/-! ### The parts of a run -/

/-- A run asks whether there is a config, and goes on with the options in its
hands. -/
theorem settle_run : (settle o platform verbose storeRoot).run =
    .ask (.pathExists (Config.pathIn o.workspace)) fun found =>
      match firstFault o platform found with
      | some fault => .done (.error fault)
      | none => (makeStore o platform verbose storeRoot).run := by
  unfold settle validate
  rw [ExceptT.run_bind_lift]
  refine congrArg (Action.ask (.pathExists _)) (funext fun found => ?_)
  change (ExceptT.mk (Action.done (match firstFault o platform found with
    | some fault => .error fault
    | none => .ok ())) >>= fun _ => makeStore o platform verbose storeRoot).run = _
  cases firstFault o platform found <;> rfl

/-- What a run does once it has settled, or has failed to. -/
def conclude (o : InitOptions) : Except InitFault InitOutcome → Action Shown
  | .error fault => .done { report := .error fault }
  | .ok outcome =>
    (fun report => { report, warnings := InitOutcome.warningText outcome.result }) <$>
      (finish o outcome).run

theorem run_eq : run o platform verbose storeRoot
    = (settle o platform verbose storeRoot).run >>= conclude o := by
  refine congrArg (Action.bind (settle o platform verbose storeRoot).run) (funext fun r => ?_)
  cases r with
  | error fault => rfl
  | ok outcome => exact (map_eq_pure_bind _ _).symm

/-- A step on the config that fails ends a run. -/
theorem onConfig_bind_run {α β : Type} (x : ExceptT ConfigFault Action α) (f : α → Run β) :
    (onConfig x >>= f).run = x.run >>= fun r =>
      match r with
      | .ok a => (f a).run
      | .error fault => .done (.error (.config fault)) := by
  unfold onConfig
  rw [ExceptT.run_bind, ExceptT.run_mk, bind_map_left]
  refine congrArg (Action.bind x.run) (funext fun r => ?_)
  cases r <;> rfl

theorem finish_of_unusable {σ : Type} {host : Host σ} {s : σ} {fault : ConfigFault}
    (outcome : InitOutcome)
    (hload : ((Config.load (Config.pathIn o.workspace)).run.runWith host s).1 = .error fault) :
    (finish o outcome).run.record host s
        = (Config.load (Config.pathIn o.workspace)).run.record host s ∧
      ((finish o outcome).run.runWith host s).1 = .error (.config fault) := by
  unfold finish
  dsimp only
  rw [onConfig_bind_run, Action.record_bind, Action.runWith_bind, hload]
  exact ⟨List.append_nil _, rfl⟩

/-- Options that do not allow to change a workspace have a fault if there is a
config. -/
theorem exists_firstFault (platform : Platform) (hupdate : o.update = false) :
    ∃ fault, firstFault o platform true = some fault := by
  unfold firstFault
  simp only [hupdate]
  split_ifs <;> simp_all

/-- A usable config is there, or none at all; an unusable one has been found. -/
theorem found_of_unusable {σ : Type} {host : Host σ} {s : σ} {path : Path} {fault : ConfigFault}
    (hload : ((Config.load path).run.runWith host s).1 = .error fault) :
    (host.answer (.pathExists path) s).1 = true := by
  rw [Config.load_run, Action.runWith_ask] at hload
  cases hfound : (host.answer (.pathExists path) s).1 with
  | true => rfl
  | false =>
    rw [hfound] at hload
    cases hload

end

/-! ### Runs with an unusable config -/

/-- The options are legal although the workspace is there, so that a run goes on to
settle the store, from the state `s₁` of the host. The run itself reads and writes no file
on the way, not even the config; its commands may. -/
structure GoesOn {σ : Type} (host : Host σ) (s : σ) (o : InitOptions) (platform : Platform)
    (verbose : Bool) (storeRoot : Option Path) (s₁ : σ) : Prop where
  legal : firstFault o platform true = none
  update : o.update = true
  found : host.answer (.pathExists (Config.pathIn o.workspace)) s = (true, s₁)
  opens : ∀ e ∈ (makeStore o platform verbose storeRoot).run.record host s₁, ¬e.query.OpensFile

/-- The runs in a workspace whose config is unusable when they begin: their
histories and what they show. -/
inductive UnusableRun {σ : Type} (host : Host σ) (s : σ) (o : InitOptions) (platform : Platform)
    (verbose : Bool) (storeRoot : Option Path) : History → Shown → Prop
  /-- The options have a fault. The run has only asked whether there is a config. -/
  | options {fault : InitFault} (hfault : firstFault o platform true = some fault) :
      UnusableRun host s o platform verbose storeRoot
        [⟨.pathExists (Config.pathIn o.workspace), true⟩] { report := .error fault }
  /-- The store cannot be settled. What the config holds has not been looked at. -/
  | unsettled {s₁ s₂ : σ} {fault : InitFault}
      (hgoes : GoesOn host s o platform verbose storeRoot s₁)
      (hmake : (makeStore o platform verbose storeRoot).run.runWith host s₁ = (.error fault, s₂)) :
      UnusableRun host s o platform verbose storeRoot
        (⟨.pathExists (Config.pathIn o.workspace), true⟩
          :: (makeStore o platform verbose storeRoot).run.record host s₁)
        { report := .error fault }
  /-- The store is settled, and the config still unusable. The run ends with the
  look at it. -/
  | settled {s₁ s₂ : σ} {outcome : InitOutcome} {fault : ConfigFault}
      (hgoes : GoesOn host s o platform verbose storeRoot s₁)
      (hmake : (makeStore o platform verbose storeRoot).run.runWith host s₁ = (.ok outcome, s₂))
      (hload : ((Config.load (Config.pathIn o.workspace)).run.runWith host s₂).1 = .error fault) :
      UnusableRun host s o platform verbose storeRoot
        (⟨.pathExists (Config.pathIn o.workspace), true⟩
          :: ((makeStore o platform verbose storeRoot).run.record host s₁
            ++ (Config.load (Config.pathIn o.workspace)).run.record host s₂))
        { report := .error (.config fault), warnings := InitOutcome.warningText outcome.result }
  /-- The store is settled, and on the way the config has become usable. -/
  | repaired {s₁ s₂ : σ} {outcome : InitOutcome} {config : Yaml}
      (hgoes : GoesOn host s o platform verbose storeRoot s₁)
      (hmake : (makeStore o platform verbose storeRoot).run.runWith host s₁ = (.ok outcome, s₂))
      (hload : ((Config.load (Config.pathIn o.workspace)).run.runWith host s₂).1 = .ok config) :
      UnusableRun host s o platform verbose storeRoot
        (⟨.pathExists (Config.pathIn o.workspace), true⟩
          :: ((makeStore o platform verbose storeRoot).run.record host s₁
            ++ (finish o outcome).run.record host s₂))
        { report := ((finish o outcome).run.runWith host s₂).1
          warnings := InitOutcome.warningText outcome.result }

/-- **An unusable config.** If the config of a workspace is there and cannot be
used, options that do not allow to change an initialized workspace end the run at
once, and nothing is touched. Options that do have the store settled first, without
a look at what the config holds. Only commands write files then, and the run ends with a
fault, unless the config has become usable in the meantime. -/
theorem unusable_config {σ : Type} (host : Host σ) (s : σ) (o : InitOptions)
    (platform : Platform) (verbose : Bool) (storeRoot : Option Path) {fault : ConfigFault}
    (hunusable :
      ((Config.load (Config.pathIn o.workspace)).run.runWith host s).1 = .error fault) :
    UnusableRun host s o platform verbose storeRoot
      ((run o platform verbose storeRoot).record host s)
      ((run o platform verbose storeRoot).runWith host s).1 := by
  have hfound := found_of_unusable hunusable
  have hanswer : host.answer (.pathExists (Config.pathIn o.workspace)) s
      = (true, (host.answer (.pathExists (Config.pathIn o.workspace)) s).2) :=
    Prod.ext hfound rfl
  generalize (host.answer (.pathExists (Config.pathIn o.workspace)) s).2 = s₁ at hanswer
  rw [run_eq, settle_run, Action.ask_bind, Action.record, Action.runWith_ask, hanswer]
  cases hfault : firstFault o platform true with
  | some fault => exact .options hfault
  | none =>
    -- Without `update` a config that is there would be a fault.
    have hupdate : o.update = true := by
      by_contra hnot
      obtain ⟨f, hf⟩ := exists_firstFault platform (eq_false_of_ne_true hnot)
      rw [hf] at hfault
      cases hfault
    have hgoes : GoesOn host s o platform verbose storeRoot s₁ :=
      ⟨hfault, hupdate, hanswer, makeStore_not_opensFile (Action.leads_record host _ s₁)⟩
    dsimp only
    rw [Action.record_bind, Action.runWith_bind]
    cases hmake : (makeStore o platform verbose storeRoot).run.runWith host s₁ with
    | mk r s₂ =>
    cases r with
    | error f =>
      rw [conclude, Action.record, List.append_nil, Action.runWith_done]
      exact .unsettled hgoes hmake
    | ok outcome =>
      rw [conclude, Action.record_map, Action.runWith_map]
      cases hload : ((Config.load (Config.pathIn o.workspace)).run.runWith host s₂).1 with
      | ok config => exact .repaired hgoes hmake hload
      | error fault' =>
        obtain ⟨hrecord, hreport⟩ := finish_of_unusable outcome hload
        rw [hrecord, hreport]
        exact .settled hgoes hmake hload

/-- A host with a workspace in the current directory and a config in it. -/
def hostWithWorkspace (config : String) : Scripted.State :=
  let workspace := (({} : FileTree).makeDirectories ⟨"./.sqlrs"⟩).1
  { files := (workspace.writeText (Config.pathIn ⟨"."⟩) config).1 }

/-- A change of the workspace to a store in a plain directory. -/
def changeToCopy : InitOptions := { snapshot := .copy, storePath := some ⟨"store"⟩, update := true }

/-- A sequence is no config. -/
theorem load_sequence : ∃ fault, ((Config.load (Config.pathIn ⟨"."⟩)).run.runWith Scripted.host
    (hostWithWorkspace "- a\n")).1 = .error fault := by
  have hnot : ((Config.load (Config.pathIn ⟨"."⟩)).run.runWith Scripted.host
      (hostWithWorkspace "- a\n")).1.isOk = false := by
    decide +kernel
  cases hload : ((Config.load (Config.pathIn ⟨"."⟩)).run.runWith Scripted.host
      (hostWithWorkspace "- a\n")).1 with
  | error fault => exact ⟨fault, rfl⟩
  | ok config =>
    rw [hload] at hnot
    cases hnot

/-- A config that holds a sequence, in a run that may change the workspace. -/
theorem unusable_config_sequence :
    (∃ fault, ((Config.load (Config.pathIn ⟨"."⟩)).run.runWith Scripted.host
        (hostWithWorkspace "- a\n")).1 = .error fault) ∧
      UnusableRun Scripted.host (hostWithWorkspace "- a\n") changeToCopy .linux false none
        ((run changeToCopy .linux false none).record Scripted.host (hostWithWorkspace "- a\n"))
        ((run changeToCopy .linux false none).runWith Scripted.host
          (hostWithWorkspace "- a\n")).1 := by
  obtain ⟨fault, hload⟩ := load_sequence
  exact ⟨⟨fault, hload⟩, unusable_config _ _ changeToCopy _ _ _ hload⟩

/-- The directory of the store is created before the config is found to be
unusable. -/
theorem unusable_config_found_late :
    (∃ fault, ((Config.load (Config.pathIn ⟨"."⟩)).run.runWith Scripted.host
        (hostWithWorkspace "- a\n")).1 = .error fault) ∧
      ((run changeToCopy .linux false none).runWith Scripted.host
          (hostWithWorkspace "- a\n")).1.report
        = .error (.config (.notAMapping (Config.pathIn ⟨"."⟩))) ∧
      (hostWithWorkspace "- a\n").files.pathExists ⟨"store"⟩ = false ∧
      ((run changeToCopy .linux false none).runWith Scripted.host
          (hostWithWorkspace "- a\n")).2.files.pathExists ⟨"store"⟩ = true :=
  ⟨load_sequence, by decide +kernel, by decide +kernel, by decide +kernel⟩

end Init

end BtrfsStore
