import BtrfsStore.Proofs.History
import BtrfsStore.Wsl.Provision
/-!
# BtrfsStore.Proofs.Stages

The laws of runs that go stage by stage and keep an outcome.

`Stages.runFrom` starts such a run from the outcome so far, which makes an
action of it. A stage asks what its attempt asks and leaves the outcome as it
is; an update of the outcome asks nothing. With the law for sequencing this is
all that a fact about the whole run needs.

`runStages_eq` cuts the run inside a distro into three parts: finding the place
of the store, getting hold of its disk, and setting the store up.
-/

namespace BtrfsStore.Wsl

namespace Stages

variable {α β : Type}

/-- The run of some stages from the outcome so far. -/
def runFrom (x : Stages α) (o : StoreOutcome) : Action (Except Failure α × StoreOutcome) :=
  x.run.run o

/-- What a sequence of stages goes on with when its first part has ended. -/
def andThen (f : α → Stages β) :
    Except Failure α × StoreOutcome → Action (Except Failure β × StoreOutcome)
  | (.ok a, o) => (f a).runFrom o
  | (.error e, o) => .done (.error e, o)

@[simp] theorem runFrom_pure (a : α) (o : StoreOutcome) :
    (pure a : Stages α).runFrom o = .done (.ok a, o) := rfl

@[simp] theorem runFrom_stage (s : Stage) (x : Attempt α) (o : StoreOutcome) :
    (stage s x).runFrom o = (fun r => (r, o)) <$> (x.inStage s).outcome :=
  (map_eq_pure_bind _ _).symm

@[simp] theorem runFrom_step (x : Attempt α) (o : StoreOutcome) :
    (step x).runFrom o = (fun r => (r, o)) <$> x.outcome :=
  (map_eq_pure_bind _ _).symm

@[simp] theorem runFrom_update (f : StoreOutcome → StoreOutcome) (o : StoreOutcome) :
    (update f).runFrom o = .done (.ok (), f o) := rfl

/-- Stages run one after the other, each with the outcome that the one before has left;
after a failure none is run. -/
theorem runFrom_bind (x : Stages α) (f : α → Stages β) (o : StoreOutcome) :
    (x >>= f).runFrom o = x.runFrom o >>= andThen f := by
  refine congrArg (Action.bind (x.runFrom o)) (funext fun p => ?_)
  obtain ⟨_ | a, o'⟩ := p <;> rfl

@[simp] theorem runFrom_discard (x : Stages α) (o : StoreOutcome) :
    (discard x).runFrom o = (fun p => (Except.map (fun _ => ()) p.1, p.2)) <$> x.runFrom o := by
  refine congrArg (Action.bind (x.runFrom o)) (funext fun p => ?_)
  obtain ⟨_ | a, o'⟩ := p <;> rfl

/-! ### Sequences -/

section

variable {x : Stages α} {f : α → Stages β} {o : StoreOutcome}

/-- A sequence of stages either fails in its first part, and asks nothing more,
or runs its second part after it. -/
theorem leads_bind {h : History} {r : Except Failure β} {o' : StoreOutcome} :
    ((x >>= f).runFrom o).Leads h (r, o') ↔
      (∃ e, (x.runFrom o).Leads h (.error e, o') ∧ r = .error e) ∨
      ∃ h₁ a o₁ h₂, (x.runFrom o).Leads h₁ (.ok a, o₁) ∧
        ((f a).runFrom o₁).Leads h₂ (r, o') ∧ h = h₁ ++ h₂ := by
  rw [runFrom_bind, Action.leads_bind]
  constructor
  · intro hruns
    obtain ⟨h₁, ⟨e | a, o₁⟩, h₂, hx, hf, rfl⟩ := hruns
    · obtain ⟨rfl, hp⟩ := Action.leads_done.mp hf
      obtain ⟨rfl, rfl⟩ : r = .error e ∧ o' = o₁ := by simpa using hp
      exact .inl ⟨e, by simpa using hx, rfl⟩
    · exact .inr ⟨h₁, a, o₁, h₂, hx, hf, rfl⟩
  · intro hruns
    rcases hruns with ⟨e, hx, rfl⟩ | ⟨h₁, a, o₁, h₂, hx, hf, rfl⟩
    · exact ⟨h, (.error e, o'), [], hx, .done _, by simp⟩
    · exact ⟨h₁, (.ok a, o₁), h₂, hx, hf, rfl⟩

/-- A sequence of stages succeeds only if both parts do. -/
theorem leads_bind_ok {h : History} {b : β} {o' : StoreOutcome} :
    ((x >>= f).runFrom o).Leads h (.ok b, o') ↔
      ∃ h₁ a o₁ h₂, (x.runFrom o).Leads h₁ (.ok a, o₁) ∧
        ((f a).runFrom o₁).Leads h₂ (.ok b, o') ∧ h = h₁ ++ h₂ := by
  rw [leads_bind]
  constructor
  · intro hruns
    rcases hruns with ⟨e, -, he⟩ | hok
    · cases he
    · exact hok
  · exact .inr

/-- What a sequence of stages asks, its parts ask, whatever outcome they begin with. -/
theorem asks_bind {Q : Query → Prop} (hx : (x.runFrom o).Asks Q)
    (hf : ∀ a o', ((f a).runFrom o').Asks Q) : ((x >>= f).runFrom o).Asks Q := by
  rw [runFrom_bind]
  refine hx.bind fun p => ?_
  obtain ⟨e | a, o'⟩ := p
  · trivial
  · exact hf a o'

/-- The second part of a sequence may rely on the history of a first part that has
succeeded. -/
theorem guarded_bind {P : History → Query → Prop} {h : History}
    (hx : (x.runFrom o).Guarded P h)
    (hf : ∀ h' a o', (x.runFrom o).Leads h' (.ok a, o') →
      ((f a).runFrom o').Guarded P (h ++ h')) :
    ((x >>= f).runFrom o).Guarded P h := by
  rw [runFrom_bind]
  refine hx.bind fun h' p hl => ?_
  obtain ⟨e | a, o'⟩ := p
  · trivial
  · exact hf h' a o' hl

end

/-! ### Single stages -/

section

variable {x : Attempt α} {s : Stage} {o : StoreOutcome}

/-- A step leaves the outcome as it is. -/
theorem leads_step {h : History} {r : Except Failure α} {o' : StoreOutcome} :
    ((step x).runFrom o).Leads h (r, o') ↔ x.outcome.Leads h r ∧ o' = o := by
  rw [runFrom_step, Action.leads_map]
  constructor
  · intro hruns
    obtain ⟨r', hx, hp⟩ := hruns
    obtain ⟨rfl, rfl⟩ : r = r' ∧ o' = o := by simpa using hp
    exact ⟨hx, rfl⟩
  · intro hruns
    obtain ⟨hx, rfl⟩ := hruns
    exact ⟨r, hx, rfl⟩

/-- A step with the name of a stage leaves the outcome as it is. -/
theorem leads_stage {h : History} {r : Except Failure α} {o' : StoreOutcome} :
    ((stage s x).runFrom o).Leads h (r, o') ↔ (x.inStage s).outcome.Leads h r ∧ o' = o :=
  leads_step (x := x.inStage s)

theorem asks_step {Q : Query → Prop} (hx : x.outcome.Asks Q) : ((step x).runFrom o).Asks Q := by
  rw [runFrom_step]
  exact hx.map _

theorem asks_stage {Q : Query → Prop} (hx : x.outcome.Asks Q) :
    ((stage s x).runFrom o).Asks Q :=
  asks_step (Attempt.asks_inStage hx)

theorem guarded_step {P : History → Query → Prop} {h : History} (hx : x.outcome.Guarded P h) :
    ((step x).runFrom o).Guarded P h := by
  rw [runFrom_step]
  exact hx.map _

theorem guarded_stage {P : History → Query → Prop} {h : History} (hx : x.outcome.Guarded P h) :
    ((stage s x).runFrom o).Guarded P h :=
  guarded_step (Attempt.guarded_inStage hx)

theorem asks_update {Q : Query → Prop} (f : StoreOutcome → StoreOutcome) :
    ((update f).runFrom o).Asks Q := trivial

theorem asks_discard {Q : Query → Prop} {y : Stages α} (hy : (y.runFrom o).Asks Q) :
    ((discard y).runFrom o).Asks Q := by
  rw [runFrom_discard]
  exact hy.map _

theorem guarded_discard {P : History → Query → Prop} {h : History} {y : Stages α}
    (hy : (y.runFrom o).Guarded P h) : ((discard y).runFrom o).Guarded P h := by
  rw [runFrom_discard]
  exact hy.map _

end

end Stages

/-! ### The parts of a run -/

/-- Where the store of a run is to be. -/
structure Place where
  /-- The target of the privileged commands. -/
  root : Target
  stateDir : String
  unitName : String
  /-- The disk file behind the store. -/
  disk : Path

/-- The stages that find the place of the store. -/
def findPlace (request : StoreRequest) (storeRoot : Option Path) (distro : String) :
    Stages Place := do
  let nsenter ← prepareDistro request distro
  let root := Target.wslRoot distro nsenter
  let (stateDir, unitName) ← stage .stateDir (resolvePlace distro root)
  update fun o => { o with stateDir := some stateDir }
  let disk ← stage .virtualDisk (Attempt.ofExcept (diskPath request storeRoot))
  pure { root, stateDir, unitName, disk }

/-- The stages that mount the formatted partition of the store and fill it. -/
def setUp (request : StoreRequest) (user : Target) (place : Place) (device : String) :
    Stages Unit := do
  let (link, uuid) ← step (ExceptT.lift (findLink place.root device))
  if link.isNone then
    update (·.warn (linkWarning device))
  let unit : MountUnit :=
    { name := place.unitName, source := link.getD device, mountPoint := place.stateDir }
  stage .mount (mountUnit place.root request.verbose unit)
  discard <| stage .subvolumes (StoreContent.ensureSubvolumes place.root place.stateDir)
  discard <| stage .ownership (StoreContent.giveTo place.root user place.stateDir)
  update fun o =>
    { o with
      useStore := true
      storePath := some place.stateDir
      mountDevice := some device
      mountFsType := some btrfsType
      mountUnit := some place.unitName
      mountDeviceUuid := uuid }

/-- The stages that find the partition of the store, format it if need be and
set the store up. -/
def equip (request : StoreRequest) (user : Target) (place : Place) : Stages Unit := do
  let attached ← step (attachStoreDisk .host user place.disk request.bytes)
  discard <| stage .format
    (Filesystem.ensure place.root attached.partition.path (attached.created || request.reinit))
  setUp request user place attached.partition.path

/-- A run finds a place for the store, clears it on request and equips it. -/
theorem runStages_eq (request : StoreRequest) (storeRoot : Option Path) (distro : String) :
    runStages request storeRoot distro = (do
      let place ← findPlace request storeRoot distro
      if request.reinit then
        stage .reinit (teardown .host place.root place.unitName place.stateDir place.disk)
      equip request (.wsl distro) place) := by
  simp only [runStages, findPlace, equip, setUp, bind_assoc, pure_bind]

/-! ### The place of a store -/

/-- The question for the directory of the store inside a distro. -/
def stateDirQuestion (distro : String) : Command :=
  { target := .wsl distro, description := "resolve state directory", program := "sh"
    args := ["-c", StoreRoot.stateBaseScript], limit := Limit.quick }

/-- The directory of the store, by the answer to the question. -/
def stateDirOf (output : String) : String :=
  Text.dropTrailingSlashes (Text.trim output) ++ "/" ++ StoreRoot.storeSubdir

/-- A state directory that is found is an absolute path in the answer to one question. -/
theorem leads_resolveStateDir {distro dir : String} {h : History}
    (hl : (resolveStateDir (.wsl distro)).outcome.Leads h (.ok dir)) :
    ∃ output, h = [(stateDirQuestion distro).event (.ok output)] ∧ dir = stateDirOf output ∧
      dir.startsWith "/" = true := by
  unfold resolveStateDir at hl
  obtain ⟨h₁, output, h₂, hask, hrest, rfl⟩ := Attempt.leads_bind_ok.mp hl
  obtain rfl := Attempt.leads_runWithin.mp hask
  refine ⟨output, ?_⟩
  rw [Attempt.outcome_ite] at hrest
  split at hrest
  · obtain ⟨-, hf⟩ := Action.leads_done.mp hrest
    cases hf
  next habsolute =>
    obtain ⟨rfl, hdir⟩ := Action.leads_done.mp hrest
    obtain rfl := Except.ok.inj hdir
    refine ⟨rfl, rfl, ?_⟩
    -- What starts with a slash does so with more at its end.
    rw [String.startsWith_string_iff, String.toList_append, String.toList_append, List.append_assoc]
    refine List.prefix_append_of_prefix (String.startsWith_string_iff.mp ?_)
    simpa using habsolute

/-- The place of a store is where the request and the history say. -/
def Place.FoundIn (request : StoreRequest) (storeRoot : Option Path) (distro : String)
    (h : History) (place : Place) : Prop :=
  ∃ nsenter output, place.root = .wslRoot distro nsenter ∧
    diskPath request storeRoot = .ok place.disk ∧
    (stateDirQuestion distro).event (.ok output) ∈ h ∧ place.stateDir = stateDirOf output

/-- The place of a store is read off the answers in the history. -/
theorem findPlace_foundIn {request : StoreRequest} {storeRoot : Option Path} {distro : String}
    {o o' : StoreOutcome} {h : History} {place : Place}
    (hl : ((findPlace request storeRoot distro).runFrom o).Leads h (.ok place, o')) :
    place.FoundIn request storeRoot distro h := by
  unfold findPlace at hl
  obtain ⟨h₁, nsenter, o₁, h₂, -, hrest₁, rfl⟩ := Stages.leads_bind_ok.mp hl
  obtain ⟨h₃, ⟨stateDir, unitName⟩, o₂, h₄, hplace, hrest₂, rfl⟩ :=
    Stages.leads_bind_ok.mp hrest₁
  obtain ⟨h₅, u, o₃, h₆, -, hrest₃, rfl⟩ := Stages.leads_bind_ok.mp hrest₂
  obtain ⟨h₇, disk, o₄, h₈, hdisk, hrest₄, rfl⟩ := Stages.leads_bind_ok.mp hrest₃
  obtain ⟨-, hp⟩ := Action.leads_done.mp hrest₄
  obtain ⟨rfl, -⟩ : place = _ ∧ o' = o₄ := by simpa using hp
  have hresolved := Attempt.leads_inStage_ok.mp (Stages.leads_stage.mp hplace).1
  obtain ⟨h₉, dir, h₁₀, hdir, hname, rfl⟩ := Attempt.leads_bind_ok.mp hresolved
  obtain ⟨h₁₁, name, h₁₂, -, hdone, rfl⟩ := Attempt.leads_bind_ok.mp hname
  obtain ⟨-, hpair⟩ := Action.leads_done.mp hdone
  obtain ⟨rfl, -⟩ : stateDir = dir ∧ unitName = name := by simpa using hpair
  obtain ⟨output, rfl, hstateDir, -⟩ := leads_resolveStateDir hdir
  have hchosen := Attempt.leads_inStage_ok.mp (Stages.leads_stage.mp hdisk).1
  obtain ⟨-, hdiskPath⟩ := Action.leads_done.mp hchosen
  exact ⟨nsenter, output, rfl, hdiskPath.symm, by simp, hstateDir⟩

/-- A place that has been found stays found as the history goes on. -/
theorem Place.FoundIn.mono {request : StoreRequest} {storeRoot : Option Path} {distro : String}
    {h h' : History} {place : Place} (hfound : place.FoundIn request storeRoot distro h)
    (hsub : h ⊆ h') : place.FoundIn request storeRoot distro h' := by
  obtain ⟨nsenter, output, hroot, hdisk, hasked, hdir⟩ := hfound
  exact ⟨nsenter, output, hroot, hdisk, hsub hasked, hdir⟩

end BtrfsStore.Wsl
