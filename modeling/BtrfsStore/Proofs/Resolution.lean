import BtrfsStore.Proofs.Config.Unusable
import BtrfsStore.Proofs.ReportedStore
import BtrfsStore.Proofs.Requirement
/-!
# BtrfsStore.Proofs.Resolution

What initializing a workspace settles on: a backend, the place of the store and
what the config is to say about WSL.

`ResolveRun` lists the ways to an outcome, and `makeStore_run` says that there
are no others. Which of them is open follows from the backend that the user asks
for (`plain_of_planBackend`, `provision_of_planBackend`). A way with a store leans
on the platform: a run that insists on the store ends with one or fails, and a
store has a path (`Platform.hasStore_of_provision`). `Consistent` is read off the list.
-/

namespace BtrfsStore

/-! ### What a platform guarantees -/

/-- Where the two reports of an ended run match, one that had to be about a store, or
that says so, is about a store at a known path. -/
theorem hasStore_of_matches {warns : Failure → String → Prop}
    (report : Bool → Except Failure StoreOutcome)
    (hmatches : Matches warns (report false) (report true))
    {require : Bool} {o : StoreOutcome} (hok : report require = .ok o)
    (hwanted : require = true ∨ o.useStore = true) : o.HasStore := by
  cases hstrict : report true with
  | ok o' =>
    rw [hstrict] at hmatches
    obtain ⟨hstore, hlenient⟩ := hmatches
    have hsame : report require = .ok o' := by
      cases require with
      | true => exact hstrict
      | false => exact hlenient
    obtain rfl := Except.ok.inj (hsame.symm.trans hok)
    exact hstore
  | error f =>
    -- What the run that insists has failed at is a fallback, which has no store.
    rw [hstrict] at hmatches
    obtain ⟨o', hlenient, hfallback, -⟩ := hmatches
    cases require with
    | true =>
      rw [hstrict] at hok
      cases hok
    | false =>
      obtain rfl := Except.ok.inj (hlenient.symm.trans hok)
      have hstore : o'.useStore = true := by simpa using hwanted
      rw [hfallback.useStore] at hstore
      cases hstore

/-- A run that insists on the store, or that reports one, ends with a store at a
known path. -/
theorem Platform.hasStore_of_provision {platform : Platform} {request : StoreRequest}
    {storeRoot : Option Path} {h : History} {o : StoreOutcome}
    (hl : (platform.provision request storeRoot).outcome.Leads h (.ok o))
    (hwanted : request.require = true ∨ o.useStore = true) : o.HasStore := by
  cases platform with
  | windows =>
    obtain ⟨ended, hattempt, hok⟩ := Action.leads_map.mp (Wsl.outcome_provision _ _ ▸ hl)
    exact hasStore_of_matches (Wsl.conclude · ended) (Wsl.matches_conclude hattempt) hok.symm
      hwanted
  | linux =>
    obtain ⟨ended, hprepared, hok⟩ := Action.leads_map.mp (Native.outcome_provision _ _ ▸ hl)
    exact hasStore_of_matches (Native.conclude · ended) (Native.matches_conclude hprepared)
      hok.symm hwanted
  | other name =>
    have hunsupported : ∀ text, (if request.require then throw (.operation text)
        else pure (.fallback text) : Attempt StoreOutcome).outcome
          = .done (if request.require then .error (.operation text) else .ok (.fallback text)) := by
      intro text
      rw [Attempt.outcome_ite]
      split <;> rfl
    obtain ⟨-, hok⟩ := Action.leads_done.mp (hunsupported _ ▸ hl)
    exact hasStore_of_matches (fun require => if require then _ else _) (matches_unsupported name)
      hok.symm hwanted

namespace Init

/-! ### What is asked for -/

section

variable {snapshot backend fallback : SnapshotBackend} {platform : Platform} {require : Bool}

theorem plain_of_planBackend (hplan : planBackend snapshot platform = .plain backend) :
    snapshot = backend ∧ (snapshot = .overlay ∨ snapshot = .copy) := by
  cases snapshot with
  | overlay => exact ⟨BackendPlan.plain.inj hplan, .inl rfl⟩
  | copy => exact ⟨BackendPlan.plain.inj hplan, .inr rfl⟩
  | auto => cases hplan
  | btrfs => cases hplan

theorem provision_of_planBackend
    (hplan : planBackend snapshot platform = .provision require fallback) :
    (require = true ∧ snapshot = .btrfs ∨ require = false ∧ snapshot = .auto) ∧
      fallback = fallbackBackend platform := by
  cases snapshot with
  | btrfs =>
    obtain ⟨rfl, rfl⟩ := BackendPlan.provision.inj hplan
    exact ⟨.inl ⟨rfl, rfl⟩, rfl⟩
  | auto =>
    obtain ⟨rfl, rfl⟩ := BackendPlan.provision.inj hplan
    exact ⟨.inr ⟨rfl, rfl⟩, rfl⟩
  | overlay => cases hplan
  | copy => cases hplan

end

/-- The backend of a platform without a store goes without one. -/
theorem fallbackBackend_cases (platform : Platform) :
    platform = .linux ∧ fallbackBackend platform = .overlay ∨ fallbackBackend platform = .copy := by
  cases platform with
  | linux => exact .inl ⟨rfl, rfl⟩
  | windows => exact .inr rfl
  | other name => exact .inr rfl

theorem firstFault_of_validate {o : InitOptions} {platform : Platform} {configExists : Bool}
    (hlegal : validate o platform configExists = .ok ()) :
    firstFault o platform configExists = none := by
  unfold validate at hlegal
  split at hlegal
  · cases hlegal
  · assumption

/-- Legal options ask for overlay on Linux only. -/
theorem linux_of_legal {o : InitOptions} {platform : Platform} {configExists : Bool}
    (hlegal : firstFault o platform configExists = none) (hoverlay : o.snapshot = .overlay) :
    platform = .linux := by
  by_contra hother
  unfold firstFault at hlegal
  split_ifs at hlegal
  simp_all

/-! ### The ways to an outcome -/

/-- The runs that create a plain directory. -/
inductive PlainRun : History → Except InitFault Path → Prop
  | nowhere : PlainRun [] (.error .noStoreDirectory)
  | created {dir : Path} : PlainRun [⟨.makeDirectories dir, .ok ()⟩] (.ok dir)
  | notCreated {dir : Path} {fault : FileFault} :
      PlainRun [⟨.makeDirectories dir, .error fault⟩] (.error (.storeDirectoryNotCreated dir fault))

/-- How WSL comes to hold a store, on a platform that has one. -/
def wslModeOf (platform : Platform) (require : Bool) : Option WslMode :=
  if platform = .windows then some (if require then .required else .auto) else none

/-- The runs that settle on a backend and a store. -/
inductive ResolveRun (o : InitOptions) (platform : Platform) :
    History → Except InitFault InitOutcome → Prop
  /-- The user asks for a backend that goes without a store. -/
  | plain {backend : SnapshotBackend} {h : History} {r : Except InitFault Path}
      (hplan : planBackend o.snapshot platform = .plain backend) (hdir : PlainRun h r) :
      ResolveRun o platform h (r.map fun dir => plainOutcome backend dir {})
  /-- The platform fails to make the store. -/
  | failed {h : History} {f : Failure} : ResolveRun o platform h (.error (.provisioning f))
  /-- The platform falls back, as it may. -/
  | fellBack {fallback : SnapshotBackend} {result : StoreOutcome} {h h' : History}
      {r : Except InitFault Path}
      (hplan : planBackend o.snapshot platform = .provision false fallback)
      (hresult : result.useStore = false) (hdir : PlainRun h' r) :
      ResolveRun o platform (h ++ h') (r.map fun dir => plainOutcome fallback dir result)
  /-- The platform has the store ready. -/
  | stored {require : Bool} {fallback : SnapshotBackend} {result : StoreOutcome} {path : String}
      {h : History} (hplan : planBackend o.snapshot platform = .provision require fallback)
      (hresult : result.useStore = true) (hpath : result.storePath = some path) :
      ResolveRun o platform h
        (.ok
          { backend := .btrfs, storePath := path, wslMode := wslModeOf platform require, result })

section

variable {o : InitOptions} {platform : Platform} {verbose : Bool} {storeRoot : Option Path}
  {h : History}

theorem plainDirectory_run {r : Except InitFault Path}
    (hl : (plainDirectory o storeRoot).run.Leads h r) : PlainRun h r := by
  unfold plainDirectory at hl
  dsimp only at hl
  generalize (if o.storeKind = .dir then o.storePath else none).or storeRoot = chosen at hl
  cases chosen with
  | none =>
    obtain ⟨rfl, rfl⟩ := Action.leads_done.mp hl
    exact .nowhere
  | some dir =>
    obtain ⟨answer, h₂, rfl, hrest⟩ := Action.leads_ask.mp hl
    cases answer with
    | ok u =>
      obtain ⟨rfl, rfl⟩ := Action.leads_done.mp hrest
      exact .created
    | error fault =>
      obtain ⟨rfl, rfl⟩ := Action.leads_done.mp hrest
      exact .notCreated

theorem plainDirectory_bind_run {backend : SnapshotBackend} {result : StoreOutcome}
    {r : Except InitFault InitOutcome}
    (hl : (do
      let dir ← plainDirectory o storeRoot
      pure (plainOutcome backend dir result) : Run InitOutcome).run.Leads h r) :
    ∃ dir, PlainRun h dir ∧ r = dir.map fun dir => plainOutcome backend dir result := by
  rw [bind_pure_comp, ExceptT.run_map, Action.leads_map] at hl
  obtain ⟨dir, hdir, rfl⟩ := hl
  exact ⟨dir, plainDirectory_run hdir, rfl⟩

/-- Every run settles in one of these ways. -/
theorem makeStore_run {r : Except InitFault InitOutcome}
    (hl : (makeStore o platform verbose storeRoot).run.Leads h r) : ResolveRun o platform h r := by
  unfold makeStore resolve at hl
  cases hplan : planBackend o.snapshot platform with
  | plain backend =>
    rw [hplan] at hl
    obtain ⟨dir, hdir, rfl⟩ := plainDirectory_bind_run hl
    exact .plain hplan hdir
  | provision require fallback =>
    rw [hplan] at hl
    dsimp only at hl
    rw [ExceptT.run_bind_lift] at hl
    obtain ⟨h₁, provisioned, h₂, hprovision, hrest, rfl⟩ := Action.leads_bind.mp hl
    cases provisioned with
    | error f =>
      obtain ⟨rfl, rfl⟩ := Action.leads_done.mp hrest
      exact .failed
    | ok result =>
      have hhas := Platform.hasStore_of_provision hprovision
      cases hstore : result.useStore with
      | true =>
        obtain ⟨path, hpath⟩ := Option.isSome_iff_exists.mp (hhas (.inr hstore)).2
        simp only [hstore, if_true] at hrest
        obtain ⟨rfl, rfl⟩ := Action.leads_done.mp hrest
        rw [List.append_nil, storeOutcome, hpath]
        exact .stored hplan hstore hpath
      | false =>
        -- A run that requires a store would not have ended without one.
        have hlenient : require = false := by
          cases require with
          | false => rfl
          | true =>
            rw [(hhas (.inl rfl)).1] at hstore
            cases hstore
        subst hlenient
        simp only [hstore, Bool.false_eq_true, if_false] at hrest
        obtain ⟨dir, hdir, rfl⟩ := plainDirectory_bind_run hrest
        exact .fellBack hplan hstore hdir

/-! ### Consistent outcomes -/

/-- The parts of an outcome agree with each other, with the platform and with what
the user asks for. -/
structure Consistent (o : InitOptions) (platform : Platform) (h : History)
    (outcome : InitOutcome) : Prop where
  backend_ne_auto : outcome.backend ≠ .auto
  storePath : outcome.result.storePath = some outcome.storePath
  btrfs_iff : outcome.backend = .btrfs ↔ outcome.result.useStore = true
  /-- There is no silent way down from btrfs. -/
  btrfs_of_asked : o.snapshot = .btrfs → outcome.backend = .btrfs
  /-- A backend that goes without a store is taken as it is asked for, and no
  command is run. -/
  plain_of_asked : o.snapshot = .overlay ∨ o.snapshot = .copy →
    outcome.backend = o.snapshot ∧ ∀ e ∈ h, ∀ c, e.query ≠ .run c
  linux_of_overlay : outcome.backend = .overlay → platform = .linux
  wslMode_isSome : outcome.wslMode.isSome = true ↔
    platform = .windows ∧ outcome.result.useStore = true
  wslMode_required : ∀ mode ∈ outcome.wslMode, mode = .required ↔ o.snapshot = .btrfs

theorem ResolveRun.ne_storeWithoutPath {r : Except InitFault InitOutcome}
    (hr : ResolveRun o platform h r) : r ≠ .error .storeWithoutPath := by
  have hplain : ∀ {h r} {f : Path → InitOutcome}, PlainRun h r →
      r.map f ≠ .error .storeWithoutPath := by
    intro h r f hdir
    cases hdir <;> simp [Except.map]
  cases hr with
  | plain _ hdir => exact hplain hdir
  | fellBack _ _ hdir => exact hplain hdir
  | failed => simp
  | stored => simp

/-- A plain directory makes a consistent outcome of a backend that goes without a
store. -/
theorem consistent_plainOutcome {backend : SnapshotBackend} {dir : Path} {result : StoreOutcome}
    (hbackend : platform = .linux ∧ backend = .overlay ∨ backend = .copy)
    (hresult : result.useStore = false) (hbtrfs : o.snapshot ≠ .btrfs)
    (hplain : o.snapshot = .overlay ∨ o.snapshot = .copy →
      backend = o.snapshot ∧ ∀ e ∈ h, ∀ c, e.query ≠ .run c) :
    Consistent o platform h (plainOutcome backend dir result) where
  backend_ne_auto := by rcases hbackend with ⟨-, rfl⟩ | rfl <;> simp [plainOutcome]
  storePath := rfl
  btrfs_iff := by rcases hbackend with ⟨-, rfl⟩ | rfl <;> simp [plainOutcome, hresult]
  btrfs_of_asked hasked := absurd hasked hbtrfs
  plain_of_asked := hplain
  linux_of_overlay hoverlay := by
    rcases hbackend with ⟨hlinux, -⟩ | rfl
    · exact hlinux
    · cases hoverlay
  wslMode_isSome := by simp [plainOutcome, hresult]
  wslMode_required := by simp [plainOutcome]

theorem wslModeOf_isSome {require : Bool} :
    (wslModeOf platform require).isSome = true ↔ platform = .windows := by
  unfold wslModeOf
  split <;> simp [*]

theorem required_of_mem_wslModeOf {require : Bool} {mode : WslMode}
    (hmode : mode ∈ wslModeOf platform require) : mode = .required ↔ require = true := by
  unfold wslModeOf at hmode
  split at hmode
  · obtain rfl := Option.some.inj hmode
    cases require <;> simp
  · cases hmode

theorem ResolveRun.consistent {outcome : InitOutcome} {configExists : Bool}
    (hr : ResolveRun o platform h (.ok outcome))
    (hlegal : firstFault o platform configExists = none) : Consistent o platform h outcome := by
  generalize hok : (.ok outcome : Except InitFault InitOutcome) = r at hr
  -- A plain backend was asked for, or is what a failed run falls back to; else there is a store.
  cases hr with
  | failed => cases hok
  | @plain backend h r hplan hdir =>
    obtain ⟨rfl, hasked⟩ := plain_of_planBackend hplan
    cases hdir with
    | nowhere => cases hok
    | notCreated => cases hok
    | created =>
      obtain rfl := Except.ok.inj hok
      refine consistent_plainOutcome ?_ rfl ?_ fun _ => ⟨rfl, by simp⟩
      · exact hasked.imp_left fun hoverlay => ⟨linux_of_legal hlegal hoverlay, hoverlay⟩
      · rcases hasked with hoverlay | hcopy <;> simp [*]
  | @fellBack fallback result h h' r hplan hresult hdir =>
    obtain ⟨hasked, rfl⟩ := provision_of_planBackend hplan
    have hauto : o.snapshot = .auto := by simpa using hasked
    cases hdir with
    | nowhere => cases hok
    | notCreated => cases hok
    | created =>
      obtain rfl := Except.ok.inj hok
      refine consistent_plainOutcome (fallbackBackend_cases platform) hresult ?_ ?_
      · simp [hauto]
      · simp [hauto]
  | @stored require fallback result path h hplan hresult hpath =>
    obtain ⟨hasked, -⟩ := provision_of_planBackend hplan
    obtain rfl := Except.ok.inj hok
    have hrequire : require = true ↔ o.snapshot = .btrfs := by
      rcases hasked with ⟨rfl, hbtrfs⟩ | ⟨rfl, hauto⟩ <;> simp [*]
    exact
      { backend_ne_auto := by simp
        storePath := hpath
        btrfs_iff := by simp [hresult]
        btrfs_of_asked := fun _ => rfl
        plain_of_asked := by rcases hasked with ⟨-, hbtrfs⟩ | ⟨-, hauto⟩ <;> simp [*]
        linux_of_overlay := by simp
        wslMode_isSome := by simp [wslModeOf_isSome, hresult]
        wslMode_required := fun _ hmode => (required_of_mem_wslModeOf hmode).trans hrequire }

end

/-- **A settled backend is consistent.** For legal options the outcome names the
backend and the store that the platform has made ready, or the plain ones that
take their place. A store without a path is never reported. -/
theorem settled_backend_is_consistent {σ : Type} (host : Host σ) (s : σ) (o : InitOptions)
    (platform : Platform) (configExists verbose : Bool) (storeRoot : Option Path)
    (hlegal : validate o platform configExists = .ok ()) :
    ((makeStore o platform verbose storeRoot).run.runWith host s).1 ≠ .error .storeWithoutPath ∧
      ∀ outcome, ((makeStore o platform verbose storeRoot).run.runWith host s).1 = .ok outcome →
        Consistent o platform ((makeStore o platform verbose storeRoot).run.record host s)
          outcome := by
  have hr := makeStore_run (Action.leads_record host (makeStore o platform verbose storeRoot).run s)
  refine ⟨hr.ne_storeWithoutPath, fun outcome hok => ?_⟩
  rw [hok] at hr
  exact hr.consistent (firstFault_of_validate hlegal)

/-- btrfs that is asked for on Windows requires a store in WSL. -/
theorem settled_backend_is_consistent_on_windows :
    validate { snapshot := .btrfs } .windows false = .ok () ∧
      ∃ outcome,
        ((makeStore { snapshot := .btrfs } .windows false (some ⟨"C:"⟩)).run.runWith Scripted.host
            Wsl.hostWithoutUuid).1 = .ok outcome ∧
          outcome.wslMode = some .required ∧
          Consistent { snapshot := .btrfs } .windows
            ((makeStore { snapshot := .btrfs } .windows false (some ⟨"C:"⟩)).run.record
              Scripted.host Wsl.hostWithoutUuid) outcome := by
  have hsettled : ((makeStore { snapshot := .btrfs } .windows false (some ⟨"C:"⟩)).run.runWith
      Scripted.host Wsl.hostWithoutUuid).1.toOption.any
        (fun outcome => outcome.wslMode == some .required) = true := by
    decide +kernel
  obtain ⟨outcome, hok, hmode⟩ := exists_ok_of_any hsettled
  exact ⟨rfl, outcome, hok, beq_iff_eq.mp hmode, (settled_backend_is_consistent Scripted.host
    Wsl.hostWithoutUuid { snapshot := .btrfs } .windows false false _ rfl).2 outcome hok⟩

end Init

end BtrfsStore
