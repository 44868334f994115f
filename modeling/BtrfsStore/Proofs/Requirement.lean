import BtrfsStore.Proofs.Conclusion
import BtrfsStore.Proofs.Steps.Native
/-!
# BtrfsStore.Proofs.Requirement

**Insisting on a store changes only the report.** Two runs for one request, one
that insists on the store and one that does not, are the same run up to the
report (`Native.outcome_provision`, `Wsl.outcome_provision`), so they ask the
same questions and leave the host in the same state. What is left to prove is
how the two reports of one end match (`Matches`), and that a run only succeeds
with a store (`prepare_ok`, `runStages_ok`).

On a platform without a way to a store the warning is the bare text of the
failure, without the words in front of it; see `Platform.Warns` and
`unsupported_warning_is_bare`.
-/

namespace BtrfsStore

/-! ### What a success guarantees -/

/-- A store is mounted and ready at a known path. -/
def StoreOutcome.HasStore (o : StoreOutcome) : Prop :=
  o.useStore = true ∧ o.storePath.isSome = true

/-- A warning leaves a store as it is. -/
theorem StoreOutcome.HasStore.warn {o : StoreOutcome} (h : o.HasStore) (message : String) :
    (o.warn message).HasStore := by
  simpa only [HasStore, StoreOutcome.warn] using h

/-- If the attempt succeeds, its value satisfies `P`. -/
def Attempt.Ensures {α : Type} (P : α → Prop) (x : Attempt α) : Prop :=
  ∀ h a, x.outcome.Leads h (.ok a) → P a

namespace Attempt

variable {α β : Type} {P : β → Prop}

theorem ensures_pure {b : β} (hb : P b) : Ensures P (pure b : Attempt β) := by
  intro h a hl
  obtain ⟨-, ha⟩ := Action.leads_done.mp hl
  cases ha
  exact hb

theorem ensures_throw (f : Failure) : Ensures P (throw f : Attempt β) := by
  intro h a hl
  obtain ⟨-, ha⟩ := Action.leads_done.mp hl
  cases ha

/-- The last part of a sequence decides. -/
theorem ensures_bind {x : Attempt α} {f : α → Attempt β} (hf : ∀ a, Ensures P (f a)) :
    Ensures P (x >>= f) := by
  intro h b hl
  obtain ⟨h₁, a, h₂, -, hrest, -⟩ := leads_bind_ok.mp hl
  exact hf a h₂ b hrest

end Attempt

namespace Native

/-- A directory that has been taken is a store. -/
theorem takeDirectory_ok (dir : Path) : (takeDirectory dir).Ensures StoreOutcome.HasStore := by
  unfold takeDirectory
  refine Attempt.ensures_bind fun there => ?_
  cases there with
  | true => exact Attempt.ensures_pure ⟨rfl, rfl⟩
  | false => exact Attempt.ensures_bind fun _ => Attempt.ensures_pure ⟨rfl, rfl⟩

/-- A mount that has been finished is a store. -/
theorem finish_ok (plan : StorePlan) (backing : Path) :
    (finish plan backing).Ensures StoreOutcome.HasStore := by
  unfold finish
  exact Attempt.ensures_bind fun _ => Attempt.ensures_bind fun _ =>
    Attempt.ensures_pure ⟨rfl, rfl⟩

theorem mountStore_ok (request : StoreRequest) (plan : StorePlan) :
    (mountStore request plan).Ensures StoreOutcome.HasStore := by
  rw [mountStore_eq]
  refine Attempt.ensures_bind fun _ => ?_
  cases plan.backing with
  | none => exact Attempt.ensures_throw _
  | some backing =>
    exact Attempt.ensures_bind fun created => Attempt.ensures_bind fun _ => finish_ok plan backing

/-- A run that succeeds has a store. -/
theorem prepare_ok (request : StoreRequest) (storeRoot : Option Path) :
    (prepare request storeRoot).Ensures StoreOutcome.HasStore := by
  have hequip : ∀ plan, (equip request plan).Ensures StoreOutcome.HasStore := by
    intro plan
    refine Attempt.ensures_bind fun onBtrfs => ?_
    cases onBtrfs with
    | true => exact takeDirectory_ok _
    | false => exact mountStore_ok _ _
  rw [prepare_eq]
  refine Attempt.ensures_bind fun plan => ?_
  cases request.reinit with
  | true => exact Attempt.ensures_bind fun _ => hequip plan
  | false => exact hequip plan

end Native

namespace Wsl

/-- If the stages succeed, they leave an outcome that satisfies `P`. -/
def Stages.Ensures (P : StoreOutcome → Prop) (x : Stages Unit) : Prop :=
  ∀ o h o', (x.runFrom o).Leads h (.ok (), o') → P o'

/-- The last part of a sequence decides about the outcome. -/
theorem Stages.ensures_bind {α : Type} {P : StoreOutcome → Prop} {x : Stages α}
    {f : α → Stages Unit} (hf : ∀ a, (f a).Ensures P) : (x >>= f).Ensures P := by
  intro o h o' hl
  obtain ⟨h₁, a, o₁, h₂, -, hrest, -⟩ := Stages.leads_bind_ok.mp hl
  exact hf a o₁ h₂ o' hrest

theorem setUp_ok (request : StoreRequest) (user : Target) (place : Place) (device : String) :
    (setUp request user place device).Ensures StoreOutcome.HasStore := by
  unfold setUp
  refine Stages.ensures_bind fun found => ?_
  obtain ⟨link, uuid⟩ := found
  dsimp -zeta only
  extract_lets unit afterWarning
  have hafterWarning : ∀ u, (afterWarning u).Ensures StoreOutcome.HasStore := by
    intro u
    refine Stages.ensures_bind fun _ => Stages.ensures_bind fun _ => Stages.ensures_bind fun _ => ?_
    intro o h o' hl
    obtain ⟨-, hp⟩ := Action.leads_done.mp hl
    cases hp
    exact ⟨rfl, rfl⟩
  cases link with
  | none => exact Stages.ensures_bind hafterWarning
  | some path => exact hafterWarning ()

/-- A run in WSL that succeeds has a store. -/
theorem runStages_ok (request : StoreRequest) (storeRoot : Option Path) (distro : String) :
    (runStages request storeRoot distro).Ensures StoreOutcome.HasStore := by
  have hequip : ∀ place, (equip request (.wsl distro) place).Ensures StoreOutcome.HasStore :=
    fun place => Stages.ensures_bind fun _ => Stages.ensures_bind fun _ => setUp_ok _ _ _ _
  rw [runStages_eq]
  refine Stages.ensures_bind fun place => ?_
  cases request.reinit with
  | true => exact Stages.ensures_bind fun _ => hequip place
  | false => exact hequip place

end Wsl

/-! ### Two reports of one end -/

/-- What a run that does not insist makes of the result of the same run that
does: a success is the same, and a failure is a fallback with a warning. -/
def Matches (warns : Failure → String → Prop) (lenient : Except Failure StoreOutcome) :
    Except Failure StoreOutcome → Prop
  | .ok o => o.HasStore ∧ lenient = .ok o
  | .error f => ∃ o : StoreOutcome, lenient = .ok o ∧ o.IsFallback ∧ warns f o.warning

/-- A failure that ends one run and is reported by the other makes them match. -/
theorem matches_of_reported {f : Failure} {strict lenient : Except Failure StoreOutcome}
    (hstrict : Reported true f strict) (hlenient : Reported false f lenient) :
    Matches (fun f => Recorded f.message) lenient strict := by
  obtain rfl : strict = .error f := hstrict
  exact hlenient

theorem Native.matches_conclude {request : StoreRequest} {storeRoot : Option Path} {h : History}
    {r : Except Failure StoreOutcome} (hl : (prepare request storeRoot).outcome.Leads h r) :
    Matches (fun f => Recorded f.message) (conclude false r) (conclude true r) := by
  cases r with
  | error f => exact matches_of_reported (reported_conclude true f) (reported_conclude false f)
  | ok o => exact ⟨prepare_ok request storeRoot h o hl, rfl⟩

theorem Wsl.matches_conclude {request : StoreRequest} {storeRoot : Option Path} {h : History}
    {r : Ended} (hl : (attempt request storeRoot).Leads h r) :
    Matches (fun f => Recorded f.message) (conclude false r) (conclude true r) := by
  obtain ⟨h₁, chosen, h₂, -, hrest, rfl⟩ := Action.leads_bind.mp hl
  cases chosen with
  | error reason =>
    obtain ⟨rfl, rfl⟩ := Action.leads_done.mp hrest
    exact matches_of_reported (reported_unavailable true _) (reported_unavailable false _)
  | ok distro =>
    obtain ⟨⟨f | u, o⟩, hstages, rfl⟩ := Action.leads_map.mp hrest
    · exact matches_of_reported (reported_conclude true f o) (reported_conclude false f o)
    · have hstore : o.HasStore := runStages_ok _ _ _ _ _ _ hstages
      exact ⟨hstore.warn shutdownHint, rfl⟩

/-- Two runs on one host that ask the same, leave the host in the same state,
and differ only in what they report. -/
structure DifferInReport {σ : Type} (host : Host σ) (s : σ) (warns : Failure → String → Prop)
    (strict lenient : Attempt StoreOutcome) : Prop where
  record : strict.outcome.record host s = lenient.outcome.record host s
  state : (strict.outcome.runWith host s).2 = (lenient.outcome.runWith host s).2
  result : Matches warns (lenient.outcome.runWith host s).1 (strict.outcome.runWith host s).1

/-- Two reports of one run differ in the report. -/
theorem differInReport_of_map {σ ε : Type} {host : Host σ} {s : σ}
    {warns : Failure → String → Prop} {strict lenient : Attempt StoreOutcome} {x : Action ε}
    {conclude : Bool → ε → Except Failure StoreOutcome}
    (hstrict : strict.outcome = conclude true <$> x)
    (hlenient : lenient.outcome = conclude false <$> x)
    (hmatches : ∀ h e, x.Leads h e → Matches warns (conclude false e) (conclude true e)) :
    DifferInReport host s warns strict lenient where
  record := by rw [hstrict, hlenient, Action.record_map, Action.record_map]
  state := by rw [hstrict, hlenient, Action.runWith_map, Action.runWith_map]
  result := by
    rw [hstrict, hlenient, Action.runWith_map, Action.runWith_map]
    exact hmatches _ _ (Action.leads_record host x s)

/-! ### All platforms -/

namespace Platform

/-- What stands in the warnings of a fallback for a failure. Where there is a
way to a store it is the message of the failure, elsewhere only its text. -/
def Warns : Platform → Failure → String → Prop
  | .other _, f, warnings => ∃ text, f = .operation text ∧ Recorded text warnings
  | _, f, warnings => Recorded f.message warnings

/-- On other platforms the warning is the bare message, without the prefix of an error. -/
theorem matches_unsupported (name : String) :
    Matches (Platform.other name).Warns
      (.ok (.fallback ("btrfs store provisioning is not supported on " ++ name)))
      (.error (.operation ("btrfs store provisioning is not supported on " ++ name))) := by
  refine ⟨_, rfl, isFallback_fallback _, _, rfl, ?_⟩
  simp only [StoreOutcome.fallback, StoreOutcome.warn]
  refine recorded_addWarning ?_ ""
  rw [Ne, Text.trim_eq_empty_iff, Text.isBlankText_append_left (by decide +kernel)]
  simp

/-- Whether a store is required changes only how a run reports. -/
theorem provision_differInReport {σ : Type} (host : Host σ) (s : σ) (platform : Platform)
    (request : StoreRequest) (storeRoot : Option Path) :
    DifferInReport host s platform.Warns
      (platform.provision { request with require := true } storeRoot)
      (platform.provision { request with require := false } storeRoot) := by
  cases platform with
  | windows =>
    exact differInReport_of_map (x := Wsl.attempt request storeRoot)
      (Wsl.outcome_provision _ _) (Wsl.outcome_provision _ _) fun _ _ => Wsl.matches_conclude
  | linux =>
    exact differInReport_of_map (x := (Native.prepare request storeRoot).outcome)
      (Native.outcome_provision _ _) (Native.outcome_provision _ _)
      fun _ _ => Native.matches_conclude
  | other name => exact ⟨rfl, rfl, matches_unsupported name⟩

/-- **Insisting on a store changes only the report**, and only a run that
insists can fail. -/
theorem require_changes_only_the_report {σ : Type} (host : Host σ) (s : σ) (platform : Platform)
    (request : StoreRequest) (storeRoot : Option Path) :
    DifferInReport host s platform.Warns
        (platform.provision { request with require := true } storeRoot)
        (platform.provision { request with require := false } storeRoot) ∧
      (request.require = true ∨
        ∃ o, ((platform.provision request storeRoot).outcome.runWith host s).1 = .ok o) := by
  have hdiffer := provision_differInReport host s platform request storeRoot
  refine ⟨hdiffer, ?_⟩
  cases hrequire : request.require with
  | true => exact .inl rfl
  | false =>
    -- The run is the one that does not insist, whose result matches another.
    have hsame : { request with require := false } = request := by rw [← hrequire]
    have hmatches := hdiffer.result
    rw [hsame] at hmatches
    right
    cases hstrict : ((platform.provision { request with require := true }
        storeRoot).outcome.runWith host s).1 with
    | error f =>
      rw [hstrict] at hmatches
      obtain ⟨o, ho, -⟩ := hmatches
      exact ⟨o, ho⟩
    | ok o =>
      rw [hstrict] at hmatches
      exact ⟨o, hmatches.2⟩

/-- The message of the failure on a platform without a way to a store is not
what the warning says: the words in front of the text are missing there. -/
theorem unsupported_warning_is_bare :
    ∃ f o, ((other "freebsd").provision { require := true } none).outcome = .done (.error f) ∧
      ((other "freebsd").provision { require := false } none).outcome = .done (.ok o) ∧
      ¬Recorded f.message o.warning := by
  refine ⟨.operation ("btrfs store provisioning is not supported on " ++ "freebsd"),
    .fallback ("btrfs store provisioning is not supported on " ++ "freebsd"), rfl, rfl, ?_⟩
  intro hrecorded
  obtain ⟨-, before, after, hsplit, -, -⟩ := hrecorded
  have hlength := congrArg String.length hsplit
  have hlong : (Text.trim (Failure.operation
      ("btrfs store provisioning is not supported on " ++ "freebsd")).message).length = 70 := by
    decide +kernel
  have hshort : (StoreOutcome.fallback
      ("btrfs store provisioning is not supported on " ++ "freebsd")).warning.length = 52 := by
    decide +kernel
  rw [String.length_append, String.length_append, hlong, hshort] at hlength
  omega

end Platform

end BtrfsStore
