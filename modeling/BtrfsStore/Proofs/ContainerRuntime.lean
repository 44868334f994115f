import BtrfsStore.Proofs.Conclusion
import BtrfsStore.Proofs.InStep
import BtrfsStore.Proofs.Steps.Wsl
import BtrfsStore.Proofs.Warnings
/-!
# BtrfsStore.Proofs.ContainerRuntime

The check of the container runtime is advice: what its probes are answered
decides about one warning and about nothing else.

Two runs whose hosts differ in the answers to the probes only are the same until
the check. After it their outcomes are alike but for one message
(`StoreOutcome.AlikeBut`), and this is what every later stage keeps:
`Stages.Takes R R'` says that stages which start from outcomes related by `R` go
in step and end in the same way, with outcomes related by `R'`. No stage looks at
the outcome so far, so that there is one short law for each way in which stages
are put together.
-/

namespace BtrfsStore

/-! ### One message more -/

/-- Both texts hold messages, one below the other, and the second one holds one
more than the first. -/
def OneMore (message warnings warnings' : String) : Prop :=
  ∃ before after : List String, (∀ m ∈ before ++ after, m ≠ "") ∧
    warnings = "\n".intercalate (before ++ after) ∧
    warnings' = "\n".intercalate (before ++ message :: after)

/-- Every text is a list of messages. -/
theorem exists_eq_intercalate (warnings : String) :
    ∃ ms : List String, (∀ m ∈ ms, m ≠ "") ∧ warnings = "\n".intercalate ms := by
  by_cases hempty : warnings = ""
  · exact ⟨[], by simp, by simp [hempty]⟩
  · exact ⟨[warnings], by simpa using hempty, by simp⟩

theorem intercalate_ne_empty {ms : List String} (hms : ∀ m ∈ ms, m ≠ "") (hne : ms ≠ []) :
    "\n".intercalate ms ≠ "" := by
  obtain ⟨m, ms, rfl⟩ := List.exists_cons_of_ne_nil hne
  cases ms with
  | nil => simpa using hms
  | cons m' ms => simp [String.intercalate_cons_cons]

/-- A warning joins the messages so far as the last one. -/
theorem addWarning_intercalate {ms : List String} (hms : ∀ m ∈ ms, m ≠ "") {message : String}
    (hmessage : Text.trim message ≠ "") :
    StoreOutcome.addWarning ("\n".intercalate ms) message
      = "\n".intercalate (ms ++ [Text.trim message]) := by
  cases ms with
  | nil => simp [StoreOutcome.addWarning, hmessage]
  | cons m ms =>
    have hold := intercalate_ne_empty hms (by simp)
    rw [String.intercalate_append_of_ne_nil (by simp) (by simp), String.intercalate_singleton]
    simp [StoreOutcome.addWarning, hmessage, hold]

theorem addWarning_of_blank {message : String} (hmessage : Text.trim message = "")
    (warnings : String) : StoreOutcome.addWarning warnings message = warnings := by
  simp [StoreOutcome.addWarning, hmessage]

/-- A message without blanks at its ends is one more among the warnings. -/
theorem oneMore_addWarning {message : String} (hne : message ≠ "")
    (htrim : Text.trim message = message) (warnings : String) :
    OneMore message warnings (StoreOutcome.addWarning warnings message) := by
  obtain ⟨ms, hms, rfl⟩ := exists_eq_intercalate warnings
  refine ⟨ms, [], by simpa using hms, by simp, ?_⟩
  rw [addWarning_intercalate hms (by rwa [htrim]), htrim]

/-- Further warnings do not change this. -/
theorem OneMore.addWarning {message warnings warnings' : String} (hmessage : message ≠ "")
    (h : OneMore message warnings warnings') (more : String) :
    OneMore message (StoreOutcome.addWarning warnings more)
      (StoreOutcome.addWarning warnings' more) := by
  obtain ⟨before, after, hms, rfl, rfl⟩ := h
  by_cases hmore : Text.trim more = ""
  · rw [addWarning_of_blank hmore, addWarning_of_blank hmore]
    exact ⟨before, after, hms, rfl, rfl⟩
  have hms' : ∀ m ∈ before ++ message :: after, m ≠ "" := by
    simp only [List.forall_mem_append, List.forall_mem_cons] at hms ⊢
    exact ⟨hms.1, hmessage, hms.2⟩
  refine ⟨before, after ++ [Text.trim more], ?_, ?_, ?_⟩
  · simp only [← List.append_assoc, List.forall_mem_append, List.forall_mem_singleton] at hms ⊢
    exact ⟨hms, hmore⟩
  · rw [addWarning_intercalate hms hmore, List.append_assoc]
  · rw [addWarning_intercalate hms' hmore, List.append_assoc, List.cons_append]

/-! ### Alike but for a message -/

/-- An outcome with other warnings. -/
def StoreOutcome.withWarnings (o : StoreOutcome) (warnings : String) : StoreOutcome :=
  { o with warning := warnings }

theorem StoreOutcome.warn_withWarnings (o : StoreOutcome) (warnings text : String) :
    (o.withWarnings warnings).warn text
      = (o.warn text).withWarnings (addWarning warnings text) := by
  simp only [warn, withWarnings]

/-- A warning changes nothing but the warnings. -/
theorem StoreOutcome.warn_eq_withWarnings (o : StoreOutcome) (text : String) :
    o.warn text = o.withWarnings (addWarning o.warning text) := by
  simp only [warn, withWarnings]

/-- Two outcomes that are the same, but for a message that only one of them may
have recorded. -/
inductive StoreOutcome.AlikeBut (message : String) : StoreOutcome → StoreOutcome → Prop
  | same (o : StoreOutcome) : AlikeBut message o o
  | more {o : StoreOutcome} {warnings : String} (h : OneMore message o.warning warnings) :
      AlikeBut message o (o.withWarnings warnings)
  | less {o : StoreOutcome} {warnings : String} (h : OneMore message o.warning warnings) :
      AlikeBut message (o.withWarnings warnings) o

/-- Two results that are the same, but for a message that only one of them may
have recorded. -/
inductive ResultsAlikeBut (message : String) :
    Except Failure StoreOutcome → Except Failure StoreOutcome → Prop
  | error (f : Failure) : ResultsAlikeBut message (.error f) (.error f)
  | ok {o o' : StoreOutcome} (h : o.AlikeBut message o') : ResultsAlikeBut message (.ok o) (.ok o')

theorem ResultsAlikeBut.refl (message : String) (r : Except Failure StoreOutcome) :
    ResultsAlikeBut message r r := by
  cases r with
  | error f => exact .error f
  | ok o => exact .ok (.same o)

namespace StoreOutcome.AlikeBut

variable {message : String} {o o' : StoreOutcome}

/-- A change of the outcome that leaves the warnings alone. -/
theorem map {f : StoreOutcome → StoreOutcome}
    (hf : ∀ o warnings, f (o.withWarnings warnings) = (f o).withWarnings warnings)
    (h : o.AlikeBut message o') : (f o).AlikeBut message (f o') := by
  have hwarning : ∀ o, (f o).warning = o.warning :=
    fun o => (congrArg StoreOutcome.warning (hf o o.warning) :)
  cases h with
  | same => exact .same _
  | more h =>
    rw [hf]
    exact .more (by rwa [hwarning])
  | less h =>
    rw [hf]
    exact .less (by rwa [hwarning])

theorem warn (hmessage : message ≠ "") (h : o.AlikeBut message o') (text : String) :
    (o.warn text).AlikeBut message (o'.warn text) := by
  cases h with
  | same => exact .same _
  | more h =>
    rw [warn_withWarnings]
    exact .more (by rw [warn_warning]; exact h.addWarning hmessage text)
  | less h =>
    rw [warn_withWarnings]
    exact .less (by rw [warn_warning]; exact h.addWarning hmessage text)

/-- A message makes a difference of this message. -/
theorem warn_right (hmessage : message ≠ "") (htrim : Text.trim message = message)
    (o : StoreOutcome) : o.AlikeBut message (o.warn message) := by
  rw [warn_eq_withWarnings]
  exact .more (oneMore_addWarning hmessage htrim _)

theorem warn_left (hmessage : message ≠ "") (htrim : Text.trim message = message)
    (o : StoreOutcome) : (o.warn message).AlikeBut message o := by
  rw [warn_eq_withWarnings]
  exact .less (oneMore_addWarning hmessage htrim _)

theorem abandon (hmessage : message ≠ "") (h : o.AlikeBut message o') (f : Failure) :
    (o.abandon f).AlikeBut message (o'.abandon f) :=
  (h.map (f := fun o => { distro := o.distro, backendAvailable := o.backendAvailable
                          warning := o.warning }) fun _ _ => rfl).warn hmessage f.message

end StoreOutcome.AlikeBut

/-! ### Related outcomes -/

namespace Wsl

variable {N : Query → Prop} {R R' R'' : StoreOutcome → StoreOutcome → Prop} {α β : Type}

/-- From related outcomes the stages go in step, but for questions in `N`, and
end in the same way with related outcomes. -/
def Stages.Takes (N : Query → Prop) (R R' : StoreOutcome → StoreOutcome → Prop)
    (x : Stages α) : Prop :=
  ∀ o o', R o o' → Action.InStep N (fun p p' => p.1 = p'.1 ∧ R' p.2 p'.2)
    (x.runFrom o) (x.runFrom o')

namespace Stages

theorem takes_pure (a : α) : (pure a : Stages α).Takes N R R :=
  fun _ _ h => .done ⟨rfl, h⟩

/-- Relations between the outcomes of two runs are passed on from stage to stage. -/
theorem Takes.bind {x : Stages α} {f : α → Stages β} (hx : x.Takes N R R')
    (hf : ∀ a, (f a).Takes N R' R'') (hfailed : ∀ o o', R' o o' → R'' o o') :
    (x >>= f).Takes N R R'' := by
  intro o o' h
  rw [runFrom_bind, runFrom_bind]
  refine (hx o o' h).bind fun p p' hends => ?_
  obtain ⟨r, o₁⟩ := p
  obtain ⟨r', o₁'⟩ := p'
  obtain ⟨rfl, h₁⟩ : r = r' ∧ R' o₁ o₁' := hends
  cases r with
  | error e => exact .done ⟨rfl, hfailed _ _ h₁⟩
  | ok a => exact hf a _ _ h₁

/-- Stages between two relations that are the same. -/
theorem Takes.bind_same {x : Stages α} {f : α → Stages β} (hx : x.Takes N R R)
    (hf : ∀ a, (f a).Takes N R R) : (x >>= f).Takes N R R :=
  hx.bind hf fun _ _ h => h

theorem takes_step {x : Attempt α} (hx : x.outcome.Asks fun q => ¬N q) :
    (step x).Takes N R R := by
  intro o o' h
  rw [runFrom_step, runFrom_step]
  exact (Action.InStep.refl hx).map fun r r' hr => ⟨hr, h⟩

theorem takes_stage {s : Stage} {x : Attempt α} (hx : x.outcome.Asks fun q => ¬N q) :
    (stage s x).Takes N R R :=
  takes_step (Attempt.asks_inStage hx)

theorem Takes.discard {x : Stages α} (hx : x.Takes N R R') :
    (discard x : Stages Unit).Takes N R R' := by
  intro o o' h
  rw [runFrom_discard, runFrom_discard]
  refine (hx o o' h).map fun p p' hends => ?_
  rw [hends.1]
  exact ⟨rfl, hends.2⟩

theorem takes_update {f : StoreOutcome → StoreOutcome} (hf : ∀ o o', R o o' → R' (f o) (f o')) :
    (update f).Takes N R R' :=
  fun o o' h => .done ⟨rfl, hf o o' h⟩

/-- A step that may be left out. -/
theorem Takes.after_if {needed : Bool} {x : Stages Unit} {y : Stages α} (hx : x.Takes N R R)
    (hy : y.Takes N R R') (hfailed : ∀ o o', R o o' → R' o o') :
    (do if needed then x
        y : Stages α).Takes N R R' := by
  cases needed with
  | true => exact hx.bind (fun _ => hy) hfailed
  | false => exact hy

end Stages

/-! ### The advice -/

/-- The outcomes are alike but for the advice. -/
abbrev AlikeButAdvice : StoreOutcome → StoreOutcome → Prop :=
  StoreOutcome.AlikeBut dockerWarning

theorem dockerWarning_ne : dockerWarning ≠ "" := by decide

theorem trim_dockerWarning : Text.trim dockerWarning = dockerWarning := by decide +kernel

/-- The advice is the warning, or none. -/
theorem leads_dockerHealth {outside : Target} {h : History} {advice : Option String}
    (hl : (dockerHealth outside).Leads h advice) : advice = none ∨ advice = some dockerWarning := by
  unfold dockerHealth at hl
  obtain ⟨_, service, _, -, hrest, -⟩ := Action.leads_bind.mp hl
  split at hrest
  · exact .inl (Action.leads_done.mp hrest).2
  obtain ⟨_, pipe, _, -, hrest, -⟩ := Action.leads_bind.mp hrest
  split at hrest
  · exact .inl (Action.leads_done.mp hrest).2
  obtain ⟨_, answers, _, -, hrest, -⟩ := Action.leads_bind.mp hrest
  split at hrest
  · exact .inl (Action.leads_done.mp hrest).2
  · exact .inr (Action.leads_done.mp hrest).2

/-- From the same outcome on, the advice makes a difference of one message at
most. -/
theorem takes_advice {rest : Stages α}
    (hrest : rest.Takes Query.AboutDocker AlikeButAdvice AlikeButAdvice) :
    (do match ← step (ExceptT.lift (dockerHealth .host)) with
        | some warning =>
          update (·.warn warning)
          rest
        | none => rest : Stages α).Takes Query.AboutDocker Eq AlikeButAdvice := by
  rintro o _ rfl
  rw [Stages.runFrom_bind, Stages.runFrom_step, Attempt.outcome_lift, bind_map_left, bind_map_left]
  have hadvice := Action.InStep.of_asks dockerHealth_aboutDocker dockerHealth_aboutDocker
    (fun _ _ => leads_dockerHealth) (fun _ _ => leads_dockerHealth)
  refine hadvice.bind fun advice advice' hboth => ?_
  rcases hboth with ⟨rfl | rfl, rfl | rfl⟩
  · exact hrest o o (.same o)
  · exact hrest o (o.warn dockerWarning) (.warn_right dockerWarning_ne trim_dockerWarning o)
  · exact hrest (o.warn dockerWarning) o (.warn_left dockerWarning_ne trim_dockerWarning o)
  · exact hrest (o.warn dockerWarning) (o.warn dockerWarning) (.same _)

/-! ### The run -/

open Filesystem MountSupervision StoreContent VirtualDisk

variable (request : StoreRequest) (storeRoot : Option Path) (distro : String)

/-- A warning is recorded in both outcomes. -/
theorem takes_warn (text : String) :
    (update (·.warn text)).Takes N AlikeButAdvice AlikeButAdvice :=
  Stages.takes_update fun _ _ h => h.warn dockerWarning_ne text

/-- An entry other than a warning is made in both outcomes. -/
theorem takes_entry {f : StoreOutcome → StoreOutcome}
    (hf : ∀ o warnings, f (o.withWarnings warnings) = (f o).withWarnings warnings) :
    (update f).Takes N AlikeButAdvice AlikeButAdvice :=
  Stages.takes_update fun _ _ h => h.map hf

/-- Up to the answer about Docker two runs are equal, and alike but for the advice from
there on. -/
theorem prepareDistro_takes :
    (prepareDistro request distro).Takes Query.AboutDocker Eq AlikeButAdvice := by
  have hsame : ∀ o o', o = o' → AlikeButAdvice o o' := fun o o' h => h ▸ .same o
  have hupdate : ∀ f, (update f).Takes Query.AboutDocker Eq Eq :=
    fun f => Stages.takes_update fun _ _ h => congrArg f h
  unfold prepareDistro
  dsimp only
  refine .after_if (Stages.takes_stage ?_).discard ?_ hsame
  · exact Attempt.ignoresDocker_run (by decide)
  refine .bind (Stages.takes_stage ?_) (fun _ => ?_) hsame
  · exact (asks_ensureKernelSupport _ _).ignoresDocker (by simp [kernelSteps, dockerNames])
  refine .bind (Stages.takes_stage ?_) (fun nsenter => ?_) hsame
  · exact (asks_ensureTools _ (.wslRoot distro false)).ignoresDocker
      (by simp [toolSteps, dockerNames])
  refine .after_if (hupdate _) ?_ hsame
  refine .bind (hupdate _) (fun _ => ?_) hsame
  refine .bind (Stages.takes_stage ?_) (fun _ => ?_) hsame
  · exact (asks_ensureSystemd _).ignoresDocker (by simp [systemdSteps, dockerNames])
  refine takes_advice (.bind_same (Stages.takes_stage ?_) fun _ => Stages.takes_pure _)
  exact asks_checkElevation.ignoresDocker (by simp [elevationSteps, dockerNames])

theorem setUp_takes (user : Target) (place : Place) (device : String) :
    (setUp request user place device).Takes Query.AboutDocker AlikeButAdvice AlikeButAdvice := by
  have hlink : (findLink place.root device).IgnoresDocker :=
    (asks_findLink _ _).ignoresDocker (by simp [linkSteps, dockerNames])
  unfold setUp
  refine .bind_same (Stages.takes_step (hlink.map _)) fun found => ?_
  dsimp only
  refine .after_if (takes_warn _) ?_ fun _ _ h => h
  refine .bind_same (Stages.takes_stage ?_) fun _ => ?_
  · exact (asks_mountUnit _ _ _).ignoresDocker
      (by simp [installSteps, activateSteps, mountPointSteps, dockerNames])
  refine .bind_same (Stages.takes_stage ?_).discard fun _ => ?_
  · exact (asks_ensureSubvolumes _ _).ignoresDocker (by simp [subvolumeSteps, dockerNames])
  refine .bind_same (Stages.takes_stage ?_).discard fun _ => ?_
  · exact (asks_giveTo _ _ _).ignoresDocker (by simp [giveSteps, ownerSteps, dockerNames])
  exact takes_entry fun _ _ => rfl

theorem equip_takes (user : Target) (place : Place) :
    (equip request user place).Takes Query.AboutDocker AlikeButAdvice AlikeButAdvice := by
  unfold equip
  refine .bind_same (Stages.takes_step ?_) fun attached => ?_
  · exact (asks_attachStoreDisk _ _ _).ignoresDocker
      (by simp [diskSteps, listSteps, fileSteps, createSteps, attachSteps, dockerNames])
  refine .bind_same (Stages.takes_stage ?_).discard fun _ => setUp_takes request user place _
  exact (asks_ensure _ _ _).ignoresDocker
    (by simp [ensureSteps, detectSteps, formatSteps, verifySteps, probeMountSteps, dockerNames])

theorem findPlace_takes :
    (findPlace request storeRoot distro).Takes Query.AboutDocker Eq AlikeButAdvice := by
  unfold findPlace
  refine .bind (prepareDistro_takes request distro) (fun nsenter => ?_) fun _ _ h => h
  refine .bind_same (Stages.takes_stage ?_) fun place => ?_
  · exact (asks_resolvePlace _ _).ignoresDocker
      (by simp [resolveSteps, stateDirSteps, nameSteps, dockerNames])
  refine .bind_same (takes_entry fun _ _ => rfl) fun _ => ?_
  exact .bind_same (Stages.takes_stage trivial) fun _ => Stages.takes_pure _

theorem runStages_takes :
    (runStages request storeRoot distro).Takes Query.AboutDocker Eq AlikeButAdvice := by
  rw [runStages_eq]
  refine .bind (findPlace_takes request storeRoot distro) (fun place => ?_) fun _ _ h => h
  refine .after_if (Stages.takes_stage ?_) (equip_takes request _ place) fun _ _ h => h
  refine (asks_teardown _ _ _ _).mono fun q hq => ?_
  rcases hq with hq | rfl
  · refine hq.not_aboutDocker ?_
    simp [tearDownSteps, teardownSteps, releaseSteps, mountPointSteps, detachSteps, dockerNames]
  · simp [Query.AboutDocker]

/-- What becomes of two ends that are alike. -/
theorem conclude_alike (require : Bool) {p p' : Except Failure Unit × StoreOutcome}
    (hsame : p.1 = p'.1) (halike : AlikeButAdvice p.2 p'.2) :
    ResultsAlikeBut dockerWarning (conclude require (.ok p)) (conclude require (.ok p')) := by
  obtain ⟨r, o⟩ := p
  obtain ⟨r', o'⟩ := p'
  obtain rfl : r = r' := hsame
  cases r with
  | ok u => exact .ok (halike.warn dockerWarning_ne _)
  | error f =>
    cases require with
    | true => exact .error f
    | false => exact .ok ((halike.abandon dockerWarning_ne f).warn dockerWarning_ne _)

/-- Two runs that are answered alike, Docker apart, end alike. -/
theorem provision_inStep :
    Action.InStep Query.AboutDocker (ResultsAlikeBut dockerWarning)
      (provision request storeRoot).outcome (provision request storeRoot).outcome := by
  rw [outcome_provision]
  refine Action.InStep.map (R := fun ended ended' => ResultsAlikeBut dockerWarning
    (conclude request.require ended) (conclude request.require ended')) ?_ fun _ _ h => h
  unfold attempt
  refine .bind_left (ignoresDocker_chooseDistro request) fun chosen => ?_
  cases chosen with
  | error reason => exact .done (.refl _ _)
  | ok distro =>
    refine (runStages_takes request storeRoot distro.name _ _ rfl).map fun p p' hends => ?_
    exact conclude_alike request.require hends.1 hends.2

end Wsl

/-! ### On two hosts -/

/-- **The check of the container runtime is advice.** Take two hosts whose replies
are given by the history of the questions that are not about the container
runtime, and are the same for all of these. A run asks them the same such
questions in the same order, and is answered the same; and it ends with the same
result, but for the warning that the check may give. -/
theorem container_runtime_only_advised {reply reply' : History → (q : Query) → q.Answer}
    (hreply : ∀ h h' q, h.without Query.AboutDocker = h'.without Query.AboutDocker →
      ¬q.AboutDocker → reply h q = reply' h' q) (request : StoreRequest)
    (storeRoot : Option Path) :
    ((Wsl.provision request storeRoot).outcome.record (.recalling reply) []).without
        Query.AboutDocker
      = ((Wsl.provision request storeRoot).outcome.record (.recalling reply') []).without
        Query.AboutDocker ∧
    ResultsAlikeBut Wsl.dockerWarning
      ((Wsl.provision request storeRoot).outcome.runWith (.recalling reply) []).1
      ((Wsl.provision request storeRoot).outcome.runWith (.recalling reply') []).1 := by
  obtain ⟨hrecord, hresult, -⟩ := (Wsl.provision_inStep request storeRoot).runs_alike
    (Host.alikeBut_recalling hreply) rfl
  exact ⟨hrecord, hresult⟩

/-- The replies of a Windows host with a store, whose service of the container
runtime is in the given state. -/
def replyWithService (service : String) : (q : Query) → q.Answer
  | .run c =>
    .ok <|
      if c = serviceQuestion then service
      else
        match c.description with
        | "list WSL distros" => "* Ubuntu Running 2"
        | "locate tool" => "/usr/bin/tool"
        | "check systemd" => "running"
        | "check Administrator privileges" => "True"
        | "resolve state directory" => "/state"
        | "escape mount unit name" => "state-sqlrs-store.mount"
        | "list block devices" =>
          "NAME SIZE TYPE\nsdb 107374182400 disk\nsdb1 107374182400 part"
        | "read kernel filesystems" | "check existing mount" | "check live mount" => "btrfs"
        | "read filesystem UUID" => "1-2"
        | "resolve user id" | "resolve group id" => "1000"
        | _ => ""
  | .locate program => some program
  | .isRoot => false
  | .sleep _ => ()
  | .pathExists _ => true
  | .makeDirectories _ => .ok ()
  | .removeFile _ => .ok ()
  | .readText _ => .ok ""
  | .writeText _ _ => .ok ()

/-- A service that runs and one that does not: the runs find the same store, and
one of them warns. -/
theorem container_runtime_only_advised_of_service :
    let x := (Wsl.provision {} (some ⟨"C:"⟩)).outcome
    let running := Host.recalling fun _ => replyWithService "Running"
    let stopped := Host.recalling fun _ => replyWithService "Stopped"
    ((x.record running []).without Query.AboutDocker
        = (x.record stopped []).without Query.AboutDocker ∧
      ResultsAlikeBut Wsl.dockerWarning (x.runWith running []).1 (x.runWith stopped []).1) ∧
    (x.runWith running []).1.toOption.any (·.useStore) = true ∧
    (x.runWith running []).1 ≠ (x.runWith stopped []).1 := by
  refine ⟨container_runtime_only_advised ?_ {} (some ⟨"C:"⟩), by decide +kernel, by decide +kernel⟩
  intro _ _ q _ hq
  cases q with
  | run c =>
    have hc : c ≠ serviceQuestion := by
      rintro rfl
      exact hq (by decide)
    simp only [replyWithService, hc, if_false]
  | _ => rfl

end BtrfsStore
