import BtrfsStore.Proofs.Stages
/-!
# BtrfsStore.Proofs.Course

The **course** of a run: the milestones that it has to reach, in their order.

A milestone has the questions that are asked on the way to it, what the history
of this way shows once it is reached, and the stage that a failure on the way
names. `Course.Run` says what the runs along a course are: they reach one
milestone after the other, and the first one that is not reached ends the run
with a failure of its stage. No question that belongs to a later milestone is
asked then.

A run is shown to follow a course step by step. What is to be known about each
step on its own is `Attempt.Attains`; the laws `follows_…` put the steps
together. What is known about a run can then be read off its course, without
another look at the program.

A failure is **plain** if it does not name a stage. The failures of commands
come from the host, so that the failure of a step is only known to be plain if
those of its commands are (`Attempt.FailsPlainly`).
-/

namespace BtrfsStore

/-! ### Plain failures -/

/-- The failure does not name a stage. -/
def Failure.IsPlain (f : Failure) : Prop := f.stages = []

/-- If the event is a command that has failed, its failure is plain. -/
def Event.Plain : Event → Prop
  | ⟨.run _, .error f⟩ => f.IsPlain
  | _ => True

/-- On this host no command fails with the name of a stage. -/
def Host.FailsPlainly {σ : Type} (host : Host σ) : Prop :=
  ∀ c s f, (host.answer (.run c) s).1 = .error f → f.IsPlain

theorem Host.FailsPlainly.plain_record {σ α : Type} {host : Host σ} (hhost : host.FailsPlainly)
    (x : Action α) (s : σ) : ∀ e ∈ x.record host s, e.Plain := by
  induction x generalizing s with
  | done a => exact List.forall_mem_nil _
  | ask q next ih =>
    refine List.forall_mem_cons.mpr ⟨?_, ih _ _⟩
    cases q with
    | run c =>
      cases hanswer : (host.answer (.run c) s).1 with
      | error f => exact hhost c s f hanswer
      | ok output => trivial
    | _ => trivial

namespace Attempt

variable {α β : Type}

/-- If the commands of the attempt fail only with plain failures, so does the
attempt. -/
def FailsPlainly (x : Attempt α) : Prop :=
  ∀ h f, x.outcome.Leads h (.error f) → (∀ e ∈ h, e.Plain) → f.IsPlain

theorem failsPlainly_pure (a : α) : (pure a : Attempt α).FailsPlainly := by
  intro h f hl _
  cases (Action.leads_done.mp hl).2

theorem failsPlainly_throw {f : Failure} (hf : f.IsPlain) : (throw f : Attempt α).FailsPlainly := by
  intro h g hl _
  obtain ⟨-, hg⟩ := Action.leads_done.mp hl
  cases hg
  exact hf

theorem failsPlainly_ofExcept {r : Except Failure α} (hr : ∀ f, r = .error f → f.IsPlain) :
    (ofExcept r).FailsPlainly := by
  intro h f hl _
  obtain ⟨-, hf⟩ := Action.leads_done.mp hl
  exact hr f hf.symm

/-- An action cannot fail. -/
theorem failsPlainly_lift (x : Action α) : FailsPlainly (ExceptT.lift x) := by
  intro h f hl _
  rw [outcome_lift, Action.leads_map] at hl
  obtain ⟨a, -, ha⟩ := hl
  cases ha

/-- The failure of a command is that of its event. -/
theorem failsPlainly_run (c : Command) :
    FailsPlainly (ExceptT.mk (Action.query (.run c))) := by
  intro h f hl hplain
  obtain ⟨a, rfl, rfl⟩ := Action.leads_ask_done.mp hl
  exact hplain _ (List.mem_singleton_self _)

theorem failsPlainly_bind {x : Attempt α} {f : α → Attempt β} (hx : x.FailsPlainly)
    (hf : ∀ a, (f a).FailsPlainly) : (x >>= f).FailsPlainly := by
  intro h g hl hplain
  rcases leads_bind.mp hl with ⟨e, hfirst, he⟩ | ⟨h₁, a, h₂, -, hrest, rfl⟩
  · obtain rfl := Except.error.inj he
    exact hx h g hfirst hplain
  · exact hf a h₂ g hrest (List.forall_mem_append.mp hplain).2

/-- Where a failure is looked at, it is known to be plain. -/
theorem failsPlainly_observe_bind {x : Attempt α} {f : Except Failure α → Attempt β}
    (hx : x.FailsPlainly) (hok : ∀ a, (f (.ok a)).FailsPlainly)
    (herror : ∀ e, e.IsPlain → (f (.error e)).FailsPlainly) :
    (x.observe >>= f).FailsPlainly := by
  intro h g hl hplain
  obtain ⟨h₁, r, h₂, hvalue, hrest, rfl⟩ := leads_observe_bind.mp hl
  obtain ⟨hplain₁, hplain₂⟩ := List.forall_mem_append.mp hplain
  cases r with
  | ok a => exact hok a h₂ g hrest hplain₂
  | error e => exact herror e (hx h₁ e hvalue hplain₁) h₂ g hrest hplain₂

theorem failsPlainly_mapFailure {x : Attempt α} {g : Failure → Failure} (hx : x.FailsPlainly)
    (hg : ∀ f, f.IsPlain → (g f).IsPlain) : (x.mapFailure g).FailsPlainly := by
  intro h f hl hplain
  rw [outcome_mapFailure, Action.leads_map] at hl
  obtain ⟨e | a, hvalue, hr⟩ := hl
  · cases hr
    exact hg e (hx h e hvalue hplain)
  · cases hr

theorem failsPlainly_discard {x : Attempt α} (hx : x.FailsPlainly) :
    (discard x).FailsPlainly := by
  intro h f hl hplain
  rw [outcome_discard, Action.leads_map] at hl
  obtain ⟨e | a, hvalue, hr⟩ := hl
  · cases hr
    exact hx h f hvalue hplain
  · cases hr

theorem failsPlainly_ite {c : Prop} {_ : Decidable c} {x y : Attempt α} (hx : x.FailsPlainly)
    (hy : y.FailsPlainly) : (if c then x else y).FailsPlainly := by
  split
  · exact hx
  · exact hy

end Attempt

/-! ### Courses -/

/-- The milestones of a run. -/
inductive Course : Type 1 where
  /-- Nothing is left to do, and the outcome is `settled`. -/
  | finish (settled : StoreOutcome → Prop)
  /-- The questions on the way to a milestone are among those that `asks` names,
  and the history of the way shows that it is `reached`, with a value that the
  rest of the course depends on. A failure names the `stage`; where there is
  none, the milestone is reached for sure. -/
  | milestone {α : Type} (stage : Option Stage) (asks : Query → Prop)
      (reached : α → History → Prop) (rest : α → Course)

namespace Course

/-- A milestone that is left out unless `needed`. -/
def milestoneIf (needed : Bool) (stage : Stage) (asks : Query → Prop) (reached : History → Prop)
    (rest : Course) : Course :=
  if needed then milestone (some stage) asks (fun _ : Unit => reached) fun _ => rest else rest

/-- The runs along a course: their histories and how they end. -/
inductive Run : Course → History → Except Failure StoreOutcome → Prop
  | finish {settled : StoreOutcome → Prop} {o : StoreOutcome} (hsettled : settled o) :
      Run (.finish settled) [] (.ok o)
  /-- A milestone is not reached, which is the end of the run. -/
  | failed {α : Type} {s : Stage} {asks : Query → Prop} {reached : α → History → Prop}
      {rest : α → Course} {h : History} {f : Failure} (hasked : ∀ e ∈ h, asks e.query)
      (hplain : (∀ e ∈ h, e.Plain) → f.IsPlain) :
      Run (.milestone (some s) asks reached rest) h (.error (.stage s f))
  /-- A milestone is reached, and the run goes on. -/
  | reached {α : Type} {stage : Option Stage} {asks : Query → Prop}
      {reached : α → History → Prop} {rest : α → Course} {h h' : History} {a : α}
      {r : Except Failure StoreOutcome} (hasked : ∀ e ∈ h, asks e.query) (hreached : reached a h)
      (hrest : Run (rest a) h' r) :
      Run (.milestone stage asks reached rest) (h ++ h') r

section

variable {α : Type} {stage : Option Stage} {asks : Query → Prop} {reached : α → History → Prop}
  {rest : α → Course} {h : History} {r : Except Failure StoreOutcome} {o : StoreOutcome}

theorem run_finish {settled : StoreOutcome → Prop} :
    (finish settled).Run h r ↔ h = [] ∧ ∃ o, r = .ok o ∧ settled o := by
  constructor
  · intro hr
    cases hr with
    | @finish _ o hsettled => exact ⟨rfl, o, rfl, hsettled⟩
  · intro hr
    obtain ⟨rfl, o, rfl, hsettled⟩ := hr
    exact .finish hsettled

theorem run_milestone :
    (milestone stage asks reached rest).Run h r ↔
      (∃ s f, stage = some s ∧ (∀ e ∈ h, asks e.query) ∧ ((∀ e ∈ h, e.Plain) → f.IsPlain) ∧
        r = .error (.stage s f)) ∨
      ∃ h₁ a h₂, (∀ e ∈ h₁, asks e.query) ∧ reached a h₁ ∧ (rest a).Run h₂ r ∧
        h = h₁ ++ h₂ := by
  constructor
  · intro hr
    cases hr with
    | @failed _ s _ _ _ _ f hasked hplain => exact .inl ⟨s, f, rfl, hasked, hplain, rfl⟩
    | @reached _ _ _ _ _ h₁ h₂ a _ hasked hreached hrest =>
      exact .inr ⟨h₁, a, h₂, hasked, hreached, hrest, rfl⟩
  · intro hr
    rcases hr with ⟨s, f, rfl, hasked, hplain, rfl⟩ | ⟨h₁, a, h₂, hasked, hreached, hrest, rfl⟩
    · exact .failed hasked hplain
    · exact .reached hasked hreached hrest

/-- A run that succeeds reaches the milestone. -/
theorem run_milestone_ok :
    (milestone stage asks reached rest).Run h (.ok o) ↔
      ∃ h₁ a h₂, (∀ e ∈ h₁, asks e.query) ∧ reached a h₁ ∧ (rest a).Run h₂ (.ok o) ∧
        h = h₁ ++ h₂ := by
  rw [run_milestone]
  constructor
  · intro hr
    rcases hr with ⟨s, f, -, -, -, hf⟩ | hreached
    · cases hf
    · exact hreached
  · exact .inr

end

/-- A run that succeeds reaches the milestone, unless it is left out. -/
theorem run_milestoneIf_ok {needed : Bool} {s : Stage} {asks : Query → Prop}
    {reached : History → Prop} {c : Course} {h : History} {o : StoreOutcome}
    (hr : (milestoneIf needed s asks reached c).Run h (.ok o)) :
    ∃ h₁ h₂, (needed = true ∧ reached h₁ ∨ needed = false ∧ h₁ = []) ∧
      (∀ e ∈ h₁, asks e.query) ∧ c.Run h₂ (.ok o) ∧ h = h₁ ++ h₂ := by
  cases needed with
  | true =>
    obtain ⟨h₁, _, h₂, hasked, hreached, hrest, rfl⟩ := run_milestone_ok.mp hr
    exact ⟨h₁, h₂, .inl ⟨rfl, hreached⟩, hasked, hrest, rfl⟩
  | false => exact ⟨[], h, .inr ⟨rfl, rfl⟩, List.forall_mem_nil _, hr, rfl⟩

/-- A run that fails in another stage has reached the milestone. -/
theorem Run.of_other_stage {α : Type} {stage : Option Stage} {asks : Query → Prop}
    {reached : α → History → Prop} {rest : α → Course} {h : History} {s : Stage} {f : Failure}
    (hr : (milestone stage asks reached rest).Run h (.error (.stage s f)))
    (hs : stage ≠ some s) :
    ∃ h₁ a h₂, (∀ e ∈ h₁, asks e.query) ∧ reached a h₁ ∧
      (rest a).Run h₂ (.error (.stage s f)) ∧ h = h₁ ++ h₂ := by
  rcases run_milestone.mp hr with ⟨s', f', hstage, -, -, hf⟩ | hreached
  · obtain ⟨rfl, -⟩ := Failure.stage.inj (Except.error.inj hf)
    exact absurd hstage hs
  · exact hreached

/-! ### Parts of runs -/

/-- A run along the course asks only what `Q` names, until it fails or the rest of
it is as `P` says. -/
def Until (c : Course) (Q : Query → Prop)
    (P : History → Except Failure StoreOutcome → Prop) : Prop :=
  ∀ h r, c.Run h r → ((∃ f, r = .error f) ∧ ∀ e ∈ h, Q e.query) ∨
    ∃ h₁ h₂, (∀ e ∈ h₁, Q e.query) ∧ P h₂ r ∧ h = h₁ ++ h₂

section

variable {α : Type} {stage : Option Stage} {asks Q : Query → Prop} {reached : α → History → Prop}
  {rest : α → Course} {P : History → Except Failure StoreOutcome → Prop}

theorem until_milestone (hasks : ∀ q, asks q → Q q) (hrest : ∀ a, (rest a).Until Q P) :
    (milestone stage asks reached rest).Until Q P := by
  intro h r hr
  rcases run_milestone.mp hr with ⟨_, _, -, hasked, -, hf⟩ | ⟨h₁, a, h₂, hasked, -, hrun, rfl⟩
  · exact .inl ⟨⟨_, hf⟩, fun e he => hasks _ (hasked e he)⟩
  have hfirst : ∀ e ∈ h₁, Q e.query := fun e he => hasks _ (hasked e he)
  rcases hrest a h₂ r hrun with ⟨hfailed, hall⟩ | ⟨h₃, h₄, hsecond, hP, rfl⟩
  · exact .inl ⟨hfailed, List.forall_mem_append.mpr ⟨hfirst, hall⟩⟩
  · exact .inr ⟨h₁ ++ h₃, h₄, List.forall_mem_append.mpr ⟨hfirst, hsecond⟩, hP, by simp⟩

theorem until_milestoneIf {needed : Bool} {s : Stage} {reached : History → Prop} {c : Course}
    (hasks : ∀ q, asks q → Q q) (hrest : c.Until Q P) :
    (milestoneIf needed s asks reached c).Until Q P := by
  cases needed with
  | true => exact until_milestone hasks fun _ => hrest
  | false => exact hrest

end

/-- A run along a course fails only at a milestone: its failure names one stage,
around a failure that is plain if those of the commands are. -/
theorem Run.error_stage {c : Course} {h : History} {f : Failure} (hr : c.Run h (.error f)) :
    ∃ s cause, f = .stage s cause ∧ ((∀ e ∈ h, e.Plain) → cause.IsPlain) := by
  generalize hresult : (Except.error f : Except Failure StoreOutcome) = r at hr
  induction hr with
  | finish _ => cases hresult
  | @failed _ s _ _ _ h cause _ hplain =>
    obtain rfl := Except.error.inj hresult
    exact ⟨s, cause, rfl, hplain⟩
  | reached _ _ _ ih =>
    obtain ⟨s, cause, hf, hplain⟩ := ih hresult
    exact ⟨s, cause, hf, fun hall => hplain fun e he => hall e (List.mem_append_right _ he)⟩

end Course

/-! ### Steps on the way -/

/-- The attempt is a way to a milestone: it asks only what belongs to it, the
history of a success shows that it is reached, and a failure is plain. -/
structure Attempt.Attains {α : Type} (asks : Query → Prop) (reached : α → History → Prop)
    (x : Attempt α) : Prop where
  asked : ∀ h r, x.outcome.Leads h r → ∀ e ∈ h, asks e.query
  reached : ∀ h a, x.outcome.Leads h (.ok a) → reached a h
  plain : x.FailsPlainly

section

variable {α : Type} {asks : Query → Prop} {reached : α → History → Prop} {x : Attempt α}
  {s : Stage} {rest : α → Course}

/-- A step that fails ends a run, at the milestone to which it was on the
way. -/
theorem Attempt.Attains.run_error (hx : x.Attains asks reached) {h : History} {f : Failure}
    (hl : (x.inStage s).outcome.Leads h (.error f)) :
    (Course.milestone (some s) asks reached rest).Run h (.error f) := by
  obtain ⟨cause, hcause, rfl⟩ := Attempt.leads_inStage_error.mp hl
  exact .failed (hx.asked _ _ hcause) (hx.plain _ _ hcause)

theorem Attempt.Attains.run_ok (hx : x.Attains asks reached) {stage : Option Stage}
    {h h' : History} {a : α} {r : Except Failure StoreOutcome}
    (hl : x.outcome.Leads h (.ok a)) (hrest : (rest a).Run h' r) :
    (Course.milestone stage asks reached rest).Run (h ++ h') r :=
  .reached (hx.asked _ _ hl) (hx.reached _ _ hl) hrest

end

/-! ### Attempts along a course -/

/-- All runs of the attempt are runs along the course. -/
def Attempt.Follows (x : Attempt StoreOutcome) (c : Course) : Prop :=
  ∀ h r, x.outcome.Leads h r → c.Run h r

namespace Attempt

variable {α : Type} {asks : Query → Prop} {reached : α → History → Prop}
  {f : α → Attempt StoreOutcome} {rest : α → Course}

theorem discard_bind {β : Type} (x : Attempt α) (f : Unit → Attempt β) :
    (discard x >>= f) = x >>= fun _ => f () := by
  have hdiscard : discard x = x >>= fun _ => pure () := map_eq_pure_bind _ x
  rw [hdiscard, bind_assoc]
  simp only [pure_bind]

theorem follows_pure {settled : StoreOutcome → Prop} {o : StoreOutcome} (ho : settled o) :
    (pure o : Attempt StoreOutcome).Follows (.finish settled) := by
  intro h r hl
  obtain ⟨rfl, rfl⟩ := Action.leads_done.mp hl
  exact .finish ho

theorem follows_inStage {x : Attempt α} {s : Stage} (hx : x.Attains asks reached)
    (hf : ∀ a, (f a).Follows (rest a)) :
    (x.inStage s >>= f).Follows (.milestone (some s) asks reached rest) := by
  intro h r hl
  rcases leads_bind.mp hl with ⟨e, herror, rfl⟩ | ⟨h₁, a, h₂, hok, hrest, rfl⟩
  · exact hx.run_error herror
  · exact hx.run_ok (leads_inStage_ok.mp hok) (hf a h₂ r hrest)

/-- A step that may be left out. -/
theorem follows_inStage_if {x : Attempt Unit} {y : Attempt StoreOutcome} {s : Stage}
    {reached : History → Prop} {needed : Bool} {c : Course}
    (hx : x.Attains asks fun _ => reached) (hy : y.Follows c) :
    (do if needed then x.inStage s
        y : Attempt StoreOutcome).Follows (.milestoneIf needed s asks reached c) := by
  cases needed with
  | true => exact follows_inStage hx fun _ => hy
  | false => exact hy

/-- A step that cannot fail. -/
theorem follows_lift {x : Action α} (hasks : x.Asks asks)
    (hreached : ∀ h a, x.Leads h a → reached a h) (hf : ∀ a, (f a).Follows (rest a)) :
    ((liftM x : Attempt α) >>= f).Follows (.milestone none asks reached rest) := by
  intro h r hl
  rcases leads_bind.mp hl with ⟨e, hlifted, -⟩ | ⟨h₁, a, h₂, hlifted, hrest, rfl⟩
  · rw [outcome_liftM, Action.leads_map] at hlifted
    obtain ⟨a, -, ha⟩ := hlifted
    cases ha
  · rw [outcome_liftM, Action.leads_map] at hlifted
    obtain ⟨a', hlifted, ha⟩ := hlifted
    obtain rfl := Except.ok.inj ha
    exact .reached (hasks.of_mem hlifted) (hreached h₁ a hlifted) (hf a h₂ r hrest)

end Attempt

/-! ### Stages along a course -/

namespace Wsl

/-- All runs of the stages are runs along the course, whatever the outcome was
before. -/
def Stages.Follows (x : Stages Unit) (c : Course) : Prop :=
  ∀ o h r o', (x.runFrom o).Leads h (r, o') → c.Run h (Except.map (fun _ => o') r)

namespace Stages

variable {α : Type} {asks : Query → Prop} {reached : α → History → Prop} {f : α → Stages Unit}
  {rest : α → Course}

theorem discard_bind {β : Type} (x : Stages α) (f : Unit → Stages β) :
    (discard x >>= f) = x >>= fun _ => f () := by
  have hdiscard : discard x = x >>= fun _ => pure () := map_eq_pure_bind _ x
  rw [hdiscard, bind_assoc]
  simp only [pure_bind]

theorem step_bind {β : Type} (x : Attempt α) (f : α → Attempt β) :
    step (x >>= f) = step x >>= fun a => step (f a) := by
  have hrun : ∀ o, (step (x >>= f)).runFrom o = (step x >>= fun a => step (f a)).runFrom o := by
    intro o
    rw [runFrom_step, runFrom_bind, runFrom_step, Attempt.outcome_bind, map_bind, bind_map_left]
    refine congrArg (Action.bind x.outcome) (funext fun r => ?_)
    cases r with
    | error e => rfl
    | ok a => exact (runFrom_step (f a) o).symm
  exact funext hrun

/-- Each part of a sequence is in the stage of the whole. -/
theorem stage_bind {β : Type} (s : Stage) (x : Attempt α) (f : α → Attempt β) :
    stage s (x >>= f) = stage s x >>= fun a => stage s (f a) := by
  have hstage : stage s (x >>= f) = step ((x >>= f).inStage s) := rfl
  rw [hstage, Attempt.inStage_bind, step_bind]
  rfl

theorem stage_discard (s : Stage) (x : Attempt α) :
    discard (stage s x) = stage s (discard x) := by
  have hdiscard : discard x = x >>= fun _ => pure () := map_eq_pure_bind _ x
  have hstage : discard (stage s x) = stage s x >>= fun _ => pure () :=
    map_eq_pure_bind _ (stage s x)
  rw [hdiscard, hstage, stage_bind]
  rfl

/-- What follows a step that may be left out follows it in a longer sequence
too. -/
theorem if_bind {β : Type} {needed : Bool} (x : Stages Unit) (y : Stages α)
    (f : α → Stages β) :
    (do if needed then x
        y : Stages α) >>= f = (do
      if needed then x
      y >>= f) := by
  cases needed with
  | true => exact bind_assoc _ _ _
  | false => rfl

theorem follows_stage {x : Attempt α} {s : Stage} (hx : x.Attains asks reached)
    (hf : ∀ a, (f a).Follows (rest a)) :
    (stage s x >>= f).Follows (.milestone (some s) asks reached rest) := by
  intro o h r o' hl
  rcases leads_bind.mp hl with ⟨e, herror, rfl⟩ | ⟨h₁, a, o₁, h₂, hok, hrest, rfl⟩
  · exact hx.run_error (leads_stage.mp herror).1
  · have hx' := Attempt.leads_inStage_ok.mp (leads_stage.mp hok).1
    exact hx.run_ok hx' (hf a o₁ h₂ r o' hrest)

/-- A stage that may be left out. -/
theorem follows_stage_if {x : Attempt Unit} {y : Stages Unit} {s : Stage}
    {reached : History → Prop} {needed : Bool} {c : Course}
    (hx : x.Attains asks fun _ => reached) (hy : y.Follows c) :
    (do if needed then stage s x
        y : Stages Unit).Follows (.milestoneIf needed s asks reached c) := by
  cases needed with
  | true => exact follows_stage hx fun _ => hy
  | false => exact hy

/-- A step that cannot fail. -/
theorem follows_lift {x : Action α} (hasks : x.Asks asks)
    (hreached : ∀ h a, x.Leads h a → reached a h) (hf : ∀ a, (f a).Follows (rest a)) :
    (step (ExceptT.lift x) >>= f).Follows (.milestone none asks reached rest) := by
  intro o h r o' hl
  rcases leads_bind.mp hl with ⟨e, hlifted, -⟩ | ⟨h₁, a, o₁, h₂, hlifted, hrest, rfl⟩
  · have hvalue := (leads_step.mp hlifted).1
    rw [Attempt.outcome_lift, Action.leads_map] at hvalue
    obtain ⟨a, -, ha⟩ := hvalue
    cases ha
  · have hvalue := (leads_step.mp hlifted).1
    rw [Attempt.outcome_lift, Action.leads_map] at hvalue
    obtain ⟨a', hx, ha⟩ := hvalue
    obtain rfl := Except.ok.inj ha
    exact .reached (hasks.of_mem hx) (hreached h₁ a hx) (hf a o₁ h₂ r o' hrest)

theorem follows_update {g : StoreOutcome → StoreOutcome} {x : Unit → Stages Unit} {c : Course}
    (hx : (x ()).Follows c) : (update g >>= x).Follows c := by
  intro o h r o' hl
  rcases leads_bind.mp hl with ⟨e, hupdate, -⟩ | ⟨h₁, u, o₁, h₂, hupdate, hrest, rfl⟩
  · cases (Action.leads_done.mp hupdate).2
  · obtain ⟨rfl, -⟩ := Action.leads_done.mp hupdate
    exact hx o₁ h₂ r o' hrest

/-- An update that may be left out. -/
theorem follows_update_if {g : StoreOutcome → StoreOutcome} {x : Stages Unit} {c : Course}
    {needed : Bool} (hx : x.Follows c) :
    (do if needed then update g
        x : Stages Unit).Follows c := by
  cases needed with
  | true => exact follows_update hx
  | false => exact hx

/-- The last update settles the outcome. -/
theorem follows_settle {g : StoreOutcome → StoreOutcome} {settled : StoreOutcome → Prop}
    (hg : ∀ o, settled (g o)) : (update g).Follows (.finish settled) := by
  intro o h r o' hl
  obtain ⟨rfl, hp⟩ := Action.leads_done.mp hl
  cases hp
  exact .finish (hg o)

end Stages

end Wsl

end BtrfsStore
