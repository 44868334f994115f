import BtrfsStore.Action
/-!
# BtrfsStore.Proofs.History

What actions ask and what they are answered: the **histories** of runs.

* `Action.Leads x h a` says that `x` can end with `a` after the history `h`.
  The answers in `h` are arbitrary, so that a fact about all histories is a
  fact about all hosts. `Action.record` is the history of the run on one host,
  and `leads_record` is the bridge: every run on a host is a `Leads`.
* `Action.Asks` bounds the questions of an action whatever is answered.
* `Action.Guarded` says that every question is allowed by the history before
  it. This is the shape of "`q` is asked only after `p`".

All three are recursions over the question tree with one law for sequencing,
so that a statement about a run is put together from statements about its
steps, and no step is opened twice.
-/

namespace BtrfsStore

/-! ### Events -/

/-- A question with the answer that it got. -/
structure Event where
  query : Query
  answer : query.Answer

/-- The questions of a run with their answers, in order. -/
abbrev History := List Event

/-- A command with the answer that it got. -/
abbrev Command.event (c : Command) (answer : Except Failure String) : Event := ⟨.run c, answer⟩

@[simp] theorem Command.event_inj {c c' : Command} {a a' : Except Failure String} :
    c.event a = c'.event a' ↔ c = c' ∧ a = a' := by
  constructor
  · intro h
    cases h
    exact ⟨rfl, rfl⟩
  · intro hsame
    obtain ⟨rfl, rfl⟩ := hsame
    rfl

/-- Every question of a history is allowed by what precedes it. -/
def History.Guarded (P : History → Query → Prop) (h : History) : Prop :=
  ∀ before e after, h = before ++ e :: after → P before e.query

/-- An event that is not in the first part of a history splits the second
part. -/
theorem History.split_of_notMem {h h' before after : History} {e : Event} (he : e ∉ h)
    (hsplit : h ++ h' = before ++ e :: after) :
    ∃ before', before = h ++ before' ∧ h' = before' ++ e :: after := by
  rcases List.append_eq_append_iff.mp hsplit with ⟨rest, hbefore, hrest⟩ | ⟨rest, hh, hrest⟩
  · exact ⟨rest, hbefore, hrest⟩
  · cases rest with
    | nil => exact ⟨[], by simpa using hh.symm, by simpa using hrest.symm⟩
    | cons e' rest =>
      obtain ⟨rfl, -⟩ := List.cons.inj hrest
      exact absurd (hh ▸ by simp) he

/-- The part of a history in which an event cannot be comes after it. -/
theorem History.exists_suffix {h h' before after : History} {e : Event} (he : e ∉ h')
    (hsplit : h ++ h' = before ++ e :: after) : ∃ rest, after = rest ++ h' := by
  rcases List.append_eq_append_iff.mp hsplit with ⟨rest, -, hh'⟩ | ⟨rest, -, hafter⟩
  · exact absurd (hh' ▸ by simp) he
  · cases rest with
    | nil =>
      have hin : e ∈ h' := by
        rw [List.nil_append] at hafter
        exact hafter ▸ List.mem_cons_self
      exact absurd hin he
    | cons e' rest =>
      obtain ⟨-, hafter⟩ := List.cons.inj hafter
      exact ⟨rest, hafter⟩

/-- What has to come before some questions has come if it is in a part of the
history that asks none of them. -/
theorem History.guarded_of_first {N : Query → Prop} {C : History → Prop} {h h' : History}
    (hmono : ∀ h h', C h → C (h ++ h')) (hfirst : ∀ e ∈ h, ¬N e.query) (hC : C h) :
    (h ++ h').Guarded fun before q => N q → C before := by
  intro before e after hsplit hN
  have he : e ∉ h := fun hmem => hfirst e hmem hN
  obtain ⟨rest, rfl, -⟩ := History.split_of_notMem he hsplit
  exact hmono h rest hC

/-- Nothing has to come before questions that are not asked. -/
theorem History.guarded_of_forall_not {N : Query → Prop} {C : History → Prop} {h : History}
    (hnone : ∀ e ∈ h, ¬N e.query) : h.Guarded fun before q => N q → C before := by
  intro before e after hsplit hN
  rw [hsplit] at hnone
  exact absurd hN (hnone e (by simp))

namespace Action

variable {α β σ : Type}

/-! ### Runs -/

/-- `x.Leads h a`: the action can end with `a`, having asked and been answered
what `h` says. -/
inductive Leads : Action α → History → α → Prop where
  | done (a : α) : Leads (.done a) [] a
  | ask {q : Query} {next : q.Answer → Action α} (answer : q.Answer) {h : History} {a : α} :
      Leads (next answer) h a → Leads (.ask q next) (⟨q, answer⟩ :: h) a

/-- The history of the run of an action on a host. -/
def record (host : Host σ) : Action α → σ → History
  | .done _, _ => []
  | .ask q next, s =>
    ⟨q, (host.answer q s).1⟩ :: (next (host.answer q s).1).record host (host.answer q s).2

/-- The run on a host is one of the runs of the action. -/
theorem leads_record (host : Host σ) (x : Action α) (s : σ) :
    x.Leads (x.record host s) (x.runWith host s).1 := by
  induction x generalizing s with
  | done a => exact .done a
  | ask q next ih => exact .ask _ (ih _ _)

@[simp] theorem leads_done {a b : α} {h : History} :
    (Action.done a).Leads h b ↔ h = [] ∧ b = a := by
  constructor
  · intro hl
    cases hl
    exact ⟨rfl, rfl⟩
  · intro hdone
    obtain ⟨rfl, rfl⟩ := hdone
    exact .done _

@[simp] theorem leads_ask {q : Query} {next : q.Answer → Action α} {h : History} {a : α} :
    (Action.ask q next).Leads h a ↔
      ∃ answer rest, h = ⟨q, answer⟩ :: rest ∧ (next answer).Leads rest a := by
  constructor
  · intro hl
    cases hl with
    | ask answer hnext => exact ⟨answer, _, rfl, hnext⟩
  · intro hasked
    obtain ⟨answer, rest, rfl, hnext⟩ := hasked
    exact .ask answer hnext

/-- The runs of a single question. -/
theorem leads_ask_done {q : Query} {f : q.Answer → α} {h : History} {a : α} :
    (Action.ask q fun answer => .done (f answer)).Leads h a ↔
      ∃ answer, h = [⟨q, answer⟩] ∧ a = f answer := by
  constructor
  · intro hl
    obtain ⟨answer, rest, rfl, hrest⟩ := leads_ask.mp hl
    obtain ⟨rfl, rfl⟩ := leads_done.mp hrest
    exact ⟨answer, rfl, rfl⟩
  · intro hasked
    obtain ⟨answer, rfl, rfl⟩ := hasked
    exact .ask answer (.done _)

/-- The runs of a sequence are the runs of its parts, one after the other. -/
theorem leads_bind {x : Action α} {f : α → Action β} {h : History} {b : β} :
    (x >>= f).Leads h b ↔
      ∃ h₁ a h₂, x.Leads h₁ a ∧ (f a).Leads h₂ b ∧ h = h₁ ++ h₂ := by
  induction x generalizing h with
  | done a => simp [and_assoc]
  | ask q next ih =>
    -- The first question of the sequence is that of its first part.
    simp only [ask_bind, leads_ask, ih]
    constructor
    · intro hruns
      obtain ⟨answer, _, rfl, h₁, a, h₂, hx, hf, rfl⟩ := hruns
      exact ⟨_, a, h₂, ⟨answer, h₁, rfl, hx⟩, hf, rfl⟩
    · intro hruns
      obtain ⟨_, a, h₂, ⟨answer, h₁, rfl, hx⟩, hf, rfl⟩ := hruns
      exact ⟨answer, _, rfl, h₁, a, h₂, hx, hf, rfl⟩

@[simp] theorem leads_map {x : Action α} {f : α → β} {h : History} {b : β} :
    (f <$> x).Leads h b ↔ ∃ a, x.Leads h a ∧ b = f a := by
  rw [map_eq_pure_bind, leads_bind]
  constructor
  · intro hruns
    obtain ⟨_, a, _, hx, hd, rfl⟩ := hruns
    obtain ⟨rfl, rfl⟩ := leads_done.mp hd
    exact ⟨a, by simpa using hx, rfl⟩
  · intro hruns
    obtain ⟨a, hx, rfl⟩ := hruns
    exact ⟨h, a, [], hx, .done _, by simp⟩

/-- What becomes of the value of an action changes neither what it asks nor the
state in which it leaves the host. -/
theorem record_map (host : Host σ) (f : α → β) (x : Action α) (s : σ) :
    (f <$> x).record host s = x.record host s := by
  induction x generalizing s with
  | done a => rfl
  | ask q next ih => exact congrArg (List.cons _) (ih _ _)

theorem runWith_map (host : Host σ) (f : α → β) (x : Action α) (s : σ) :
    (f <$> x).runWith host s = (f (x.runWith host s).1, (x.runWith host s).2) := by
  induction x generalizing s with
  | done a => rfl
  | ask q next ih => exact ih _ _

/-- The history of a sequence on a host: that of its first part, and that of the
second part from the state which the first one leaves. -/
theorem record_bind (host : Host σ) (x : Action α) (f : α → Action β) (s : σ) :
    (x >>= f).record host s = x.record host s
      ++ (f (x.runWith host s).1).record host (x.runWith host s).2 := by
  induction x generalizing s with
  | done a => rfl
  | ask q next ih => exact congrArg (List.cons _) (ih _ _)

/-! ### Bounds on the questions -/

/-- All questions that the action can ask satisfy `Q`. -/
def Asks (Q : Query → Prop) : Action α → Prop
  | .done _ => True
  | .ask q next => Q q ∧ ∀ answer, (next answer).Asks Q

variable {Q Q' : Query → Prop}

@[simp] theorem asks_done (a : α) : (Action.done a).Asks Q := trivial

@[simp] theorem asks_ask {q : Query} {next : q.Answer → Action α} :
    (Action.ask q next).Asks Q ↔ Q q ∧ ∀ answer, (next answer).Asks Q := Iff.rfl

@[simp] theorem asks_ite {c : Prop} [Decidable c] {x y : Action α} :
    (if c then x else y).Asks Q ↔ (c → x.Asks Q) ∧ (¬c → y.Asks Q) := by
  split <;> simp [*]

/-- What a sequence asks, its parts ask. -/
theorem Asks.bind {x : Action α} {f : α → Action β} (hx : x.Asks Q)
    (hf : ∀ a, (f a).Asks Q) : (x >>= f).Asks Q := by
  induction x with
  | done a => exact hf a
  | ask q next ih => exact ⟨hx.1, fun answer => ih answer (hx.2 answer)⟩

theorem Asks.map {x : Action α} (f : α → β) (hx : x.Asks Q) : (f <$> x).Asks Q :=
  hx.bind fun _ => trivial

/-- A bound may be widened. -/
theorem Asks.mono {x : Action α} (hx : x.Asks Q) (hQ : ∀ q, Q q → Q' q) : x.Asks Q' := by
  induction x with
  | done a => trivial
  | ask q next ih => exact ⟨hQ q hx.1, fun answer => ih answer (hx.2 answer)⟩

/-- The questions of a run are among those that the action can ask. -/
theorem Asks.of_mem {x : Action α} (hx : x.Asks Q) {h : History} {a : α} (hl : x.Leads h a) :
    ∀ e ∈ h, Q e.query := by
  induction hl with
  | done a => simp
  | ask answer _ ih =>
    simp only [List.forall_mem_cons]
    exact ⟨hx.1, ih (hx.2 answer)⟩

/-! ### Questions allowed by the history -/

/-- Every question that the action can ask, the run having begun with `h`, is
allowed by what precedes it. -/
def Guarded (P : History → Query → Prop) (h : History) : Action α → Prop
  | .done _ => True
  | .ask q next => P h q ∧ ∀ answer, (next answer).Guarded P (h ++ [⟨q, answer⟩])

variable {P : History → Query → Prop}

@[simp] theorem guarded_done (h : History) (a : α) : (Action.done a).Guarded P h := trivial

@[simp] theorem guarded_ask {h : History} {q : Query} {next : q.Answer → Action α} :
    (Action.ask q next).Guarded P h ↔
      P h q ∧ ∀ answer, (next answer).Guarded P (h ++ [⟨q, answer⟩]) := Iff.rfl

/-- The second part of a sequence may rely on what the run of the first part
has left in the history. -/
theorem Guarded.bind {x : Action α} {f : α → Action β} {h : History} (hx : x.Guarded P h)
    (hf : ∀ h' a, x.Leads h' a → (f a).Guarded P (h ++ h')) : (x >>= f).Guarded P h := by
  induction x generalizing h with
  | done a => simpa using hf [] a (.done a)
  | ask q next ih =>
    -- The answer joins the history, so that the induction is for any history.
    refine ⟨hx.1, fun answer => ih answer (hx.2 answer) fun h' a hl => ?_⟩
    simpa using hf (⟨q, answer⟩ :: h') a (.ask answer hl)

theorem Guarded.map {x : Action α} {h : History} (f : α → β) (hx : x.Guarded P h) :
    (f <$> x).Guarded P h :=
  hx.bind fun _ _ _ => trivial

/-- An invariant of the history that allows all questions of an action, and
outlasts them whatever is answered. -/
theorem Asks.guarded_of_invariant {I : History → Prop} {x : Action α} (hx : x.Asks Q)
    (hallowed : ∀ h q, I h → Q q → P h q)
    (hkept : ∀ h q answer, I h → Q q → I (h ++ [⟨q, answer⟩])) {h : History} (hI : I h) :
    x.Guarded P h := by
  induction x generalizing h with
  | done a => trivial
  | ask q next ih =>
    obtain ⟨hq, hnext⟩ := hx
    exact ⟨hallowed h q hI hq, fun answer => ih answer (hnext answer) (hkept h q answer hI hq)⟩

/-- Questions that are allowed after any history need no look at it. -/
theorem Asks.guarded {x : Action α} (hx : x.Asks Q) (hQ : ∀ h q, Q q → P h q) (h : History) :
    x.Guarded P h :=
  hx.guarded_of_invariant (I := fun _ => True) (fun h q _ => hQ h q) (fun _ _ _ _ _ => trivial)
    trivial

/-- In a run of a guarded action every question is allowed. -/
theorem Guarded.history {x : Action α} {h₀ h : History} {a : α} (hx : x.Guarded P h₀)
    (hl : x.Leads h a) :
    ∀ before e after, h = before ++ e :: after → P (h₀ ++ before) e.query := by
  induction hl generalizing h₀ with
  | done a => simp
  | @ask q next answer rest a _ ih =>
    -- The question is the first one of the run, or one of the rest.
    intro before e after hsplit
    cases before with
    | nil =>
      obtain ⟨rfl, rfl⟩ : ⟨q, answer⟩ = e ∧ rest = after := by simpa using hsplit
      simpa using hx.1
    | cons e' before =>
      obtain ⟨rfl, hrest⟩ : ⟨q, answer⟩ = e' ∧ rest = before ++ e :: after := by
        simpa using hsplit
      simpa using ih (hx.2 answer) before e after hrest

end Action

/-! ### Attempts

The laws of `Attempt.outcome`, which open an attempt into an action: with them
`simp` runs an attempt symbolically, one question at a time. -/

/-- A command succeeds or fails. -/
@[simp] theorem forall_except {ε α : Type} {p : Except ε α → Prop} :
    (∀ r, p r) ↔ (∀ e, p (.error e)) ∧ ∀ a, p (.ok a) := by
  constructor
  · intro h
    exact ⟨fun e => h (.error e), fun a => h (.ok a)⟩
  · rintro ⟨herror, hok⟩ (e | a)
    · exact herror e
    · exact hok a

theorem exists_ok_of_any {ε α : Type} {r : Except ε α} {p : α → Bool}
    (h : r.toOption.any p = true) : ∃ a, r = .ok a ∧ p a = true := by
  cases r with
  | error e => cases h
  | ok a => exact ⟨a, rfl, h⟩

namespace Action

variable {α β : Type}

@[simp] theorem done_map (a : α) (f : α → β) : f <$> Action.done a = .done (f a) := rfl

@[simp] theorem ask_map (q : Query) (next : q.Answer → Action α) (f : α → β) :
    f <$> Action.ask q next = .ask q fun answer => f <$> next answer := rfl

end Action

namespace Attempt

variable {α β : Type}

/-- What a sequence of attempts goes on with when its first part has ended. -/
def andThen (f : α → Attempt β) : Except Failure α → Action (Except Failure β)
  | .ok a => (f a).outcome
  | .error e => .done (.error e)

@[simp] theorem andThen_ok (f : α → Attempt β) (a : α) : andThen f (.ok a) = (f a).outcome := rfl

@[simp] theorem andThen_error (f : α → Attempt β) (e : Failure) :
    andThen f (.error e) = .done (.error e) := rfl

/-- The second part of a sequence of attempts goes on from a value, and is left out after a
failure. -/
@[simp] theorem outcome_bind (x : Attempt α) (f : α → Attempt β) :
    (x >>= f).outcome = x.outcome >>= andThen f := by
  refine congrArg (Action.bind x.outcome) (funext fun r => ?_)
  cases r <;> rfl

@[simp] theorem outcome_map (f : α → β) (x : Attempt α) :
    (f <$> x).outcome = Except.map f <$> x.outcome := by
  refine congrArg (Action.bind x.outcome) (funext fun r => ?_)
  cases r <;> rfl

@[simp] theorem outcome_discard (x : Attempt α) :
    (discard x).outcome = Except.map (fun _ => ()) <$> x.outcome := outcome_map _ x

@[simp] theorem outcome_pure (a : α) : (pure a : Attempt α).outcome = .done (.ok a) := rfl

@[simp] theorem outcome_throw (e : Failure) :
    (throw e : Attempt α).outcome = .done (.error e) := rfl

@[simp] theorem outcome_lift (x : Action α) :
    outcome (ExceptT.lift x) = Except.ok <$> x := rfl

@[simp] theorem outcome_liftM (x : Action α) :
    (liftM x : Attempt α).outcome = Except.ok <$> x := rfl

@[simp] theorem outcome_observe (x : Attempt α) :
    x.observe.outcome = Except.ok <$> x.outcome := rfl

@[simp] theorem outcome_ofExcept (x : Except Failure α) : (ofExcept x).outcome = .done x := rfl

@[simp] theorem outcome_mapFailure (f : Failure → Failure) (x : Attempt α) :
    (x.mapFailure f).outcome = Except.mapError f <$> x.outcome := rfl

@[simp] theorem outcome_inStage (s : Stage) (x : Attempt α) :
    (x.inStage s).outcome = Except.mapError (.stage s) <$> x.outcome := rfl

@[simp] theorem outcome_ite (c : Prop) [Decidable c] (x y : Attempt α) :
    (if c then x else y).outcome = if c then x.outcome else y.outcome := by
  split <;> rfl

@[simp] theorem orIgnore_eq (x : Attempt α) : x.orIgnore = (fun _ => ()) <$> x.outcome := rfl

@[simp] theorem outcome_runWithin (limit : Nat) (target : Target) (description program : String)
    (args : List String) :
    (target.runWithin limit description program args).outcome
      = .ask (.run { target, description, program, args, limit }) .done := rfl

@[simp] theorem outcome_run (target : Target) (description program : String)
    (args : List String) :
    (target.run description program args).outcome
      = .ask (.run { target, description, program, args, limit := Limit.standard }) .done := rfl

@[simp] theorem outcome_feed (target : Target) (description program : String)
    (args : List String) (input : String) :
    (target.feed description program args input).outcome
      = .ask (.run
          { target, description, program, args, input := some input, limit := Limit.quick })
        .done := rfl

/-- A sequence of attempts either fails in its first part, and asks nothing
more, or runs its second part after it. -/
theorem leads_bind {x : Attempt α} {f : α → Attempt β} {h : History} {r : Except Failure β} :
    (x >>= f).outcome.Leads h r ↔
      (∃ e, x.outcome.Leads h (.error e) ∧ r = .error e) ∨
      ∃ h₁ a h₂, x.outcome.Leads h₁ (.ok a) ∧ (f a).outcome.Leads h₂ r ∧ h = h₁ ++ h₂ := by
  rw [outcome_bind, Action.leads_bind]
  constructor
  · intro hruns
    obtain ⟨h₁, a | a, h₂, hx, hf, rfl⟩ := hruns
    · obtain ⟨rfl, rfl⟩ := Action.leads_done.mp hf
      exact .inl ⟨a, by simpa using hx, rfl⟩
    · exact .inr ⟨h₁, a, h₂, hx, hf, rfl⟩
  · intro hruns
    rcases hruns with ⟨e, hx, rfl⟩ | ⟨h₁, a, h₂, hx, hf, rfl⟩
    · exact ⟨h, .error e, [], hx, .done _, by simp⟩
    · exact ⟨h₁, .ok a, h₂, hx, hf, rfl⟩

/-- A sequence of attempts succeeds only if both parts do. -/
theorem leads_bind_ok {x : Attempt α} {f : α → Attempt β} {h : History} {b : β} :
    (x >>= f).outcome.Leads h (.ok b) ↔
      ∃ h₁ a h₂, x.outcome.Leads h₁ (.ok a) ∧ (f a).outcome.Leads h₂ (.ok b) ∧ h = h₁ ++ h₂ := by
  rw [leads_bind]
  constructor
  · intro hruns
    rcases hruns with ⟨e, -, he⟩ | hok
    · cases he
    · exact hok
  · exact .inr

/-- An attempt goes on after another one that it observes, whatever has become of it. -/
theorem outcome_observe_bind (x : Attempt α) (f : Except Failure α → Attempt β) :
    (x.observe >>= f).outcome = x.outcome >>= fun r => (f r).outcome := by
  rw [outcome_bind, outcome_observe, bind_map_left]
  rfl

/-- An attempt goes on after another one whose failure it ignores. -/
theorem outcome_orIgnore_bind (x : Attempt α) (f : Unit → Attempt β) :
    ((liftM x.orIgnore : Attempt Unit) >>= f).outcome = x.outcome >>= fun _ => (f ()).outcome := by
  rw [outcome_bind, outcome_liftM, orIgnore_eq, bind_map_left, bind_map_left]
  rfl

/-- The runs of an observed attempt and of what follows it. -/
theorem leads_observe_bind {x : Attempt α} {f : Except Failure α → Attempt β} {h : History}
    {r : Except Failure β} : (x.observe >>= f).outcome.Leads h r ↔
      ∃ h₁ a h₂, x.outcome.Leads h₁ a ∧ (f a).outcome.Leads h₂ r ∧ h = h₁ ++ h₂ := by
  rw [outcome_observe_bind, Action.leads_bind]

theorem leads_orIgnore_bind {x : Attempt α} {f : Unit → Attempt β} {h : History}
    {r : Except Failure β} : ((liftM x.orIgnore : Attempt Unit) >>= f).outcome.Leads h r ↔
      ∃ h₁ a h₂, x.outcome.Leads h₁ a ∧ (f ()).outcome.Leads h₂ r ∧ h = h₁ ++ h₂ := by
  rw [outcome_orIgnore_bind, Action.leads_bind]

theorem asks_bind {Q : Query → Prop} {x : Attempt α} {f : α → Attempt β}
    (hx : x.outcome.Asks Q) (hf : ∀ a, (f a).outcome.Asks Q) : (x >>= f).outcome.Asks Q := by
  rw [outcome_bind]
  refine hx.bind fun r => ?_
  cases r with
  | error e => trivial
  | ok a => exact hf a

theorem asks_discard {Q : Query → Prop} {x : Attempt α} (hx : x.outcome.Asks Q) :
    (discard x).outcome.Asks Q := by
  rw [outcome_discard]
  exact hx.map _

theorem asks_inStage {Q : Query → Prop} {x : Attempt α} {s : Stage} (hx : x.outcome.Asks Q) :
    (x.inStage s).outcome.Asks Q :=
  hx.map _

/-- Only a first part that succeeds is followed by more questions. -/
theorem guarded_bind {P : History → Query → Prop} {x : Attempt α} {f : α → Attempt β}
    {h : History} (hx : x.outcome.Guarded P h)
    (hf : ∀ h' a, x.outcome.Leads h' (.ok a) → (f a).outcome.Guarded P (h ++ h')) :
    (x >>= f).outcome.Guarded P h := by
  rw [outcome_bind]
  refine hx.bind fun h' r hl => ?_
  cases r with
  | error e => trivial
  | ok a => exact hf h' a hl

/-- What follows an observed attempt may rely on its history, also after a failure. -/
theorem guarded_observe_bind {P : History → Query → Prop} {x : Attempt α}
    {f : Except Failure α → Attempt β} {h : History} (hx : x.outcome.Guarded P h)
    (hf : ∀ h' a, x.outcome.Leads h' a → (f a).outcome.Guarded P (h ++ h')) :
    (x.observe >>= f).outcome.Guarded P h := by
  rw [outcome_observe_bind]
  exact hx.bind hf

theorem guarded_orIgnore_bind {P : History → Query → Prop} {x : Attempt α}
    {f : Unit → Attempt β} {h : History} (hx : x.outcome.Guarded P h)
    (hf : ∀ h' a, x.outcome.Leads h' a → (f ()).outcome.Guarded P (h ++ h')) :
    ((liftM x.orIgnore : Attempt Unit) >>= f).outcome.Guarded P h := by
  rw [outcome_orIgnore_bind]
  exact hx.bind hf

theorem guarded_discard {P : History → Query → Prop} {x : Attempt α} {h : History}
    (hx : x.outcome.Guarded P h) : (discard x).outcome.Guarded P h := by
  rw [outcome_discard]
  exact hx.map _

theorem guarded_inStage {P : History → Query → Prop} {x : Attempt α} {h : History} {s : Stage}
    (hx : x.outcome.Guarded P h) : (x.inStage s).outcome.Guarded P h :=
  hx.map _

/-- The runs of a command. -/
theorem leads_runWithin {limit : Nat} {target : Target} {description program : String}
    {args : List String} {h : History} {r : Except Failure String} :
    (target.runWithin limit description program args).outcome.Leads h r ↔
      h = [Command.event { target, description, program, args, limit } r] := by
  rw [outcome_runWithin]
  refine Action.leads_ask_done.trans ⟨?_, fun h => ⟨r, h, rfl⟩⟩
  intro hran
  obtain ⟨a, h, rfl⟩ := hran
  exact h

/-- An observed command is followed by what its answer calls for. -/
theorem leads_observe_runWithin {limit : Nat} {target : Target} {description program : String}
    {args : List String} {f : Except Failure String → Attempt β} {h : History}
    {r : Except Failure β} :
    ((target.runWithin limit description program args).observe >>= f).outcome.Leads h r ↔
      ∃ a h', h = Command.event { target, description, program, args, limit } a :: h' ∧
        (f a).outcome.Leads h' r := by
  rw [outcome_observe_bind, outcome_runWithin, Action.ask_bind]
  exact Action.leads_ask

/-- A command whose failure is ignored is followed by the same whatever it answers. -/
theorem leads_orIgnore_runWithin {limit : Nat} {target : Target} {description program : String}
    {args : List String} {f : Unit → Attempt β} {h : History} {r : Except Failure β} :
    ((liftM (target.runWithin limit description program args).orIgnore : Attempt Unit)
        >>= f).outcome.Leads h r ↔
      ∃ a h', h = Command.event { target, description, program, args, limit } a :: h' ∧
        (f ()).outcome.Leads h' r := by
  rw [outcome_orIgnore_bind, outcome_runWithin, Action.ask_bind]
  exact Action.leads_ask

/-- The runs of a command whose output is not used. -/
theorem leads_discard_runWithin {limit : Nat} {target : Target} {description program : String}
    {args : List String} {h : History} {r : Except Failure Unit} :
    (discard (target.runWithin limit description program args)
        : Attempt Unit).outcome.Leads h r ↔
      ∃ a, h = [Command.event { target, description, program, args, limit } a] ∧
        r = Except.map (fun _ => ()) a := by
  simp only [outcome_discard, Action.leads_map, leads_runWithin]

/-- A command whose output is not used, in a run in which it succeeds. -/
theorem leads_discard_ok {c : Command} {h : History} {u : Unit}
    (hl : (discard (ExceptT.mk (Action.query (.run c)) : Attempt String)
      : Attempt Unit).outcome.Leads h (.ok u)) : ∃ output, h = [c.event (.ok output)] := by
  rw [outcome_discard, Action.leads_map] at hl
  obtain ⟨answer, hran, hok⟩ := hl
  obtain ⟨a, rfl, rfl⟩ := Action.leads_ask_done.mp hran
  rcases answer with f | output
  · cases hok
  · exact ⟨output, rfl⟩

/-- The runs in which a command without a use for its output succeeds, as the
last one of an attempt. -/
theorem leads_runWithin_pure_ok {limit : Nat} {target : Target} {description program : String}
    {args : List String} {h : History} {a b : α} :
    (do discard <| target.runWithin limit description program args
        pure a : Attempt α).outcome.Leads h (.ok b) ↔
      ∃ output, h = [Command.event { target, description, program, args, limit } (.ok output)] ∧
        b = a := by
  rw [leads_bind_ok]
  constructor
  · intro hruns
    obtain ⟨h₁, u, h₂, hrun, hdone, rfl⟩ := hruns
    obtain ⟨rfl, hb⟩ := Action.leads_done.mp hdone
    obtain ⟨f | output, rfl, ha⟩ := leads_discard_runWithin.mp hrun
    · cases ha
    · exact ⟨output, rfl, Except.ok.inj hb⟩
  · intro hruns
    obtain ⟨output, rfl, rfl⟩ := hruns
    exact ⟨_, (), [], leads_discard_runWithin.mpr ⟨.ok output, rfl, rfl⟩, .done _, rfl⟩

@[simp] theorem guarded_runWithin {P : History → Query → Prop} {limit : Nat} {target : Target}
    {description program : String} {args : List String} {h : History} :
    (target.runWithin limit description program args).outcome.Guarded P h ↔
      P h (.run { target, description, program, args, limit }) := by
  simp

/-- Each part of a sequence has the stage of the whole. -/
theorem inStage_bind {β : Type} (s : Stage) (x : Attempt α) (f : α → Attempt β) :
    (x >>= f).inStage s = x.inStage s >>= fun a => (f a).inStage s := by
  have houtcome : ((x >>= f).inStage s).outcome
      = (x.inStage s >>= fun a => (f a).inStage s).outcome := by
    rw [outcome_inStage, outcome_bind, outcome_bind, outcome_inStage, map_bind,
      bind_map_left]
    refine congrArg (Action.bind x.outcome) (funext fun r => ?_)
    cases r <;> rfl
  exact houtcome

/-- The name of a stage changes neither the questions nor a success. -/
theorem leads_inStage_ok {s : Stage} {x : Attempt α} {h : History} {a : α} :
    (x.inStage s).outcome.Leads h (.ok a) ↔ x.outcome.Leads h (.ok a) := by
  simp only [outcome_inStage, Action.leads_map]
  constructor
  · intro hruns
    obtain ⟨e | b, hx, hr⟩ := hruns
    · cases hr
    · cases hr
      exact hx
  · intro hx
    exact ⟨.ok a, hx, rfl⟩

/-- A stage puts its name on a failure. -/
theorem leads_inStage_error {s : Stage} {x : Attempt α} {h : History} {e : Failure} :
    (x.inStage s).outcome.Leads h (.error e) ↔
      ∃ f, x.outcome.Leads h (.error f) ∧ e = .stage s f := by
  simp only [outcome_inStage, Action.leads_map]
  constructor
  · intro hruns
    obtain ⟨f | a, hx, hr⟩ := hruns
    · cases hr
      exact ⟨f, hx, rfl⟩
    · cases hr
  · intro hruns
    obtain ⟨f, hx, rfl⟩ := hruns
    exact ⟨.error f, hx, rfl⟩

end Attempt

end BtrfsStore
