import BtrfsStore.Proofs.History
import BtrfsStore.Retry
/-!
# BtrfsStore.Proofs.Polling

The histories of a bounded retry.

A poll is a number of *rounds*, attempts that find nothing and are followed by
a pause, and then one last attempt, whose answer is that of the poll. The last
attempt finds nothing only if no round is left (`leads_pollMore`). A fact about
what a single attempt asks or is answered carries over to the whole poll by
`Rounds.forall_mem` and `asks_poll`.

Most probes keep a state between attempts, so everything is stated for
`StateT`; `outcome_poll_liftM` covers the probes that keep none.
-/

namespace BtrfsStore.Retry

variable {σ α : Type} {interval : Nat} {probe : StateT σ Action (Option α)}

/-- `Rounds interval probe n s h s'`: from the state `s`, `n` attempts in a row
find nothing. Their history, the pauses included, is `h`, and they leave the
state `s'`. -/
inductive Rounds (interval : Nat) (probe : StateT σ Action (Option α)) :
    Nat → σ → History → σ → Prop where
  | zero (s : σ) : Rounds interval probe 0 s [] s
  | succ {n : Nat} {s s₁ s₂ : σ} {h h' : History} :
      (probe.run s).Leads h (none, s₁) → Rounds interval probe n s₁ h' s₂ →
      Rounds interval probe (n + 1) s (h ++ ⟨.sleep interval, ()⟩ :: h') s₂

/-- What holds of the events of a single attempt without success, and of the
pauses, holds of all events in a number of rounds. -/
theorem Rounds.forall_mem {K : Event → Prop}
    (hprobe : ∀ s h s', (probe.run s).Leads h (none, s') → ∀ e ∈ h, K e)
    (hsleep : K ⟨.sleep interval, ()⟩) {n : Nat} {s s' : σ} {h : History}
    (hr : Rounds interval probe n s h s') : ∀ e ∈ h, K e := by
  induction hr with
  | zero s => simp
  | succ hl _ ih =>
    simp only [List.forall_mem_append, List.forall_mem_cons]
    exact ⟨hprobe _ _ _ hl, hsleep, ih⟩

/-- What a poll with `more` further attempts does after an attempt: it ends
with what was found, or waits and goes on. -/
def afterAttempt (interval : Nat) (probe : StateT σ Action (Option α)) (more : Nat) :
    Option α × σ → Action (Option α × σ)
  | (some a, s) => .done (some a, s)
  | (none, s) => .ask (.sleep interval) fun _ => (pollMore interval probe more).run s

theorem pollMore_succ_run (more : Nat) (s : σ) :
    (pollMore interval probe (more + 1)).run s
      = probe.run s >>= afterAttempt interval probe more := by
  simp only [pollMore, StateT.run_bind]
  refine congrArg (Action.bind (probe.run s)) (funext fun p => ?_)
  obtain ⟨_ | a, s'⟩ := p <;> rfl

/-- The runs of a poll: rounds, and then the attempt that decides. -/
theorem leads_pollMore {more : Nat} {s s' : σ} {h : History} {v : Option α} :
    ((pollMore interval probe more).run s).Leads h (v, s') ↔
      ∃ n ≤ more, ∃ h₀ s₁ h₁, Rounds interval probe n s h₀ s₁ ∧
        (probe.run s₁).Leads h₁ (v, s') ∧ h = h₀ ++ h₁ ∧ (v = none → n = more) := by
  induction more generalizing s h with
  | zero =>
    constructor
    · intro hl
      exact ⟨0, Nat.le_refl 0, [], s, h, .zero s, hl, rfl, fun _ => rfl⟩
    · intro hrounds
      obtain ⟨n, hn, h₀, s₁, h₁, hr, hl, rfl, -⟩ := hrounds
      obtain rfl : n = 0 := Nat.le_zero.mp hn
      cases hr
      exact hl
  | succ more ih =>
    -- The first attempt decides, or it is the first of the rounds of the rest.
    rw [pollMore_succ_run, Action.leads_bind]
    constructor
    · intro hruns
      obtain ⟨h₁, ⟨_ | a, s₁⟩, h₂, hprobe, hrest, rfl⟩ := hruns
      · obtain ⟨⟨⟩, rest, rfl, htail⟩ := Action.leads_ask.mp hrest
        obtain ⟨n, hn, h₀, s₂, h₃, hr, hl, rfl, hv⟩ := ih.mp htail
        refine ⟨n + 1, Nat.succ_le_succ hn, _, s₂, h₃, .succ hprobe hr, hl, ?_, ?_⟩
        · simp
        · exact fun h => congrArg Nat.succ (hv h)
      · obtain ⟨rfl, hp⟩ := Action.leads_done.mp hrest
        obtain ⟨rfl, rfl⟩ : v = some a ∧ s' = s₁ := by simpa using hp
        exact ⟨0, Nat.zero_le _, [], s, h₁, .zero s, hprobe, by simp, by simp⟩
    · intro hrounds
      obtain ⟨n, hn, h₀, s₁, h₁, hr, hl, rfl, hv⟩ := hrounds
      cases hr with
      | zero s =>
        obtain ⟨a, rfl⟩ : ∃ a, v = some a := by
          cases v with
          | none => exact absurd (hv rfl) (Nat.succ_ne_zero more).symm
          | some a => exact ⟨a, rfl⟩
        exact ⟨h₁, (some a, s'), [], hl, .done _, by simp⟩
      | @succ n _ s₂ _ h₂ h₃ hprobe hr =>
        have hrest : ((pollMore interval probe more).run s₂).Leads (h₃ ++ h₁) (v, s') :=
          ih.mpr ⟨n, Nat.le_of_succ_le_succ hn, h₃, s₁, h₁, hr, hl, rfl,
            fun h => Nat.succ.inj (hv h)⟩
        exact ⟨h₂, (none, s₂), _, hprobe, .ask (q := .sleep interval) () hrest, by simp⟩

/-- A poll asks what its attempts ask, and waits in between. -/
theorem asks_poll {Q : Query → Prop} {r : Retry} (hprobe : ∀ s, (probe.run s).Asks Q)
    (hsleep : Q (.sleep r.interval)) (s : σ) : ((r.poll probe).run s).Asks Q := by
  unfold poll
  generalize r.attempts - 1 = more
  induction more generalizing s with
  | zero => exact hprobe s
  | succ more ih =>
    rw [pollMore_succ_run]
    refine (hprobe s).bind fun p => ?_
    obtain ⟨_ | a, s'⟩ := p
    · exact ⟨hsleep, fun _ => ih s'⟩
    · trivial

/-- A probe without a state polls like one with a state that says nothing. -/
theorem outcome_poll_liftM (r : Retry) (probe : Action (Option α)) :
    (r.poll (liftM probe : Attempt (Option α))).outcome
      = (fun p => .ok p.1) <$> (r.poll (StateT.lift probe : StateT Unit Action _)).run () := by
  unfold poll
  generalize r.attempts - 1 = more
  induction more with
  | zero => simp [pollMore, map_eq_pure_bind]
  | succ more ih =>
    rw [pollMore_succ_run]
    -- On both sides the probe comes first; after it, the two agree case by case.
    simp only [pollMore, Attempt.outcome_bind, Attempt.outcome_liftM, StateT.run_lift,
      bind_assoc, map_eq_pure_bind, pure_bind]
    refine congrArg (Action.bind probe) (funext fun v => ?_)
    cases v with
    | none =>
      refine congrArg (Action.ask (.sleep r.interval)) (funext fun _ => ?_)
      exact ih.trans (map_eq_pure_bind _ _)
    | some a => rfl

end BtrfsStore.Retry
