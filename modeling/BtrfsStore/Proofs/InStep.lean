import BtrfsStore.Proofs.History
/-!
# BtrfsStore.Proofs.InStep

Two runs side by side.

`Action.InStep N R x y` says that `x` and `y` go **in step**: they ask the same
questions in the same order, whatever is answered, and end with values that `R`
relates. Questions in `N` do not count, so that either side may ask some of them
on its own.

As for the other notions of runs there is one law for sequencing,
`InStep.bind`, by which two programs are compared part by part. On two hosts
that answer alike but for the questions in `N` (`Host.AlikeBut`), two runs in step
ask the same other questions and end alike (`InStep.runs_alike`).
-/

namespace BtrfsStore

namespace History

variable {N : Query → Prop} [DecidablePred N]

/-- A history without some of its questions. -/
def without (N : Query → Prop) [DecidablePred N] (h : History) : History :=
  h.filter fun e => ¬N e.query

theorem without_append (h h' : History) : (h ++ h').without N = h.without N ++ h'.without N :=
  List.filter_append h h'

theorem without_cons_of {e : Event} (he : N e.query) (h : History) :
    without N (e :: h) = h.without N :=
  List.filter_cons_of_neg (by simpa using he)

theorem without_cons_of_not {e : Event} (he : ¬N e.query) (h : History) :
    without N (e :: h) = e :: h.without N :=
  List.filter_cons_of_pos (by simpa using he)

end History

namespace Action

variable {α β γ δ : Type}

/-! ### Going in step -/

/-- Two actions ask the same questions, but for those in `N`, and end with values
that `R` relates. -/
inductive InStep (N : Query → Prop) (R : α → β → Prop) : Action α → Action β → Prop
  | done {a : α} {b : β} (h : R a b) : InStep N R (.done a) (.done b)
  /-- Both ask a question that counts, and go on with the same answer. -/
  | ask {q : Query} {next : q.Answer → Action α} {next' : q.Answer → Action β} (hq : ¬N q)
      (hnext : ∀ answer, InStep N R (next answer) (next' answer)) :
      InStep N R (.ask q next) (.ask q next')
  | left {q : Query} {next : q.Answer → Action α} {y : Action β} (hq : N q)
      (hnext : ∀ answer, InStep N R (next answer) y) : InStep N R (.ask q next) y
  | right {q : Query} {x : Action α} {next : q.Answer → Action β} (hq : N q)
      (hnext : ∀ answer, InStep N R x (next answer)) : InStep N R x (.ask q next)

variable {N : Query → Prop} {R : α → β → Prop} {R' : γ → δ → Prop} {x : Action α} {y : Action β}

/-- Sequences go in step if their first parts end alike and what follows them
goes in step. -/
theorem InStep.bind {f : α → Action γ} {g : β → Action δ} (h : InStep N R x y)
    (hrest : ∀ a b, R a b → InStep N R' (f a) (g b)) : InStep N R' (x >>= f) (y >>= g) := by
  induction h with
  | done h => exact hrest _ _ h
  | ask hq _ ih => exact .ask hq ih
  | left hq _ ih => exact .left hq ih
  | right hq _ ih => exact .right hq ih

theorem InStep.map {u : α → γ} {v : β → δ} (h : InStep N R x y)
    (huv : ∀ a b, R a b → R' (u a) (v b)) : InStep N R' (u <$> x) (v <$> y) := by
  rw [map_eq_pure_bind, map_eq_pure_bind]
  exact h.bind fun a b hab => .done (huv a b hab)

/-- An action goes in step with itself if all its questions count. -/
theorem InStep.refl (hx : x.Asks fun q => ¬N q) : InStep N Eq x x := by
  induction x with
  | done a => exact .done rfl
  | ask q next ih => exact .ask hx.1 fun answer => ih answer (hx.2 answer)

/-- Sequences with the same first part go in step if what follows it does. -/
theorem InStep.bind_left {f : α → Action γ} {g : α → Action δ} (hx : x.Asks fun q => ¬N q)
    (hrest : ∀ a, InStep N R' (f a) (g a)) : InStep N R' (x >>= f) (x >>= g) :=
  (InStep.refl hx).bind fun a _ hab => hab ▸ hrest a

/-- Two actions that ask nothing that counts go in step, whatever they end
with. -/
theorem InStep.of_asks {V : α → Prop} {W : β → Prop} (hx : x.Asks N) (hy : y.Asks N)
    (hV : ∀ h a, x.Leads h a → V a) (hW : ∀ h b, y.Leads h b → W b) :
    InStep N (fun a b => V a ∧ W b) x y := by
  induction x with
  | ask q next ih =>
    exact .left hx.1 fun answer => ih answer (hx.2 answer) fun h a hl => hV _ a (.ask answer hl)
  | done a =>
    -- With the first action done, the second one is left.
    have ha : V a := hV [] a (.done a)
    induction y with
    | done b => exact .done ⟨ha, hW [] b (.done b)⟩
    | ask q next ih =>
      exact .right hy.1 fun answer => ih answer (hy.2 answer) fun h b hl => hW _ b (.ask answer hl)

end Action

/-! ### On two hosts -/

/-- Two hosts in related states answer every question alike that is not in `N`,
and no question ends the relation. -/
structure Host.AlikeBut {σ τ : Type} (N : Query → Prop) (S : σ → τ → Prop) (host : Host σ)
    (host' : Host τ) : Prop where
  answer : ∀ {s s' q}, S s s' → ¬N q → (host.answer q s).1 = (host'.answer q s').1
  state : ∀ {s s' q}, S s s' → ¬N q → S (host.answer q s).2 (host'.answer q s').2
  left : ∀ {s s' q}, S s s' → N q → S (host.answer q s).2 s'
  right : ∀ {s s' q}, S s s' → N q → S s (host'.answer q s').2

/-- On hosts that answer alike but for some questions, runs in step ask the same
other questions, get the same answers to them, and end alike. -/
theorem Action.InStep.runs_alike {α β σ τ : Type} {N : Query → Prop} [DecidablePred N]
    {R : α → β → Prop} {x : Action α} {y : Action β} (hxy : InStep N R x y)
    {S : σ → τ → Prop} {host : Host σ} {host' : Host τ} (halike : host.AlikeBut N S host') {s : σ}
    {s' : τ} (hs : S s s') :
    (x.record host s).without N = (y.record host' s').without N ∧
      R (x.runWith host s).1 (y.runWith host' s').1 ∧
      S (x.runWith host s).2 (y.runWith host' s').2 := by
  induction hxy generalizing s s' with
  | done hab => exact ⟨rfl, hab, hs⟩
  | @ask q next next' hq _ ih =>
    obtain ⟨hrecord, hend⟩ := ih (host.answer q s).1 (halike.state hs hq)
    rw [record, record, runWith_ask, runWith_ask, History.without_cons_of_not hq,
      History.without_cons_of_not hq, ← halike.answer hs hq, hrecord]
    exact ⟨rfl, hend⟩
  | left hq _ ih =>
    rw [record, runWith_ask, History.without_cons_of hq]
    exact ih _ (halike.left hs hq)
  | right hq _ ih =>
    rw [record, runWith_ask, History.without_cons_of hq]
    exact ih _ (halike.right hs hq)

/-! ### Hosts that recall -/

/-- A host whose answers depend on what it was asked and answered before. -/
def Host.recalling (reply : History → (q : Query) → q.Answer) : Host History where
  answer q h := (reply h q, h ++ [⟨q, reply h q⟩])

/-- Hosts that give the same replies to all questions but those in `N`, by the
history of these other questions, answer alike but for those in `N`. -/
theorem Host.alikeBut_recalling {N : Query → Prop} [DecidablePred N]
    {reply reply' : History → (q : Query) → q.Answer}
    (hreply : ∀ h h' q, h.without N = h'.without N → ¬N q → reply h q = reply' h' q) :
    (recalling reply).AlikeBut N (fun h h' => h.without N = h'.without N)
      (recalling reply') where
  answer hs hq := hreply _ _ _ hs hq
  state := by
    intro h h' q hs hq
    rw [recalling, recalling, History.without_append, History.without_append, hs,
      hreply h h' q hs hq]
  left := by
    intro h h' q hs hq
    rw [recalling, History.without_append, History.without_cons_of hq]
    simpa [History.without] using hs
  right := by
    intro h h' q hs hq
    rw [recalling, History.without_append, History.without_cons_of hq]
    simpa [History.without] using hs

end BtrfsStore
