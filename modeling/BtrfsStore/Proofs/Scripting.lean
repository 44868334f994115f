import Mathlib.Data.List.Induction
import BtrfsStore.Proofs.Text
import BtrfsStore.Scripted
/-!
# BtrfsStore.Proofs.Scripting

What a scripted host answers, whatever has happened to it before.

The host keeps each rule with the replies that are left of it. Here nothing is used up:
the rules that have been added are numbered in their order, `Chosen` says which of them
is the one for a command, and `uses` counts the commands that a rule has answered, so
that the reply is a matter of counting (`Rule.replyAt`). That the host stands in just this
way to the steps before is `rules_after`, by induction on the steps: a rule that is added
has answered nothing yet, and an answer uses up a reply of one rule and leaves the others
alone.
-/

namespace BtrfsStore.Scripted

/-! ### Rules -/

namespace Rule

/-- The rule is made for the command: the program is the same, and each fragment occurs
in the arguments with a blank between two of them. -/
def Matches (r : Rule) (c : Command) : Prop :=
  r.program = c.program ∧
    ∀ fragment ∈ r.fragments, fragment.toList <:+: (Text.joinWith " " c.args).toList

theorem answers_iff {r : Rule} {c : Command} : r.answers c = true ↔ r.Matches c := by
  simp only [answers, Matches, Bool.and_eq_true, beq_iff_eq, List.all_eq_true, Text.contains_iff]

instance (r : Rule) (c : Command) : Decidable (r.Matches c) := decidable_of_iff _ answers_iff

/-- The reply number `n` of a rule, counted from zero: when there are no more, the last
one again, and an empty output if there are none at all. -/
def replyAt (r : Rule) (n : Nat) : Reply :=
  (r.replies[n]?.or r.replies.getLast?).getD (.output "")

/-- The rule after `n` answers. The last reply is not used up. -/
def used (r : Rule) (n : Nat) : Rule :=
  { r with replies := r.replies.drop (min n (r.replies.length - 1)) }

theorem used_zero (r : Rule) : r.used 0 = r := by
  rw [used, Nat.zero_min, List.drop_zero]

theorem answers_used (r : Rule) (n : Nat) (c : Command) : (r.used n).answers c = r.answers c :=
  rfl

/-- One more answer is the next reply, and uses it up. -/
theorem next_used (r : Rule) (n : Nat) : (r.used n).next = (r.replyAt n, r.used (n + 1)) := by
  by_cases hmore : n + 1 < r.replies.length
  · -- There is a reply after this one.
    have hlt : n < r.replies.length := Nat.lt_of_succ_lt hmore
    have hdrop : r.replies.drop n
        = r.replies[n] :: r.replies[n + 1] :: r.replies.drop (n + 1 + 1) := by
      rw [List.drop_eq_getElem_cons hlt, List.drop_eq_getElem_cons hmore]
    have hreply : r.replyAt n = r.replies[n] := by
      rw [replyAt, List.getElem?_eq_getElem hlt]
      rfl
    rw [hreply, used, used, Nat.min_eq_left (by omega), Nat.min_eq_left (by omega), hdrop,
      List.drop_eq_getElem_cons hmore]
    rfl
  · rcases List.eq_nil_or_concat r.replies with hnil | ⟨before, last, hlast⟩
    · simp [used, next, replyAt, hnil]
    · -- The last reply stays.
      have hlength : r.replies.length - 1 = before.length := by simp [hlast]
      have hle : before.length ≤ n := by simpa [hlast] using hmore
      have hreply : r.replyAt n = last := by
        rw [replyAt, hlast]
        rcases Nat.lt_or_eq_of_le hle with hlt | rfl
        · rw [List.getElem?_eq_none (by simp; omega)]
          simp
        · simp
      rw [hreply, used, used, hlength, Nat.min_eq_right hle,
        Nat.min_eq_right (Nat.le_succ_of_le hle), hlast, List.concat_eq_append,
        List.drop_left]
      rfl

/-- Without a rule that answers, the reply is empty. -/
theorem reply_of_forall_not {c : Command} {rules : List Rule}
    (hnone : ∀ r ∈ rules, ¬r.answers c = true) : reply c rules = (.output "", rules) := by
  induction rules with
  | nil => rfl
  | cons r rules ih =>
    obtain ⟨hr, hrules⟩ := List.forall_mem_cons.mp hnone
    rw [reply, if_neg hr, ih hrules]

/-- The first rule that answers gives the reply; the others stay as they are. -/
theorem reply_append_cons {c : Command} {before after : List Rule} {r : Rule}
    (hbefore : ∀ r' ∈ before, ¬r'.answers c = true) (hr : r.answers c = true) :
    reply c (before ++ r :: after) = (r.next.1, before ++ r.next.2 :: after) := by
  induction before with
  | nil => rw [List.nil_append, reply, if_pos hr, List.nil_append]
  | cons r' before ih =>
    obtain ⟨hr', hrest⟩ := List.forall_mem_cons.mp hbefore
    rw [List.cons_append, reply, if_neg hr', ih hrest, List.cons_append]

end Rule

/-! ### The rule for a command -/

/-- The rule for a command is number `i` of the rules: it is made for the command, and no
rule that was added later is. -/
def Chosen (rules : List Rule) (c : Command) (i : Nat) : Prop :=
  (∃ r ∈ rules[i]?, r.Matches c) ∧ ∀ r ∈ rules.drop (i + 1), ¬r.Matches c

instance (rules : List Rule) (c : Command) (i : Nat) : Decidable (Chosen rules c i) :=
  inferInstanceAs (Decidable (_ ∧ _))

theorem Chosen.lt {rules : List Rule} {c : Command} {i : Nat} (h : Chosen rules c i) :
    i < rules.length := by
  obtain ⟨⟨r, hr, -⟩, -⟩ := h
  exact (List.getElem?_eq_some_iff.mp hr).1

/-- No rule for a command is added after the rule for it. -/
theorem Chosen.not_lt {rules : List Rule} {c : Command} {i j : Nat} (hi : Chosen rules c i)
    (hj : Chosen rules c j) : ¬i < j := by
  intro hlt
  obtain ⟨⟨r, hr, hmatches⟩, -⟩ := hj
  have hlater : (rules.drop (i + 1))[j - (i + 1)]? = some r := by
    rw [List.getElem?_drop, Nat.add_sub_cancel' hlt]
    exact hr
  exact hi.2 r (List.mem_of_getElem? hlater) hmatches

/-- There is one rule for a command at most. -/
theorem Chosen.unique {rules : List Rule} {c : Command} {i j : Nat} (hi : Chosen rules c i)
    (hj : Chosen rules c j) : i = j :=
  Nat.le_antisymm (Nat.not_lt.mp (hj.not_lt hi)) (Nat.not_lt.mp (hi.not_lt hj))

/-- If rules are made for a command, one of them is the rule for it. -/
theorem exists_chosen {rules : List Rule} {c : Command} (h : ∃ r ∈ rules, r.Matches c) :
    ∃ i, Chosen rules c i := by
  induction rules with
  | nil => simp at h
  | cons r rules ih =>
    by_cases hlater : ∃ r' ∈ rules, r'.Matches c
    · obtain ⟨i, hi⟩ := ih hlater
      exact ⟨i + 1, hi⟩
    · obtain ⟨r', hr', hmatches⟩ := h
      rcases List.mem_cons.mp hr' with rfl | hr'
      · exact ⟨0, ⟨r', rfl, hmatches⟩, fun r'' hr'' hm => hlater ⟨r'', hr'', hm⟩⟩
      · exact absurd ⟨r', hr', hmatches⟩ hlater

/-! ### Steps -/

/-- What happens to a scripted host: a rule is added, or the host is asked something. -/
inductive Step where
  | add (rule : Rule)
  | ask (query : Query)

/-- The host after a step. -/
def Step.perform (s : State) : Step → State
  | .add r => s.on r.program r.fragments r.replies
  | .ask q => (host.answer q s).2

/-- The host after some steps, if it had no rules and had run nothing before. -/
def after (start : State) (steps : List Step) : State :=
  steps.foldl Step.perform { start with rules := [], calls := [] }

/-- The rule that a step adds. -/
def Step.rule? : Step → Option Rule
  | .add r => some r
  | .ask _ => none

/-- The command that a step runs. -/
def Step.command? : Step → Option Command
  | .ask (.run c) => some c
  | _ => none

theorem Step.command?_eq_some_iff {step : Step} {c : Command} :
    step.command? = some c ↔ step = .ask (.run c) := by
  constructor
  · intro h
    cases step with
    | add r => cases h
    | ask q =>
      cases q with
      | run c' =>
        cases h
        rfl
      | _ => cases h
  · rintro rfl
    rfl

/-- The rules that steps add, in order. -/
def added (steps : List Step) : List Rule := steps.filterMap Step.rule?

/-- The commands that steps run, each with the rules that have been added before it. -/
def runs (rules : List Rule) : List Step → List (List Rule × Command)
  | [] => []
  | step :: steps =>
    (step.command?.toList.map (rules, ·)) ++ runs (rules ++ step.rule?.toList) steps

/-- How many of the commands that steps run are answered by rule number `i`. -/
def uses (steps : List Step) (i : Nat) : Nat :=
  (runs [] steps).countP fun run => Chosen run.1 run.2 i

section

variable {start : State} {steps : List Step} {step : Step}

theorem after_concat : after start (steps ++ [step]) = step.perform (after start steps) := by
  simp [after]

theorem added_concat : added (steps ++ [step]) = added steps ++ step.rule?.toList := by
  cases h : step.rule? <;> simp [added, h]

theorem runs_append (rules : List Rule) (steps steps' : List Step) :
    runs rules (steps ++ steps') = runs rules steps ++ runs (rules ++ added steps) steps' := by
  induction steps generalizing rules with
  | nil => simp [runs, added]
  | cons step steps ih =>
    have hadded : added (step :: steps) = step.rule?.toList ++ added steps := by
      cases h : step.rule? <;> simp [added, h]
    rw [List.cons_append, runs, runs, ih, hadded, List.append_assoc, List.append_assoc]

/-- A step that runs no command uses no reply. -/
theorem uses_concat_of_none (h : step.command? = none) (i : Nat) :
    uses (steps ++ [step]) i = uses steps i := by
  simp [uses, runs_append, runs, h]

/-- A command uses a reply of the rule for it. -/
theorem uses_concat_run (c : Command) (i : Nat) :
    uses (steps ++ [.ask (.run c)]) i
      = uses steps i + if Chosen (added steps) c i then 1 else 0 := by
  simp [uses, runs_append, runs, Step.command?, List.countP_singleton]

/-- A command is answered by one of the rules that have been added. -/
theorem uses_eq_zero {i : Nat} (hi : (added steps).length ≤ i) : uses steps i = 0 := by
  induction steps using List.reverseRecOn with
  | nil => rfl
  | append_singleton steps step ih =>
    have hlength : (added steps).length ≤ (added (steps ++ [step])).length := by
      rw [added_concat, List.length_append]
      exact Nat.le_add_right _ _
    have hi' : (added steps).length ≤ i := Nat.le_trans hlength hi
    cases hc : step.command? with
    | none => rw [uses_concat_of_none hc, ih hi']
    | some c =>
      obtain rfl := Step.command?_eq_some_iff.mp hc
      rw [uses_concat_run, ih hi', if_neg fun h => absurd h.lt (Nat.not_lt.mpr hi')]

/-! ### The rules of the host -/

/-- The host keeps the rules with the one that was added last in front. -/
theorem reply_reverse {rules : List Rule} {c : Command} {i : Nat} {r : Rule}
    (hi : rules[i]? = some r) (hr : r.answers c = true)
    (hlater : ∀ r' ∈ rules.drop (i + 1), ¬r'.answers c = true) :
    Rule.reply c rules.reverse = (r.next.1, (rules.set i r.next.2).reverse) := by
  obtain ⟨hlt, rfl⟩ := List.getElem?_eq_some_iff.mp hi
  have hsplit : rules.reverse
      = (rules.drop (i + 1)).reverse ++ rules[i] :: (rules.take i).reverse := by
    conv_lhs => rw [← List.take_append_drop i rules, List.drop_eq_getElem_cons hlt]
    simp
  rw [hsplit, Rule.reply_append_cons (by simpa using hlater) hr,
    List.set_eq_take_append_cons_drop, if_pos hlt]
  simp

/-- What is left of the rules after some steps. -/
def leftOf (steps : List Step) : List Rule :=
  (added steps).mapIdx fun i r => r.used (uses steps i)

theorem getElem?_leftOf (i : Nat) :
    (leftOf steps)[i]? = (added steps)[i]?.map fun r => r.used (uses steps i) :=
  List.getElem?_mapIdx

/-- A rule that has given replies is made for the same commands. -/
theorem not_answers_leftOf {c : Command} {n : Nat}
    (hnone : ∀ r ∈ (added steps).drop n, ¬r.Matches c) :
    ∀ r ∈ (leftOf steps).drop n, ¬r.answers c = true := by
  intro r hr
  obtain ⟨k, hk⟩ := List.mem_iff_getElem?.mp hr
  rw [List.getElem?_drop, getElem?_leftOf] at hk
  obtain ⟨r', hr', rfl⟩ := Option.map_eq_some_iff.mp hk
  rw [Rule.answers_used, Rule.answers_iff]
  exact hnone r' (List.mem_of_getElem? (by rw [List.getElem?_drop]; exact hr'))

/-- A command gets the next reply of the rule for it, which is used up. -/
theorem reply_of_chosen {c : Command} {i : Nat} {r : Rule} (hchosen : Chosen (added steps) c i)
    (hr : (added steps)[i]? = some r) :
    Rule.reply c (leftOf steps).reverse
      = (r.replyAt (uses steps i),
        ((leftOf steps).set i (r.used (uses steps i + 1))).reverse) := by
  obtain ⟨⟨r', hr', hmatches⟩, hlater⟩ := hchosen
  obtain rfl : r = r' := Option.some.inj (hr.symm.trans hr')
  have hleft : (leftOf steps)[i]? = some (r.used (uses steps i)) := by
    rw [getElem?_leftOf, hr]
    rfl
  rw [reply_reverse hleft (Rule.answers_iff.mpr hmatches) (not_answers_leftOf hlater),
    Rule.next_used]

/-- A command without a rule uses nothing up. -/
theorem reply_of_not_chosen {c : Command} (hnone : ¬∃ i, Chosen (added steps) c i) :
    Rule.reply c (leftOf steps).reverse = (.output "", (leftOf steps).reverse) := by
  refine Rule.reply_of_forall_not fun r hr => ?_
  have hmatch : ∀ r ∈ (added steps).drop 0, ¬r.Matches c :=
    fun r hr hm => hnone (exists_chosen ⟨r, hr, hm⟩)
  exact not_answers_leftOf hmatch r (List.mem_reverse.mp hr)

theorem leftOf_add (r : Rule) : leftOf (steps ++ [.add r]) = leftOf steps ++ [r] := by
  have huses : ∀ i, uses (steps ++ [.add r]) i = uses steps i := uses_concat_of_none rfl
  simp only [leftOf, added_concat, Step.rule?, Option.toList_some, List.mapIdx_concat, huses,
    uses_eq_zero (Nat.le_refl (added steps).length), Rule.used_zero]

theorem leftOf_ask {q : Query} (hq : (Step.ask q).command? = none) :
    leftOf (steps ++ [.ask q]) = leftOf steps := by
  have huses : ∀ i, uses (steps ++ [.ask q]) i = uses steps i := uses_concat_of_none hq
  simp only [leftOf, added_concat, Step.rule?, Option.toList_none, List.append_nil, huses]

theorem leftOf_run (c : Command) :
    leftOf (steps ++ [.ask (.run c)]) = (Rule.reply c (leftOf steps).reverse).2.reverse := by
  refine List.ext_getElem? fun j => ?_
  rw [getElem?_leftOf, added_concat, uses_concat_run]
  simp only [Step.rule?, Option.toList_none, List.append_nil]
  by_cases hsome : ∃ i, Chosen (added steps) c i
  · obtain ⟨i, hi⟩ := hsome
    obtain ⟨r, hr, -⟩ := hi.1
    rw [reply_of_chosen hi hr, List.reverse_reverse, List.getElem?_set]
    by_cases hij : i = j
    · subst hij
      have hlt : i < (leftOf steps).length := by
        rw [leftOf, List.length_mapIdx]
        exact hi.lt
      rw [if_pos hi, if_pos rfl, if_pos hlt, hr]
      rfl
    · -- No other rule is the one for the command.
      rw [if_neg fun hj => hij (hi.unique hj), if_neg hij, getElem?_leftOf]
      rfl
  · rw [reply_of_not_chosen hsome, List.reverse_reverse, getElem?_leftOf,
      if_neg fun hj => hsome ⟨j, hj⟩]
    rfl

/-- The host keeps what is left of each rule. -/
theorem rules_after : (after start steps).rules = (leftOf steps).reverse := by
  induction steps using List.reverseRecOn with
  | nil => rfl
  | append_singleton steps step ih =>
    rw [after_concat]
    cases step with
    | add r =>
      rw [leftOf_add, List.reverse_append]
      exact congrArg (List.cons r) ih
    | ask q =>
      cases q with
      | run c =>
        rw [leftOf_run, List.reverse_reverse, ← ih]
        rfl
      | _ =>
        rw [leftOf_ask rfl]
        exact ih

/-- The host notes the commands in their order. -/
theorem calls_after : (after start steps).calls = steps.filterMap Step.command? := by
  induction steps using List.reverseRecOn with
  | nil => rfl
  | append_singleton steps step ih =>
    rw [after_concat, List.filterMap_append, ← ih]
    cases step with
    | add r => exact (List.append_nil _).symm
    | ask q =>
      cases q with
      | run c => rfl
      | _ => exact (List.append_nil _).symm

end

/-! ### Answers -/

/-- **A scripted host answers by the rules added last.** After any steps, among them rules
that were added and commands that were run in any order, a command is answered by the rule
that was added last of those made for it, with the reply whose number is the number of
commands that this rule has answered before; without such a rule it succeeds and writes
nothing. No other rule is changed by that, and the commands are noted in their order. -/
theorem answers_by_last_rule (start : State) (steps : List Step) (c : Command) :
    let s := after start steps
    let ran := host.answer (.run c) s
    (∀ i r, Chosen (added steps) c i → (added steps)[i]? = some r →
        ran.1 = (r.replyAt (uses steps i)).answer c) ∧
      ((¬∃ i, Chosen (added steps) c i) → ran.1 = .ok "") ∧
      (∀ j, ¬Chosen (added steps) c j → ran.2.rules.reverse[j]? = s.rules.reverse[j]?) ∧
      s.rules.reverse = leftOf steps ∧
      s.calls = steps.filterMap Step.command? := by
  intro s ran
  have hrules : s.rules = (leftOf steps).reverse := rules_after
  have hran : ran = ((Rule.reply c s.rules).1.answer c,
      { s with rules := (Rule.reply c s.rules).2, calls := s.calls ++ [c] }) := rfl
  refine ⟨?_, ?_, ?_, ?_, calls_after⟩
  · intro i r hchosen hr
    rw [hran, hrules, reply_of_chosen hchosen hr]
  · intro hnone
    rw [hran, hrules, reply_of_not_chosen hnone]
    rfl
  · intro j hj
    have hafter : ran.2 = after start (steps ++ [.ask (.run c)]) := by
      rw [after_concat]
      rfl
    rw [hafter, rules_after, hrules, List.reverse_reverse, List.reverse_reverse, getElem?_leftOf,
      getElem?_leftOf, uses_concat_run, if_neg hj, added_concat]
    simp [Step.rule?]
  · rw [hrules, List.reverse_reverse]

end BtrfsStore.Scripted
