import BtrfsStore.Proofs.Course.Wsl
import BtrfsStore.Scripted
/-!
# BtrfsStore.Proofs.Gates

The milestones of a run inside a WSL distro are gates: what belongs to one of
them is asked only after all earlier ones have been reached.

The order of all milestones is what `RequestRun` says, along with what each of
them takes and shows. Two consequences are drawn from it here. One concerns the
steps that change the disk or what is on it: none of them is taken before the
session has been found elevated. The other concerns the failures of a run: each
names one milestone, that at which the run has ended.
-/

namespace BtrfsStore

/-- The commands of a scripted host fail with failures of commands. -/
theorem Scripted.failsPlainly : Scripted.host.FailsPlainly := by
  intro c s f hf
  have hreply : ∀ reply : Scripted.Reply, reply.answer c = .error f → f.IsPlain := by
    intro reply hreply
    cases reply <;> cases hreply <;> rfl
  exact hreply _ hf

namespace Wsl

open Attempt VirtualDisk

/-! ### The elevated session -/

/-- A script that creates, partitions or detaches a disk. -/
inductive ChangesDisk : String → Prop
  | create (disk : Path) (bytes : Nat) : ChangesDisk (createScript disk bytes)
  | partition (disk : Path) : ChangesDisk (partitionScript disk)
  | dismount (disk : Path) : ChangesDisk (dismountScript disk)

/-- The programs that take a store down, format, mount, fill and give it
away. -/
def elevatedPrograms : List String :=
  ["systemctl", "rm", "umount", "findmnt", "wipefs", "mkfs.btrfs", "mount", "tee", "btrfs", "chown"]

/-- Whether a question belongs to a step that takes an elevated session. -/
def NeedsElevation : Query → Prop
  | .run c =>
    c.program ∈ elevatedPrograms ∨
      (c.program = wslProgram ∧ (c.args.head? = some "--mount" ∨ c.args.head? = some "--unmount")) ∨
      (c.program = powershellProgram ∧
        ∃ script, c.args = powershellArgs script ∧ ChangesDisk script)
  | .removeFile _ => True
  | _ => False

theorem ChangesDisk.head? {script : String} (h : ChangesDisk script) :
    script.toList.head? = some '$' := by
  -- Every such script first sees to it that a failure stops it.
  have hfirst : ∀ rest, (stopOnFailure ++ rest).toList.head? = some '$' := by
    intro rest
    simp [stopOnFailure]
  cases h with
  | create disk bytes =>
    simp only [createScript, String.append_assoc]
    exact hfirst _
  | partition disk =>
    simp only [partitionScript, Text.joinWith, String.intercalate_cons_cons, String.append_assoc]
    exact hfirst _
  | dismount disk =>
    simp only [dismountScript, String.append_assoc]
    exact hfirst _

/-- No command that takes the step needs an elevated session. -/
def Open (s : Step) : Prop := ∀ c : Command, c.Takes s → ¬NeedsElevation (.run c)

theorem open_of_program {target : Target} {name program : String} {args : List String}
    (hprogram : program ∉ wslProgram :: powershellProgram :: elevatedPrograms) :
    Open ⟨target, name, program :: args⟩ := by
  intro c hc hneeds
  obtain ⟨-, -, hwords⟩ := hc
  obtain ⟨rfl, -⟩ := List.cons_prefix_cons.mp hwords
  rcases hneeds with hmem | ⟨hwsl, -⟩ | ⟨hpowershell, -⟩
  · exact hprogram (by simp [hmem])
  · exact hprogram (by simp [hwsl])
  · exact hprogram (by simp [hpowershell])

/-- A script that only asks is not one that changes a disk. -/
theorem open_of_script {target : Target} {name script : String}
    (hscript : script.toList.head? ≠ some '$') :
    Open ⟨target, name, powershellProgram :: powershellArgs script⟩ := by
  intro c hc hneeds
  obtain ⟨-, -, hwords⟩ := hc
  obtain ⟨hprogram, hargs⟩ := List.cons_prefix_cons.mp hwords
  rcases hneeds with hmem | ⟨hwsl, -⟩ | ⟨-, script', hsame, hchanges⟩
  · rw [← hprogram] at hmem
    exact absurd hmem (by decide)
  · rw [← hprogram] at hwsl
    exact absurd hwsl (by decide)
  · rw [hsame] at hargs
    have hequal : powershellArgs script = powershellArgs script' := hargs.eq_of_length rfl
    obtain rfl : script = script' := by simpa [powershellArgs] using hequal
    exact hscript hchanges.head?

theorem open_chooseSteps : ∀ s ∈ chooseSteps, Open s := by
  simp only [chooseSteps, List.forall_mem_singleton]
  intro c hc hneeds
  obtain ⟨-, -, hwords⟩ := hc
  obtain ⟨hprogram, hargs⟩ := List.cons_prefix_cons.mp hwords
  rcases hneeds with hmem | ⟨-, hmount⟩ | ⟨hpowershell, -⟩
  · rw [← hprogram] at hmem
    exact absurd hmem (by decide)
  · obtain ⟨rest, hrest⟩ := hargs
    rw [← hrest] at hmount
    simp at hmount
  · rw [← hprogram] at hpowershell
    exact absurd hpowershell (by decide)

/-- All that makes a distro ready is open to all. -/
theorem open_readySteps (distro : String) : ∀ s ∈ readySteps distro, Open s := by
  simp only [readySteps, startSteps, kernelSteps, toolSteps, systemdSteps, dockerSteps,
    elevationSteps, List.forall_mem_append, List.forall_mem_cons, List.not_mem_nil,
    IsEmpty.forall_iff, implies_true, and_true]
  have hservice : Open ⟨.host, "check Docker Desktop service",
      powershellProgram :: powershellArgs serviceScript⟩ := open_of_script (by decide)
  have hpipe : Open ⟨.host, "check Docker engine pipe",
      powershellProgram :: powershellArgs pipeScript⟩ := open_of_script (by decide)
  have helevation : Open ⟨.host, "check Administrator privileges",
      powershellProgram :: powershellArgs elevationScript⟩ :=
    open_of_script (by decide +kernel)
  and_intros
  all_goals first | assumption | exact open_of_program (by decide)

/-- Steps that are open to all need no elevation. -/
theorem not_needsElevation {steps : List Step} (hopen : ∀ s ∈ steps, Open s) {q : Query}
    (hq : q.Within steps) : ¬NeedsElevation q := by
  cases q with
  | run c =>
    obtain ⟨s, hs, hc⟩ := hq
    exact hopen s hs c hc
  | removeFile p => exact hq.elim
  | _ => exact id

/-! ### Gates -/

/-- The session has been found elevated. -/
def FoundElevated (h : History) : Prop :=
  ∃ output, elevationQuestion.event (.ok output) ∈ h ∧ ShowsElevated output

theorem FoundElevated.append {h : History} (h' : History) (hfound : FoundElevated h) :
    FoundElevated (h ++ h') := by
  obtain ⟨output, hmem, helevated⟩ := hfound
  exact ⟨output, List.mem_append_left _ hmem, helevated⟩

/-- How the milestones of a run gate each other. -/
structure Gated (request : StoreRequest) (storeRoot : Option Path) (h : History)
    (r : Except Failure StoreOutcome) : Prop where
  /-- The milestones are reached in their order, and the first that is not
  reached ends the run. -/
  inOrder : RequestRun request storeRoot h r
  /-- What needs an elevated session is asked only after the answer that there is
  one. -/
  elevated : h.Guarded fun before q => NeedsElevation q → FoundElevated before
  /-- The run fails for want of a distro, with nothing asked but for the list of
  them, or at a milestone. Then its failure is a plain one within the stage of this
  milestone. -/
  failure : ∀ f, r = .error f →
    (∃ reason, f = .wslUnavailable reason ∧ ∀ e ∈ h, e.query.Within chooseSteps) ∨
    ∃ s cause, f = .stage s cause ∧ cause.IsPlain ∧
      ∃ h₁ h₂ distro, (chooseDistro request).Leads h₁ (.ok distro) ∧
        (course request storeRoot distro.name).Run h₂ (.error (.stage s cause)) ∧ h = h₁ ++ h₂

variable {request : StoreRequest} {storeRoot : Option Path} {h : History}
  {r : Except Failure StoreOutcome}

/-- Along the course inside a distro, the elevation is the gate. -/
theorem guarded_course {distro : Distro} {h₁ h₂ : History}
    (hchosen : (chooseDistro request).Leads h₁ (.ok distro))
    (hcourse : (course request storeRoot distro.name).Run h₂ r) :
    (h₁ ++ h₂).Guarded fun before q => NeedsElevation q → FoundElevated before := by
  have hchoose : ∀ e ∈ h₁, ¬NeedsElevation e.query := fun e he =>
    not_needsElevation open_chooseSteps ((asks_chooseDistro request).of_mem hchosen e he)
  have hready : ∀ {q : Query}, q.Within (readySteps distro.name) → ¬NeedsElevation q :=
    not_needsElevation (open_readySteps distro.name)
  rcases readyCourse_until _ _ _ _ _ hcourse with
    ⟨-, hall⟩ | ⟨h₃, h₄, hbefore, ⟨output, h₅, _, rfl, helevated, -⟩, rfl⟩
  · refine History.guarded_of_forall_not (List.forall_mem_append.mpr ⟨hchoose, ?_⟩)
    exact fun e he => hready (hall e he)
  · have hfirst : ∀ e ∈ h₁ ++ h₃ ++ [elevationQuestion.event (.ok output)],
        ¬NeedsElevation e.query := by
      simp only [List.forall_mem_append, List.forall_mem_singleton]
      exact ⟨⟨hchoose, fun e he => hready (hbefore e he)⟩,
        hready (elevationQuestion_within distro.name)⟩
    have hguarded : (h₁ ++ h₃ ++ [elevationQuestion.event (.ok output)] ++ h₅).Guarded
        fun before q => NeedsElevation q → FoundElevated before :=
      History.guarded_of_first (fun _ => FoundElevated.append) hfirst
        ⟨output, by simp, helevated⟩
    simpa using hguarded

theorem RequestRun.gated (hr : RequestRun request storeRoot h r) (hplain : ∀ e ∈ h, e.Plain) :
    Gated request storeRoot h r where
  inOrder := hr
  elevated := by
    cases hr with
    | unavailable hasked _ =>
      exact History.guarded_of_forall_not fun e he =>
        not_needsElevation open_chooseSteps (hasked e he)
    | failed hchosen hcourse _ => exact guarded_course hchosen hcourse
    | finished hchosen hcourse => exact guarded_course hchosen hcourse
  failure := by
    intro f hf
    subst hf
    cases hr with
    | @unavailable _ reason _ hasked hr =>
      unfold Reported at hr
      split at hr
      · exact .inl ⟨reason, Except.error.inj hr, hasked⟩
      · obtain ⟨o, ho, -⟩ := hr
        cases ho
    | @failed h₁ h₂ distro g _ hchosen hcourse hr =>
      unfold Reported at hr
      split at hr
      · obtain rfl := Except.error.inj hr
        obtain ⟨s, cause, rfl, hcause⟩ := hcourse.error_stage
        have hrest : ∀ e ∈ h₂, e.Plain := (List.forall_mem_append.mp hplain).2
        exact .inr ⟨s, cause, rfl, hcause hrest, h₁, h₂, distro, hchosen, hcourse, rfl⟩
      · obtain ⟨o, ho, -⟩ := hr
        cases ho

end Wsl

/-- **The milestones of a run inside a WSL distro gate each other.** On every
host whose commands fail with failures of commands, they are reached in their
order, no question of a later one is asked when one is not reached, and a
failure names the one at which the run has ended. -/
theorem wsl_milestones_gate_each_other {σ : Type} (host : Host σ) (hhost : host.FailsPlainly)
    (s : σ) (request : StoreRequest) (storeRoot : Option Path) :
    Wsl.Gated request storeRoot ((Wsl.provision request storeRoot).outcome.record host s)
      ((Wsl.provision request storeRoot).outcome.runWith host s).1 :=
  (Wsl.provision_run (Action.leads_record host _ s)).gated (hhost.plain_record _ s)

/-- A Windows host with a distro that is ready, and a session that is not
elevated. -/
def hostNotElevated : Scripted.State :=
  let s : Scripted.State := {}
  let s := s.on "wsl.exe" [] [.output "* Ubuntu Running 2"]
  let s := s.on "cat" [] [.output "btrfs"]
  let s := s.on "which" [] [.output "/usr/bin/tool"]
  let s := s.on "sh" [] [.output "running"]
  s.on "powershell.exe" [] [.output "Running", .output "False"]

/-- The run ends at the elevation, and its failure says so. -/
theorem wsl_milestones_gate_each_other_not_elevated :
    Scripted.host.FailsPlainly ∧
      ((Wsl.provision { require := true } (some ⟨"C:"⟩)).outcome.runWith Scripted.host
        hostNotElevated).1 = .error (.stage .elevation (.operation
          "run the terminal as Administrator to create and attach the virtual disk")) ∧
      Wsl.Gated { require := true } (some ⟨"C:"⟩)
        ((Wsl.provision { require := true } (some ⟨"C:"⟩)).outcome.record Scripted.host
          hostNotElevated)
        ((Wsl.provision { require := true } (some ⟨"C:"⟩)).outcome.runWith Scripted.host
          hostNotElevated).1 := by
  refine ⟨Scripted.failsPlainly, by decide +kernel, ?_⟩
  exact wsl_milestones_gate_each_other Scripted.host Scripted.failsPlainly hostNotElevated _ _

end BtrfsStore
