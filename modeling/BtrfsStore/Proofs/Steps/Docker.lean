import BtrfsStore.Proofs.Steps
import BtrfsStore.Wsl.Provision
/-!
# BtrfsStore.Proofs.Steps.Docker

The questions about the container runtime. `dockerHealth` asks nothing else, and
a part of a run that stays among steps with other names asks none of them, as is
read off its list of steps. What is left are the parts that look for a program or
remove a file.
-/

namespace BtrfsStore

open Attempt

/-! ### The questions -/

namespace Wsl

/-- Reads the state of the service of the container runtime. -/
def serviceScript : String := "(Get-Service -Name com.docker.service -ErrorAction Stop).Status"

/-- Looks for the pipe of the container runtime. -/
def pipeScript : String := "Test-Path '\\\\.\\pipe\\docker_engine'"

def dockerSteps (outside : Target) : List Step :=
  [⟨outside, "check Docker Desktop service",
      VirtualDisk.powershellProgram :: VirtualDisk.powershellArgs serviceScript⟩,
    ⟨outside, "check Docker engine pipe",
      VirtualDisk.powershellProgram :: VirtualDisk.powershellArgs pipeScript⟩,
    ⟨outside, "check Docker engine", ["docker", "version"]⟩]

end Wsl

def serviceQuestion : Command :=
  { target := .host, description := "check Docker Desktop service"
    program := VirtualDisk.powershellProgram
    args := VirtualDisk.powershellArgs Wsl.serviceScript, limit := Limit.quick }

def pipeQuestion : Command :=
  { target := .host, description := "check Docker engine pipe"
    program := VirtualDisk.powershellProgram
    args := VirtualDisk.powershellArgs Wsl.pipeScript, limit := Limit.quick }

def engineQuestion : Command :=
  { target := .host, description := "check Docker engine", program := "docker"
    args := ["version", "--format", "\x7b\x7b.Server.Version\x7d\x7d"], limit := Limit.quick }

/-- The question is about the container runtime. -/
def Query.AboutDocker (q : Query) : Prop :=
  q ∈ [.run serviceQuestion, .run pipeQuestion, .locate "docker", .run engineQuestion]

instance : DecidablePred Query.AboutDocker :=
  fun q => inferInstanceAs (Decidable (q ∈ _))

/-! ### The check -/

namespace Wsl

/-- The check of Docker asks about the container runtime and nothing else. -/
theorem dockerHealth_aboutDocker : (dockerHealth .host).Asks Query.AboutDocker := by
  have hpowershell : ∀ {description script : String}, (Query.run
      { target := .host, description, program := VirtualDisk.powershellProgram
        args := VirtualDisk.powershellArgs script, limit := Limit.quick }).AboutDocker →
      (askPowershell .host description script).Asks Query.AboutDocker := by
    intro description script hquestion
    refine ⟨hquestion, fun r => ?_⟩
    cases r <;> trivial
  have hengine : (dockerAnswers .host).Asks Query.AboutDocker := by
    refine ⟨by decide, fun found => ?_⟩
    cases found with
    | none => trivial
    | some path =>
      refine ⟨by decide, fun r => ?_⟩
      cases r <;> trivial
  unfold dockerHealth
  refine (hpowershell (by decide)).bind fun service => ?_
  rw [Action.asks_ite]
  refine ⟨fun _ => trivial, fun _ => (hpowershell (by decide)).bind fun pipe => ?_⟩
  rw [Action.asks_ite]
  refine ⟨fun _ => trivial, fun _ => hengine.bind fun answers => ?_⟩
  rw [Action.asks_ite]
  exact ⟨fun _ => trivial, fun _ => trivial⟩

/-- Its commands are the three of `dockerSteps`. -/
theorem asks_dockerHealth : (dockerHealth .host).Asks (Query.Within (dockerSteps .host)) := by
  refine dockerHealth_aboutDocker.mono fun q hq => ?_
  simp only [Query.AboutDocker, List.mem_cons, List.not_mem_nil, or_false] at hq
  rcases hq with rfl | rfl | rfl | rfl
  · simp [serviceQuestion, dockerSteps, Command.Takes]
  · simp [pipeQuestion, dockerSteps, Command.Takes]
  · trivial
  · simp [engineQuestion, dockerSteps, Command.Takes]

end Wsl

/-! ### Other parts -/

/-- The names of the commands about the container runtime. -/
def dockerNames : List String :=
  ["check Docker Desktop service", "check Docker engine pipe", "check Docker engine"]

/-- The action asks nothing about the container runtime. -/
abbrev Action.IgnoresDocker {α : Type} (x : Action α) : Prop := x.Asks fun q => ¬q.AboutDocker

/-- The attempt asks nothing about the container runtime. -/
abbrev Attempt.IgnoresDocker {α : Type} (x : Attempt α) : Prop := x.outcome.IgnoresDocker

/-- A command with another name is not about the container runtime. -/
theorem Query.not_aboutDocker_run {c : Command} (hc : c.description ∉ dockerNames) :
    ¬(Query.run c).AboutDocker := by
  intro hdocker
  simp only [AboutDocker, List.mem_cons, Query.run.injEq, reduceCtorEq, List.not_mem_nil,
    or_false, false_or] at hdocker
  rcases hdocker with rfl | rfl | rfl
  all_goals exact hc (by decide)

/-- A question among steps with other names is not about the container runtime. -/
theorem Query.Among.not_aboutDocker {q : Query} {steps : List Step} (hq : q.Among steps)
    (hsteps : ∀ s ∈ steps, s.name ∉ dockerNames) : ¬q.AboutDocker := by
  cases q with
  | run c =>
    obtain ⟨s, hs, -, hname, -⟩ := hq
    exact not_aboutDocker_run (hname ▸ hsteps s hs)
  | locate program => exact hq.elim
  | _ => simp [AboutDocker]

/-- A part of a run whose steps have other names asks nothing about Docker. -/
theorem Action.Asks.ignoresDocker {α : Type} {x : Action α} {steps : List Step}
    (hx : x.Asks (Query.Among steps)) (hsteps : ∀ s ∈ steps, s.name ∉ dockerNames) :
    x.IgnoresDocker :=
  hx.mono fun _ hq => hq.not_aboutDocker hsteps

theorem Attempt.ignoresDocker_run {limit : Nat} {target : Target} {description program : String}
    {args : List String} (hname : description ∉ dockerNames) :
    (target.runWithin limit description program args).IgnoresDocker :=
  ⟨Query.not_aboutDocker_run hname, fun _ => trivial⟩

namespace Wsl

theorem ignoresDocker_chooseDistro (request : StoreRequest) :
    (chooseDistro request).IgnoresDocker := by
  refine ⟨by simp [Query.AboutDocker, wslProgram], fun found => ?_⟩
  cases found with
  | none => trivial
  | some path =>
    refine ⟨Query.not_aboutDocker_run (by decide), fun r => ?_⟩
    cases r <;> trivial

end Wsl

end BtrfsStore
