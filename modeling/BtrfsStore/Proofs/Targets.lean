import BtrfsStore.Proofs.Course.Native
import BtrfsStore.Proofs.Course.Wsl
/-!
# BtrfsStore.Proofs.Targets

Where the commands of a run go, and as whom.

A **rule** says which programs may go to which target. A step keeps a rule if its
program may go to its target, so that a part of a run keeps it if all its steps
do, and a run if all milestones of its course do.

On a Linux host one rule holds for the whole run. Inside a distro there are two,
since the target of the privileged commands is only known once the tools are
located: `earlyRule` holds until then, and `lateRule` from there on, with the
answer to the last question for `nsenter`.
-/

namespace BtrfsStore

/-! ### Rules -/

/-- Which programs may go to which target. -/
abbrev Rule : Type := Target → String → Prop

/-- The question neither reads nor writes a file and, if it runs a command, the
program of the command may go to its target. -/
def Query.Keeps (rule : Rule) : Query → Prop
  | .run c => rule c.target c.program
  | .readText _ | .writeText _ _ => False
  | _ => True

/-- The program of the step may go to its target. -/
def Step.Keeps (rule : Rule) (s : Step) : Prop :=
  ∃ program, s.words.head? = some program ∧ rule s.target program

/-- The question reads or writes a file. What commands do to files is not meant. -/
def Query.OpensFile : Query → Prop
  | .readText _ | .writeText _ _ => True
  | _ => False

/-- What keeps a rule opens no file. -/
theorem Query.Keeps.not_opensFile {rule : Rule} {q : Query} (hq : q.Keeps rule) :
    ¬q.OpensFile := by
  cases q with
  | readText _ | writeText _ _ => exact hq.elim
  | _ => exact id

/-- A question within steps that keep a rule keeps it. -/
theorem Query.Within.keeps {steps : List Step} {rule : Rule} {q : Query} (hq : q.Within steps)
    (hsteps : ∀ s ∈ steps, s.Keeps rule) : q.Keeps rule := by
  cases q with
  | run c =>
    obtain ⟨s, hs, htarget, -, hwords⟩ := hq
    obtain ⟨program, hprogram, hrule⟩ := hsteps s hs
    cases hcases : s.words with
    | nil =>
      rw [hcases] at hprogram
      cases hprogram
    | cons word words =>
      rw [hcases] at hprogram hwords
      obtain rfl := Option.some.inj hprogram
      rw [Keeps, htarget, ← (List.cons_prefix_cons.mp hwords).1]
      exact hrule
  | readText _ | writeText _ _ => exact hq
  | _ => trivial

/-- All questions of all runs along the course keep the rule. -/
def Course.Keeps (rule : Rule) (c : Course) : Prop :=
  c.Until (Query.Keeps rule) fun h _ => h = []

namespace Course

variable {rule : Rule} {c : Course}

/-- A run along a course that keeps a rule keeps it to its end. -/
theorem Keeps.of_run (hc : c.Keeps rule) {h : History} {r : Except Failure StoreOutcome}
    (hr : c.Run h r) : ∀ e ∈ h, e.query.Keeps rule := by
  rcases hc h r hr with ⟨-, hall⟩ | ⟨h₁, _, hall, rfl, rfl⟩
  · exact hall
  · simpa using hall

theorem keeps_finish {settled : StoreOutcome → Prop} : (finish settled).Keeps rule := by
  intro h r hr
  obtain ⟨rfl, -⟩ := run_finish.mp hr
  exact .inr ⟨[], [], List.forall_mem_nil _, rfl, rfl⟩

variable {steps : List Step}

/-- A milestone on the way to which the given steps are taken. -/
theorem keeps_milestone {α : Type} {stage : Option Stage} {reached : α → History → Prop}
    {rest : α → Course} (hsteps : ∀ s ∈ steps, s.Keeps rule) (hrest : ∀ a, (rest a).Keeps rule) :
    (milestone stage (Query.Within steps) reached rest).Keeps rule :=
  until_milestone (fun _ hq => hq.keeps hsteps) hrest

end Course

/-! ### On a Linux host -/

namespace Native

open Filesystem StoreContent

/-- The programs that run as the user. -/
def userPrograms : List String := ["stat", "id"]

/-- The commands of a run on a Linux host: as the user or as root, by their
program. -/
def rule : Rule := fun target program =>
  target = if program ∈ userPrograms then .host else .hostRoot

variable (request : StoreRequest) (plan : StorePlan)

/-- Clearing a store away is done by root. -/
theorem clearSteps_keep : ∀ s ∈ clearSteps, s.Keeps rule := by
  simp [clearSteps, releaseSteps, mountPointSteps, Step.Keeps, rule, userPrograms]

/-- A directory is created by root, for the user who is asked for his ids. -/
theorem createDirSteps_keep : ∀ s ∈ createDirSteps, s.Keeps rule := by
  simp [createDirSteps, ownerSteps, Step.Keeps, rule, userPrograms]

theorem ensureSteps_keep : ∀ s ∈ ensureSteps .hostRoot, s.Keeps rule := by
  simp [ensureSteps, verifySteps, detectSteps, formatSteps, probeMountSteps, Step.Keeps, rule,
    userPrograms]

/-- A run that takes a directory keeps the rule of a Linux host. -/
theorem takeCourse_keeps (dir : Path) : (takeCourse dir).Keeps rule := by
  refine Course.until_milestone (by rintro q rfl; trivial) fun there => ?_
  refine Course.until_milestoneIf (fun q hq => hq.keeps createDirSteps_keep) ?_
  exact Course.keeps_finish

/-- A run that mounts a store keeps the rule of a Linux host. -/
theorem mountCourse_keeps (backing : Path) : (mountCourse request plan backing).Keeps rule := by
  refine Course.until_milestone ?_ fun _ => ?_
  · rintro q (rfl | ⟨tool, rfl⟩) <;> trivial
  refine Course.keeps_milestone ?_ fun created => ?_
  · simp [imageSteps, Step.Keeps, rule, userPrograms]
  refine Course.keeps_milestone ensureSteps_keep fun _ => ?_
  refine Course.keeps_milestone ?_ fun _ => ?_
  · simp [mountSteps, mountPointSteps, Step.Keeps, rule, userPrograms]
  refine Course.keeps_milestone ?_ fun _ => Course.keeps_finish
  simp [giveSteps, ownerSteps, Step.Keeps, rule, userPrograms]

theorem course_keeps (backing : Path) : (course request plan backing).Keeps rule := by
  refine Course.until_milestoneIf (fun q hq => hq.keeps clearSteps_keep) ?_
  refine Course.keeps_milestone ?_ fun onBtrfs => ?_
  · simp [lookSteps, Step.Keeps, rule, userPrograms]
  cases onBtrfs with
  | true => exact takeCourse_keeps plan.storeDir
  | false => exact mountCourse_keeps request plan backing

/-- A command runs as the user or as root by its program, in every run on a
Linux host. -/
theorem provision_keeps {request : StoreRequest} {storeRoot : Option Path} {h : History}
    {r : Except Failure StoreOutcome} (hl : (provision request storeRoot).outcome.Leads h r) :
    ∀ e ∈ h, e.query.Keeps rule := by
  rw [outcome_provision] at hl
  obtain ⟨r', hprepare, -⟩ := Action.leads_map.mp hl
  rcases prepare_run hprepare with ⟨f, -, rfl, -⟩ | ⟨plan, backing, -, -, hrun⟩
  · exact List.forall_mem_nil _
  · exact (course_keeps request plan backing).of_run hrun

end Native

/-! ### Inside a distro -/

namespace Wsl

open Filesystem MountSupervision StoreContent

/-- The programs that run outside of all distros. -/
def outsidePrograms : List String := [wslProgram, VirtualDisk.powershellProgram, "docker"]

/-- The rule on the way to a distro: nothing runs inside of one. -/
def outsideRule : Rule := fun target program => target = .host ∧ program ∈ outsidePrograms

/-- A rule for the inside of one distro, with the programs that may run there as
its default user and as root. -/
def distroRule (distro : String) (nsenter : Bool) (asUser asRoot : List String) : Rule
  | .host, program => program ∈ outsidePrograms
  | .hostRoot, _ => False
  | .wsl d, program => d = distro ∧ program ∈ asUser
  | .wslRoot d n, program => d = distro ∧ n = nsenter ∧ program ∈ asRoot

/-- The rule until the tools are located: root does not enter the namespace of
the first process. -/
def earlyRule (distro : String) : Rule :=
  distroRule distro false ["true", "cat", "which"] ["modprobe", "apt-get"]

/-- The rule once the tools are located, which tells whether root enters the
namespace of the first process. -/
def lateRule (distro : String) (nsenter : Bool) : Rule :=
  distroRule distro nsenter ["sh", "lsblk", "id"]
    ["systemd-escape", "systemctl", "rm", "umount", "findmnt", "blkid", "wipefs", "mkfs.btrfs",
      "mktemp", "mount", "rmdir", "test", "mkdir", "tee", "journalctl", "btrfs", "chown"]

/-- The question whether the distro has `nsenter`. -/
def namespaceQuestion (distro : String) : Command := toolQuestion (.wsl distro) namespaceTool

/-- The histories of runs that go by the rules. -/
inductive GoesByRules (request : StoreRequest) : History → Prop
  /-- The run has not come into a distro. -/
  | outside {h : History} (hout : ∀ e ∈ h, e.query.Keeps outsideRule) : GoesByRules request h
  /-- The run has ended before the tools of its distro were located. -/
  | unlocated {choose early : History} {distro : Distro}
      (hchosen : (chooseDistro request).Leads choose (.ok distro))
      (hchoose : ∀ e ∈ choose, e.query.Keeps outsideRule)
      (hearly : ∀ e ∈ early, e.query.Keeps (earlyRule distro.name)) :
      GoesByRules request (choose ++ early)
  /-- The run has located the tools of its distro. Its last question for a tool is
  the one for `nsenter`, and the answer to it holds for the rest of the run. -/
  | located {choose early late : History} {distro : Distro} {nsenter : Bool}
      {answer : Except Failure String}
      (hchosen : (chooseDistro request).Leads choose (.ok distro))
      (hchoose : ∀ e ∈ choose, e.query.Keeps outsideRule)
      (hearly : ∀ e ∈ early, e.query.Keeps (earlyRule distro.name))
      (hnsenter : nsenter = true ↔ Located answer)
      (hlate : ∀ e ∈ late, e.query.Keeps (lateRule distro.name nsenter))
      (hlast : ∀ e ∈ late, ¬e.query.Runs "which") :
      GoesByRules request
        (choose ++ (early ++ [(namespaceQuestion distro.name).event answer]) ++ late)

/-- A run that goes by the rules opens no file. -/
theorem GoesByRules.not_opensFile {request : StoreRequest} {h : History}
    (hrules : GoesByRules request h) : ∀ e ∈ h, ¬e.query.OpensFile := by
  cases hrules with
  | outside hout => exact fun e he => (hout e he).not_opensFile
  | unlocated _ hchoose hearly =>
    refine List.forall_mem_append.mpr ⟨fun e he => (hchoose e he).not_opensFile, ?_⟩
    exact fun e he => (hearly e he).not_opensFile
  | located _ hchoose hearly _ hlate _ =>
    simp only [List.forall_mem_append, List.forall_mem_singleton]
    refine ⟨⟨fun e he => (hchoose e he).not_opensFile, fun e he => ?_, id⟩, fun e he => ?_⟩
    · exact (hearly e he).not_opensFile
    · exact (hlate e he).not_opensFile

section

variable (request : StoreRequest) (storeRoot : Option Path) (distro : String) (nsenter : Bool)

/-- What keeps the late rule is no question for a tool. -/
theorem not_runs_which {q : Query} (hq : q.Keeps (lateRule distro nsenter)) : ¬q.Runs "which" := by
  cases q with
  | run c =>
    intro hwhich
    have hprogram : c.program = "which" := hwhich
    rw [Query.Keeps, hprogram] at hq
    cases htarget : c.target <;> rw [htarget] at hq
    all_goals simp [lateRule, distroRule, outsidePrograms, wslProgram,
      VirtualDisk.powershellProgram] at hq
  | _ => exact id

/-- A store is torn down by root inside of the distro, and its disk detached from outside.
-/
theorem tearDownSteps_keep :
    ∀ s ∈ tearDownSteps (.wslRoot distro nsenter), s.Keeps (lateRule distro nsenter) := by
  simp [tearDownSteps, teardownSteps, releaseSteps, mountPointSteps, detachSteps, Step.Keeps,
    lateRule, distroRule, outsidePrograms]

theorem tearsDown_keeps {disk : Path} {q : Query}
    (hq : TearsDown (.wslRoot distro nsenter) disk q) : q.Keeps (lateRule distro nsenter) := by
  rcases hq with hwithin | rfl
  · exact hwithin.keeps (tearDownSteps_keep distro nsenter)
  · trivial

/-- Disks are listed by the user of the distro and made from outside. -/
theorem diskCourse_keeps (disk : Path) (bytes : Nat) {rest : StoreDisk → Course}
    (hrest : ∀ attached, (rest attached).Keeps (lateRule distro nsenter)) :
    (diskCourse (.wsl distro) disk bytes rest).Keeps (lateRule distro nsenter) := by
  have hlist : ∀ s ∈ listSteps (.wsl distro), s.Keeps (lateRule distro nsenter) := by
    simp [listSteps, Step.Keeps, lateRule, distroRule]
  refine Course.keeps_milestone hlist fun found => ?_
  cases found with
  | some partition => exact hrest _
  | none =>
    refine Course.keeps_milestone ?_ fun created => ?_
    · simp [fileSteps, VirtualDisk.createSteps, VirtualDisk.attachSteps, Step.Keeps, lateRule,
        distroRule, outsidePrograms]
    · exact Course.keeps_milestone hlist fun partition => hrest _

/-- The unit, the subvolumes and the owner are the matter of root inside of the distro. -/
theorem mountCourse_keeps {place : Place} (hroot : place.root = .wslRoot distro nsenter)
    (device : String) :
    (mountCourse (.wsl distro) place device).Keeps (lateRule distro nsenter) := by
  unfold mountCourse
  rw [hroot]
  refine Course.keeps_milestone ?_ fun found => ?_
  · simp [linkSteps, Step.Keeps, lateRule, distroRule]
  refine Course.keeps_milestone ?_ fun _ => ?_
  · simp [installSteps, Step.Keeps, lateRule, distroRule]
  refine Course.keeps_milestone ?_ fun _ => ?_
  · simp [activateSteps, mountPointSteps, Step.Keeps, lateRule, distroRule]
  refine Course.keeps_milestone ?_ fun _ => ?_
  · simp [subvolumeSteps, Step.Keeps, lateRule, distroRule]
  refine Course.keeps_milestone ?_ fun _ => Course.keeps_finish
  simp [giveSteps, ownerSteps, Step.Keeps, lateRule, distroRule]

theorem equipCourse_keeps {place : Place} (hroot : place.root = .wslRoot distro nsenter) :
    (equipCourse request (.wsl distro) place).Keeps (lateRule distro nsenter) := by
  refine diskCourse_keeps distro nsenter _ _ fun attached => ?_
  refine Course.keeps_milestone ?_ fun _ => mountCourse_keeps distro nsenter hroot _
  rw [hroot]
  simp [ensureSteps, verifySteps, detectSteps, formatSteps, probeMountSteps, Step.Keeps, lateRule,
    distroRule]

theorem placeCourse_keeps {rest : Place → Course}
    (hrest : ∀ place : Place, place.root = .wslRoot distro nsenter →
      (rest place).Keeps (lateRule distro nsenter)) :
    (placeCourse request storeRoot distro (.wslRoot distro nsenter) rest).Keeps
      (lateRule distro nsenter) := by
  refine Course.keeps_milestone ?_ fun place => ?_
  · simp [resolveSteps, stateDirSteps, nameSteps, Step.Keeps, lateRule, distroRule]
  exact Course.until_milestone (fun q hq => hq.elim) fun disk => hrest _ rfl

/-- Up to the answer about `nsenter` a run goes by the early rule, and by the late
one from there on. -/
theorem course_until :
    (course request storeRoot distro).Until (Query.Keeps (earlyRule distro)) fun h _ =>
      ∃ early answer late nsenter, (∀ e ∈ early, e.query.Keeps (earlyRule distro)) ∧
        (nsenter = true ↔ Located answer) ∧ (∀ e ∈ late, e.query.Keeps (lateRule distro nsenter)) ∧
        h = early ++ [(namespaceQuestion distro).event answer] ++ late := by
  have htools : ∀ s ∈ toolSteps (.wsl distro) (.wslRoot distro false), s.Keeps (earlyRule distro) :=
    by simp [toolSteps, Step.Keeps, earlyRule, distroRule]
  refine Course.until_milestoneIf (fun q hq => hq.keeps ?_) ?_
  · simp [startSteps, Step.Keeps, earlyRule, distroRule]
  refine Course.until_milestone (fun q hq => hq.keeps ?_) fun _ => ?_
  · simp [kernelSteps, Step.Keeps, earlyRule, distroRule]
  intro h r hr
  rcases Course.run_milestone.mp hr with
    ⟨_, _, -, hasked, -, hf⟩ | ⟨h₁, nsenter, h₂, hasked, hreached, hrest, rfl⟩
  · exact .inl ⟨⟨_, hf⟩, fun e he => (hasked e he).keeps htools⟩
  obtain ⟨pre, a, answer, rfl, -, hnsenter⟩ := hreached
  -- The answer about `nsenter` is the last one of the tools.
  have hsplit : pre ++ [(toolQuestion (.wsl distro) formatTool).event a,
      (toolQuestion (.wsl distro) namespaceTool).event answer]
      = pre ++ [(toolQuestion (.wsl distro) formatTool).event a]
        ++ [(namespaceQuestion distro).event answer] := by
    rw [List.append_assoc]
    rfl
  rw [hsplit] at hasked ⊢
  have hlate : ∀ e ∈ h₂, e.query.Keeps (lateRule distro nsenter) := by
    refine Course.Keeps.of_run ?_ hrest
    refine Course.keeps_milestone ?_ fun _ => ?_
    · simp [systemdSteps, Step.Keeps, lateRule, distroRule]
    refine Course.keeps_milestone ?_ fun _ => ?_
    · simp [dockerSteps, Step.Keeps, lateRule, distroRule, outsidePrograms]
    refine Course.keeps_milestone ?_ fun _ => ?_
    · simp [VirtualDisk.elevationSteps, Step.Keeps, lateRule, distroRule, outsidePrograms]
    refine placeCourse_keeps request storeRoot distro nsenter fun place hroot => ?_
    refine Course.until_milestoneIf (fun q hq => ?_)
      (equipCourse_keeps request distro nsenter hroot)
    rw [hroot] at hq
    exact tearsDown_keeps distro nsenter hq
  have hearly := (List.forall_mem_append.mp fun e he => (hasked e he).keeps htools).1
  exact .inr ⟨[], _, List.forall_mem_nil _, ⟨_, answer, h₂, nsenter, hearly, hnsenter, hlate, rfl⟩,
    rfl⟩

/-- On the way to a distro nothing runs inside of one. -/
theorem chooseSteps_keep : ∀ s ∈ chooseSteps, s.Keeps outsideRule := by
  simp [chooseSteps, Step.Keeps, outsideRule, outsidePrograms]

/-- A run inside of a distro goes by the rules after the choice of the distro. -/
theorem goesByRules_of_course {request : StoreRequest} {storeRoot : Option Path}
    {h₁ h₂ : History} {distro : Distro} {r : Except Failure StoreOutcome}
    (hchosen : (chooseDistro request).Leads h₁ (.ok distro))
    (hcourse : (course request storeRoot distro.name).Run h₂ r) :
    GoesByRules request (h₁ ++ h₂) := by
  have hchoose : ∀ e ∈ h₁, e.query.Keeps outsideRule := fun e he =>
    ((asks_chooseDistro request).of_mem hchosen e he).keeps chooseSteps_keep
  rcases course_until request storeRoot distro.name h₂ r hcourse with
    ⟨-, hearly⟩ | ⟨start, _, hstart, ⟨early, answer, late, nsenter, hearly, hnsenter, hlate, rfl⟩,
      rfl⟩
  · exact .unlocated hchosen hchoose hearly
  · have hrun : GoesByRules request
        (h₁ ++ (start ++ early ++ [(namespaceQuestion distro.name).event answer]) ++ late) :=
      .located hchosen hchoose (List.forall_mem_append.mpr ⟨hstart, hearly⟩) hnsenter hlate
        fun e he => not_runs_which distro.name nsenter (hlate e he)
    simpa using hrun

/-- **Every run in WSL goes by the rules.** -/
theorem provision_goesByRules {request : StoreRequest} {storeRoot : Option Path} {h : History}
    {r : Except Failure StoreOutcome} (hl : (provision request storeRoot).outcome.Leads h r) :
    GoesByRules request h := by
  cases provision_run hl with
  | unavailable hasked _ => exact .outside fun e he => (hasked e he).keeps chooseSteps_keep
  | failed hchosen hcourse _ => exact goesByRules_of_course hchosen hcourse
  | finished hchosen hcourse => exact goesByRules_of_course hchosen hcourse

end

end Wsl

/-- **Commands run where and as whom they must.** On a Linux host the user asks
with `stat` and `id`, and root does everything else. A run in WSL goes by its
rules: it comes into one distro at most, the user asks there with a few programs,
and all other commands run as root, from the last answer about `nsenter` on in
the namespace of the first process or not, as this answer says. -/
theorem commands_go_by_rules {σ : Type} (host : Host σ) (s : σ) (request : StoreRequest)
    (storeRoot : Option Path) :
    (∀ e ∈ (Native.provision request storeRoot).outcome.record host s,
        e.query.Keeps Native.rule) ∧
      Wsl.GoesByRules request ((Wsl.provision request storeRoot).outcome.record host s) :=
  ⟨Native.provision_keeps (Action.leads_record host _ s),
    Wsl.provision_goesByRules (Action.leads_record host _ s)⟩

end BtrfsStore
