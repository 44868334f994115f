import BtrfsStore.Proofs.Discovery
import BtrfsStore.Proofs.UnitFile
import BtrfsStore.Scripted
/-!
# BtrfsStore.Proofs.Installation

What the file of an installed unit says.

A unit is refused only if a part of it is blank; otherwise its parts are written into
lines as they are. `install_run` says how an installation goes, and with it which text is
written. What is read from this text line by line is the subject of
`BtrfsStore.Proofs.UnitFile`: it says what the unit says exactly if each part can be read
as a value at all. A part with a newline cannot, and the line that begins in its middle
may be an assignment of its own.
-/

namespace BtrfsStore

/-- The texts that the commands of a program have read, in their order. -/
def History.fedTo (program : String) (h : History) : List String :=
  (commands h).filterMap fun c => if c.program = program then c.input else none

namespace MountSupervision

open Attempt UnitFile

variable {root : Target} {unit : MountUnit} {h : History} {r : Except Failure Unit}

/-! ### Installing -/

/-- The runs of an installation, with how they end. -/
inductive InstallRun (root : Target) (unit : MountUnit) : History → Except Failure Unit → Prop
  /-- A part that must not be blank is. -/
  | refused {fault : String} (hfault : unit.firstFault = some fault) :
      InstallRun root unit [] (.error (.invalidMountUnit fault))
  /-- The mount point cannot be made. -/
  | notMade {f : Failure} (hvalid : unit.firstFault = none) :
      InstallRun root unit [(makeMountPoint root unit.mountPoint).event (.error f)] (.error f)
  /-- The file is written, and no other file after it. -/
  | written {made : String} {a : Except Failure String} {rest : History}
      {r : Except Failure Unit} (hvalid : unit.firstFault = none)
      (hrest : ∀ e ∈ rest, ¬e.query.Runs "tee") :
      InstallRun root unit ((makeMountPoint root unit.mountPoint).event (.ok made)
        :: (writeUnit root unit).event a :: rest) r

/-- What is done once the file is written writes no other. -/
theorem not_tee_of_leads_enable {name : String} {e : Event}
    (hl : (do discard <| root.run "reload systemd units" "systemctl" ["daemon-reload"]
              discard <| root.run "enable mount unit" "systemctl" ["enable", name]
              : Attempt Unit).outcome.Leads h r) (he : e ∈ h) : ¬e.query.Runs "tee" := by
  have hasks : (do discard <| root.run "reload systemd units" "systemctl" ["daemon-reload"]
                   discard <| root.run "enable mount unit" "systemctl" ["enable", name]
                   : Attempt Unit).outcome.Asks fun q => ¬q.Runs "tee" := by
    simp [Query.Runs, Except.map]
  exact hasks.of_mem hl e he

theorem install_run (hl : (install root unit).outcome.Leads h r) : InstallRun root unit h r := by
  cases hvalid : unit.firstFault with
  | some fault =>
    have hcheck : (check unit).outcome = .done (.error (.invalidMountUnit fault)) := by
      rw [check, hvalid]
      rfl
    rw [install, outcome_bind, hcheck, Action.done_bind] at hl
    obtain ⟨rfl, rfl⟩ := Action.leads_done.mp hl
    exact .refused hvalid
  | none =>
    rw [install, outcome_bind, outcome_check hvalid, Action.done_bind, andThen_ok] at hl
    rcases leads_bind.mp hl with ⟨f, hmake, rfl⟩ | ⟨h₁, _, h₂, hmake, hmade, rfl⟩
    · obtain ⟨f' | output, rfl, hf⟩ := leads_discard_runWithin.mp hmake
      · obtain rfl := Except.error.inj hf
        exact .notMade hvalid
      · cases hf
    obtain ⟨made, rfl⟩ := leads_discard_ok hmake
    rcases leads_bind.mp hmade with ⟨f, hwrite, rfl⟩ | ⟨h₃, _, h₄, hwrite, henable, rfl⟩
    · rw [outcome_discard, Action.leads_map] at hwrite
      obtain ⟨a, hwrite, -⟩ := hwrite
      obtain ⟨_, rfl, -⟩ := Action.leads_ask_done.mp hwrite
      exact .written hvalid (List.forall_mem_nil _)
    · obtain ⟨output, rfl⟩ := leads_discard_ok hwrite
      exact .written hvalid fun e he => not_tee_of_leads_enable henable he

/-- Nothing is written but the file of a unit that is accepted, and it is written as soon as
the mount point has been made. -/
theorem InstallRun.fedTo_tee (hrun : InstallRun root unit h r) :
    (h.fedTo "tee" = [] ∧ ∀ made, (makeMountPoint root unit.mountPoint).event (.ok made) ∉ h) ∨
      unit.firstFault = none ∧ h.fedTo "tee" = [unit.render] := by
  cases hrun with
  | refused hfault => exact .inl ⟨rfl, by simp⟩
  | notMade hvalid => exact .inl ⟨rfl, by simp⟩
  | @written made a rest _ hvalid hrest =>
    refine .inr ⟨hvalid, ?_⟩
    have hnone : rest.fedTo "tee" = [] := by
      refine List.filterMap_eq_nil_iff.mpr fun c hc => ?_
      obtain ⟨⟨q, answer⟩, he, hcommand⟩ := List.mem_filterMap.mp hc
      cases q with
      | run c' =>
        obtain rfl := Option.some.inj hcommand
        exact if_neg (hrest _ he)
      | _ => cases hcommand
    have hfirst : History.fedTo "tee" ((makeMountPoint root unit.mountPoint).event (.ok made)
        :: (writeUnit root unit).event a :: rest) = unit.render :: rest.fedTo "tee" := rfl
    rw [hfirst, hnone]

/-! ### The file -/

/-- **The file of an installed unit says what the unit says, unless a part of the unit
cannot be read as a value.** The only text that is written is that of an accepted unit, and
it is written as soon as the mount point has been made. It assigns the four keys of the
mount once each, in their section, to the parts of the unit, exactly if every part is a
single line without blanks at its ends. As long as no part holds a newline, nothing else is
read from it than the seven assignments that are meant, with such blanks left out. -/
theorem unit_file_says_unit_unless_broken {σ : Type} (host : Host σ) (s : σ) (root : Target)
    (unit : MountUnit) :
    let record := (install root unit).outcome.record host s
    let written := record.fedTo "tee"
    (written = [] ∨ unit.firstFault = none ∧ written = [unit.render]) ∧
      (∀ made, (makeMountPoint root unit.mountPoint).event (.ok made) ∈ record →
        written = [unit.render]) ∧
      ∀ text ∈ written,
        (unit.SaidBy text ↔ ∀ d ∈ unit.declarations, IsValue d.value) ∧
          ((∀ d ∈ unit.declarations, '\n' ∉ d.value.toList) →
            entries text = unit.assignments.map Entry.readBack) := by
  intro record written
  have hrun : InstallRun root unit record _ := install_run (Action.leads_record host _ s)
  rcases hrun.fedTo_tee with ⟨hnothing, hnotMade⟩ | ⟨hvalid, hwritten⟩
  · refine ⟨.inl hnothing, fun made hmade => absurd hmade (hnotMade made), fun text htext => ?_⟩
    rw [show written = [] from hnothing] at htext
    cases htext
  · refine ⟨.inr ⟨hvalid, hwritten⟩, fun _ _ => hwritten, fun text htext => ?_⟩
    rw [show written = [unit.render] from hwritten] at htext
    obtain rfl := List.mem_singleton.mp htext
    exact ⟨MountUnit.saidBy_render_iff, MountUnit.entries_render⟩

/-- A unit whose mount point is below a state directory with newlines in its name. -/
def brokenUnit : MountUnit :=
  { name := "store.mount", source := "/dev/sdb1"
    mountPoint := "/srv\nWhat=/dev/sda1\nX-Dir=/sqlrs/store" }

/-- Such a unit is installed, and its file names another device. -/
theorem broken_unit_names_other_device :
    ((install .hostRoot brokenUnit).outcome.runWith Scripted.host {}).1 = .ok () ∧
      ((install .hostRoot brokenUnit).outcome.record Scripted.host {}).fedTo "tee"
        = [brokenUnit.render] ∧
      ¬brokenUnit.SaidBy brokenUnit.render ∧
      value? brokenUnit.render "Mount" "What" = some "/dev/sda1" := by
  have hbroken : ¬∀ d ∈ brokenUnit.declarations, IsValue d.value := by decide +kernel
  exact ⟨by decide +kernel, by decide +kernel, MountUnit.saidBy_render_iff.not.mpr hbroken,
    by decide +kernel⟩

end MountSupervision

end BtrfsStore
