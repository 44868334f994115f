import BtrfsStore.Proofs.NativeShapes
/-!
# BtrfsStore.Proofs.DeviceReinit

What a run on a Linux host that reinitialises its store leaves on a device.

The image of a store is removed before the store is made anew. A device cannot be
removed, so that the look at it decides (`FormatsUnlessBtrfs`): what carries no
btrfs is formatted, and btrfs is taken as it is, with the old store on it.
-/

namespace BtrfsStore

namespace Filesystem

variable {root : Target} {device : String} {h before after : History}

/-- Whether a device in this state carries btrfs. -/
def Detected.carriesBtrfs : Detected → Bool
  | .mountedBtrfs | .btrfs => true
  | .mountedOther _ | .other _ | .empty => false

/-- The programs that change what is on a device. -/
def formatPrograms : List String := ["wipefs", "mkfs.btrfs"]

/-- The run looks at a device. Without btrfs on it the device is formatted once;
with btrfs on it nothing is wiped or formatted. -/
inductive FormatsUnlessBtrfs (root : Target) (device : String) (h : History) : Prop
  | kept {before look after : History} {state : Detected}
      (hsplit : h = before ++ look ++ after) (hlook : DetectRun root device look (.ok state))
      (hbtrfs : state.carriesBtrfs = true)
      (hnone : ∀ program ∈ formatPrograms, h.runsOf program = [])
  | formatted {before look after : History} {state : Detected} {output : String}
      (hsplit : h = before ++ look ++ after) (hlook : DetectRun root device look (.ok state))
      (hbtrfs : state.carriesBtrfs = false)
      (honce : h.runsOf "mkfs.btrfs" = [(makeBtrfs root device).event (.ok output)])

/-- A look at a device changes nothing on it. -/
theorem DetectRun.runsOf_eq_nil {r : Except Failure Detected} (hr : DetectRun root device h r) :
    ∀ program ∈ formatPrograms, h.runsOf program = [] := by
  cases hr <;> simp [formatPrograms, mountCheck, signatureProbe]

/-- A run that formats a device and succeeds has formatted it once. -/
theorem MakeRun.runsOf_eq {wiping : Bool} {outcome : FormatOutcome}
    (hr : MakeRun root device wiping h (.ok outcome)) :
    ∃ output, h.runsOf "mkfs.btrfs" = [(makeBtrfs root device).event (.ok output)] := by
  cases hr.formatsOnce with
  | formatted honce => exact ⟨_, honce⟩
  | existing hnone =>
    generalize hok : (.ok .existing : Except Failure FormatOutcome) = r at hr
    cases hr with
    | wipeFailed _ => cases hok
    | made _ _ => simp [makeBtrfs] at hnone

theorem EnsureRun.formatsUnlessBtrfs {outcome : FormatOutcome}
    (hr : EnsureRun root device true h (.ok outcome)) : FormatsUnlessBtrfs root device h := by
  have hkept : ∀ {state}, DetectRun root device h (.ok state) → state.carriesBtrfs = true →
      FormatsUnlessBtrfs root device h := by
    intro state hlook hbtrfs
    have hsplit : h = [] ++ h ++ [] := by simp
    exact .kept hsplit hlook hbtrfs hlook.runsOf_eq_nil
  -- A look that finds no btrfs is followed by the run that formats.
  have hmade : ∀ {look make state wiping}, DetectRun root device look (.ok state) →
      state.carriesBtrfs = false → MakeRun root device wiping make (.ok outcome) →
      FormatsUnlessBtrfs root device (look ++ make) := by
    intro look make state wiping hlook hbtrfs hmake
    obtain ⟨output, honce⟩ := hmake.runsOf_eq
    have hsplit : look ++ make = [] ++ look ++ make := by simp
    have hformatted : (look ++ make).runsOf "mkfs.btrfs"
        = [(makeBtrfs root device).event (.ok output)] := by
      rw [History.runsOf_append, hlook.runsOf_eq_nil _ (by simp [formatPrograms]), honce,
        List.nil_append]
    exact .formatted hsplit hlook hbtrfs hformatted
  cases hr with
  | mountedBtrfs hm => exact hkept (.mountedBtrfs hm) rfl
  | btrfs hm ha => exact hkept (.btrfs hm ha) rfl
  | foreign hm ha _ hmake =>
    obtain ⟨fsType, hne, hnames⟩ := ha
    exact hmade (.other hm hne hnames) rfl hmake
  | empty hm ha _ hmake => exact hmade (.empty hm ha) rfl hmake

/-- What is around a run changes nothing on the device. -/
theorem FormatsUnlessBtrfs.surround (hr : FormatsUnlessBtrfs root device h)
    (hbefore : ∀ program ∈ formatPrograms, before.runsOf program = [])
    (hafter : ∀ program ∈ formatPrograms, after.runsOf program = []) :
    FormatsUnlessBtrfs root device (before ++ h ++ after) := by
  have hsame : ∀ program ∈ formatPrograms,
      (before ++ h ++ after).runsOf program = h.runsOf program := by
    intro program hprogram
    simp [hbefore program hprogram, hafter program hprogram]
  have hmove : ∀ {pre look post}, h = pre ++ look ++ post →
      before ++ h ++ after = (before ++ pre) ++ look ++ (post ++ after) := by
    rintro pre look post rfl
    simp
  cases hr with
  | kept hsplit hlook hbtrfs hnone =>
    exact .kept (hmove hsplit) hlook hbtrfs fun program hprogram =>
      (hsame program hprogram).trans (hnone program hprogram)
  | formatted hsplit hlook hbtrfs honce =>
    exact .formatted (hmove hsplit) hlook hbtrfs
      ((hsame "mkfs.btrfs" (by simp [formatPrograms])).trans honce)

end Filesystem

/-- A plan for a device is for the device that the request names. -/
theorem StorePlan.backing_of_device {request : StoreRequest} {storeRoot : Option Path}
    {plan : StorePlan} {backing : Path} (hkind : request.storeKind = .device)
    (hplan : StorePlan.ofRequest request storeRoot = .ok plan)
    (hbacking : plan.backing = some backing) : request.storePath = some backing := by
  rw [StorePlan.ofRequest, hkind] at hplan
  cases hpath : request.storePath with
  | none =>
    rw [hpath] at hplan
    cases hplan
  | some device =>
    rw [hpath] at hplan
    cases storeRoot with
    | none => cases hplan
    | some root =>
      obtain rfl := Except.ok.inj hplan
      exact hbacking

namespace Native

open Filesystem StoreContent

variable {request : StoreRequest} {storeRoot : Option Path} {plan : StorePlan} {backing : Path}
  {h : History} {o : StoreOutcome} {device : String}

/-- Steps that run no such program leave the device alone, and so does the look for the
tools. -/
theorem unchanged_of_asked {steps : List Step}
    (hasked : ∀ e ∈ h, e.query.Within steps ∨ LooksForTools e.query)
    (hsteps : ∀ program ∈ formatPrograms, ∀ s ∈ steps,
      ∃ word ≠ program, s.words.head? = some word) :
    ∀ program ∈ formatPrograms, h.runsOf program = [] := by
  refine fun program hprogram => History.runsOf_eq_nil fun e he => ?_
  rcases hasked e he with hwithin | htools
  · exact hwithin.not_runs (hsteps program hprogram)
  · exact htools.not_runs

/-- A run with permission to reinitialise has formatted the device of its store,
unless it carried btrfs. -/
theorem DeviceRun.formatsUnlessBtrfs (hr : DeviceRun request plan backing o h)
    (hreinit : request.reinit = true) : FormatsUnlessBtrfs .hostRoot backing.text h := by
  cases hr with
  | mk hreadyAsked hensure _ hfinishAsked _ =>
    rw [hreinit, Bool.or_true] at hensure
    refine hensure.formatsUnlessBtrfs.surround (unchanged_of_asked hreadyAsked ?_)
      (unchanged_of_asked (fun e he => .inl (hfinishAsked e he)) ?_)
    · simp [formatPrograms, readySteps, clearSteps, releaseSteps, mountPointSteps, lookSteps,
        imageSteps]
    · simp [formatPrograms, finishSteps, mountSteps, mountPointSteps, giveSteps, ownerSteps]

theorem provision_formatsUnlessBtrfs
    (hl : (provision request storeRoot).outcome.Leads h (.ok o)) (hstore : o.useStore = true)
    (hreinit : request.reinit = true) (hkind : request.storeKind = .device)
    (hdevice : o.mountDevice = some device) :
    request.storePath = some ⟨device⟩ ∧ FormatsUnlessBtrfs .hostRoot device h := by
  obtain ⟨plan, backing, hplan, hbacking, rfl, hrun⟩ := provision_deviceRun hl hstore hdevice
  exact ⟨StorePlan.backing_of_device hkind hplan hbacking, hrun.formatsUnlessBtrfs hreinit⟩

/-- **A reinitialised device is formatted unless it carries btrfs.** The run looks
at the device that the request names. If it does not find btrfs there, it formats
the device once; if it does, it wipes and formats nothing, and what was on the
device is the store. -/
theorem reinit_formats_device_unless_btrfs {σ : Type} (host : Host σ) (s : σ)
    (request : StoreRequest) (storeRoot : Option Path) {o : StoreOutcome} {device : String}
    (hreinit : request.reinit = true) (hkind : request.storeKind = .device)
    (hok : ((provision request storeRoot).outcome.runWith host s).1 = .ok o)
    (hstore : o.useStore = true) (hdevice : o.mountDevice = some device) :
    request.storePath = some ⟨device⟩ ∧
      FormatsUnlessBtrfs .hostRoot device
        ((provision request storeRoot).outcome.record host s) := by
  have hl := Action.leads_record host (provision request storeRoot).outcome s
  rw [hok] at hl
  exact provision_formatsUnlessBtrfs hl hstore hreinit hkind hdevice

/-- A Linux host with a device that answers the first look at its signature in the
given way, and the later ones with btrfs. -/
def hostWithDevice (signature : Scripted.Reply) : Scripted.State :=
  let s : Scripted.State := {}
  let s := s.on "stat" [] [.output "ext2/ext3"]
  let s := s.on "findmnt" ["-S"] [.failure 1 ""]
  let s := s.on "findmnt" ["--mountpoint"] [.failure 1 "", .failure 1 "", .output "btrfs"]
  let s := s.on "blkid" [] [signature, .output "btrfs"]
  s.on "id" [] [.output "1000"]

/-- A request to make the store on a device anew. -/
def remakeOnDevice : StoreRequest :=
  { storeKind := .device, storePath := some ⟨"/dev/sdb1"⟩, reinit := true, require := true }

/-- A device without a signature is formatted. -/
theorem reinit_formats_device_unless_btrfs_empty :
    ∃ o, ((provision remakeOnDevice (some ⟨"/store"⟩)).outcome.runWith Scripted.host
          (hostWithDevice (.failure 2 ""))).1 = .ok o ∧
      o.useStore = true ∧ o.mountDevice = some "/dev/sdb1" ∧
      FormatsUnlessBtrfs .hostRoot "/dev/sdb1"
        ((provision remakeOnDevice (some ⟨"/store"⟩)).outcome.record Scripted.host
          (hostWithDevice (.failure 2 ""))) := by
  have hreported : ((provision remakeOnDevice (some ⟨"/store"⟩)).outcome.runWith Scripted.host
      (hostWithDevice (.failure 2 ""))).1.toOption.any (fun o => o.useStore
        && o.mountDevice == some "/dev/sdb1") = true := by
    decide +kernel
  obtain ⟨o, hok, ho⟩ := exists_ok_of_any hreported
  obtain ⟨hstore, hdevice⟩ : o.useStore = true ∧ o.mountDevice = some "/dev/sdb1" := by
    simpa using ho
  exact ⟨o, hok, hstore, hdevice, (reinit_formats_device_unless_btrfs Scripted.host _
    remakeOnDevice (some ⟨"/store"⟩) rfl rfl hok hstore hdevice).2⟩

/-- A device with btrfs on it is not formatted, and the run succeeds with the store
on it. -/
theorem reinit_keeps_btrfs_device :
    (∃ o, ((provision remakeOnDevice (some ⟨"/store"⟩)).outcome.runWith Scripted.host
          (hostWithDevice (.output "btrfs"))).1 = .ok o ∧
        o.useStore = true ∧ o.mountDevice = some "/dev/sdb1") ∧
      History.runsOf "mkfs.btrfs" ((provision remakeOnDevice (some ⟨"/store"⟩)).outcome.record
        Scripted.host (hostWithDevice (.output "btrfs"))) = [] := by
  have hreported : ((provision remakeOnDevice (some ⟨"/store"⟩)).outcome.runWith Scripted.host
      (hostWithDevice (.output "btrfs"))).1.toOption.any (fun o => o.useStore
        && o.mountDevice == some "/dev/sdb1") = true := by
    decide +kernel
  obtain ⟨o, hok, ho⟩ := exists_ok_of_any hreported
  refine ⟨⟨o, hok, by simpa using ho⟩, History.runsOf_eq_nil ?_⟩
  decide +kernel

end Native

end BtrfsStore
