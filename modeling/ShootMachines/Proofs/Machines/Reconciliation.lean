import ShootMachines.Lookup.Inventory
import ShootMachines.Proofs.Machines.PlanPools

/-!
# Reconciling workers

A reconciler generates the report of one worker after the other. The provider status of a report is
written down, and the next worker is reconciled with it; a step that fails leaves it alone. The status
thus remembers the images of the last report (`Remembers`), through being encoded and strictly decoded
again, and `Scheme.Reachable.reconcile_retires_images` says what follows for the images that are
reported out of use.
-/

namespace ShootMachines

/-- The worker with a provider status that was written of it, or with none. -/
def Worker.withProviderStatus (worker : Worker) (status : Option Payload) : Worker :=
  { worker with status := status.map fun payload => ⟨some payload⟩ }

/-- What a reconciler generates reports with. -/
structure Reconciler where
  scheme : Scheme
  credentials : CredentialSource
  cluster : Cluster

/-- How the reconciliation of a worker ends. -/
abbrev Reconciled := Except Failure MachineReport

/-- The provider status that is written down after a step. -/
def Reconciled.status (status : Option Payload) : Reconciled → Option Payload
  | .ok report => some (MachineReport.statusSchema.encode report.providerStatus)
  | .error _ => status

/-- The images in use after a step: those of its report, or else those from before. -/
def Reconciled.images (images : List MachineImage) : Reconciled → List MachineImage
  | .ok report => report.plan.images
  | .error _ => images

/-- The images of the last report, or none before the first one. -/
def lastImages (outcomes : List Reconciled) : List MachineImage :=
  outcomes.foldl Reconciled.images []

/-- The reports, without the failures. -/
def reports (outcomes : List Reconciled) : List MachineReport :=
  outcomes.filterMap Except.toOption

namespace Reconciler

/-- The plan of a worker, whatever was reported of it. -/
def plan (reconciler : Reconciler) (worker : Worker) : Except Failure MachinePlan :=
  (MachinePlan.generate reconciler.scheme reconciler.credentials worker reconciler.cluster).result

/-- Reconcile a worker that has a written status. -/
def step (reconciler : Reconciler) (status : Option Payload) (worker : Worker) : Reconciled :=
  (MachineReport.generate reconciler.scheme reconciler.credentials
    (worker.withProviderStatus status) reconciler.cluster).result

/-- Reconcile workers one after the other, the first one with a written status. -/
def run (reconciler : Reconciler) (status : Option Payload) : List Worker → List Reconciled
  | [] => []
  | worker :: rest =>
      let outcome := reconciler.step status worker
      outcome :: reconciler.run (outcome.status status) rest

end Reconciler

/-- A status is written as a payload of its kind. -/
theorem encode_provider_status (status : WorkerStatus) :
    MachineReport.statusSchema.encode
        ⟨providerApiVersion, ProviderKind.workerStatus.name, status⟩ =
      encodeConfig .workerStatus status := by
  have hsorted (version kind images : Payload) :
      insertEntry "machineImages" images
          (insertEntry "kind" kind (insertEntry "apiVersion" version [])) =
        insertEntry "kind" kind
          (insertEntry "apiVersion" version (insertEntry "machineImages" images [])) := rfl
  unfold encodeConfig ProviderKind.schema WorkerStatus.schema MachineReport.statusSchema
  simp only [Schema.ofParts, Schema.encode, Fields.required, Fields.default, Fields.encode,
    Schema.omits, Bool.false_eq_true, if_false, Payload.ofFields, Payload.withField, Dict.ofList,
    List.foldl_cons, List.foldl_nil, Dict.insert, Dict.empty, hsorted]

section Status

variable {scheme : Scheme} {credentials : CredentialSource} {worker : Worker} {cluster : Cluster}

/-- The plan of a worker in a provider cluster is the same whatever was reported of the worker. -/
theorem compile_with_provider_status (provider : ProviderCluster) (status : Option Payload) :
    (MachinePlan.compile scheme (worker.withProviderStatus status) cluster provider).result =
      (MachinePlan.compile scheme worker cluster provider).result := by
  have hbase : worker.SharesBase (worker.withProviderStatus status) := ⟨rfl, rfl, rfl, rfl⟩
  rw [MachinePlan.compile_of_shares_base hbase, MachinePlan.compile_result]
  rfl

/-- The plan of a worker is the same whatever was reported of the worker. -/
theorem generate_with_provider_status (status : Option Payload) :
    (MachinePlan.generate scheme credentials (worker.withProviderStatus status) cluster).result =
      (MachinePlan.generate scheme credentials worker cluster).result := by
  unfold MachinePlan.generate
  simp only [Run.result_bind, Run.result_lift, compile_with_provider_status]
  rfl

end Status

/-- A written status remembers some images if it is strictly decoded as the status that lists them. -/
def Remembers (scheme : Scheme) (status : Option Payload) (images : List MachineImage) : Prop :=
  scheme.strictDecoder.decode? .workerStatus status = .ok ⟨images⟩

/-- Without a written status, no images are remembered. -/
theorem remembers_none (scheme : Scheme) : Remembers scheme none [] := rfl

namespace Reconciler

variable {reconciler : Reconciler} {status : Option Payload} {images : List MachineImage}

/-- The report of a plan for a worker whose written status remembers some images. -/
def reportOf (worker : Worker) (images : List MachineImage) (plan : MachinePlan) : MachineReport :=
  ⟨plan, MachinePlan.volumeLabels worker.metadata.anySpace,
    ⟨providerApiVersion, ProviderKind.workerStatus.name, plan.status⟩, plan.retiredImages ⟨images⟩⟩

/-- A step fails only if the plan of the worker does, and its report depends on the written status
through the images that it remembers. -/
theorem step_eq (h : Remembers reconciler.scheme status images) (worker : Worker) :
    reconciler.step status worker = (reconciler.plan worker).map (reportOf worker images) := by
  have hstatus : (worker.withProviderStatus status).providerStatus = status := by
    cases status <;> rfl
  have hearlier :
      reconciler.scheme.workerStatus (worker.withProviderStatus status) = .ok ⟨images⟩ := by
    unfold Scheme.workerStatus decodeSection
    rw [hstatus]
    exact map_error_eq_ok_iff.2 h
  unfold step plan MachineReport.generate
  simp only [Run.result_bind, Run.result_lift, generate_with_provider_status]
  cases (MachinePlan.generate reconciler.scheme reconciler.credentials worker
    reconciler.cluster).result with
  | error failure => rfl
  | ok plan =>
      rw [ok_bind, MachinePlan.report, hearlier, ok_bind, convert_config_eq, ok_bind]
      rfl

/-- What a step writes down remembers the images in use after it. -/
theorem remembers_step (hreachable : reconciler.scheme.Reachable)
    (h : Remembers reconciler.scheme status images) (worker : Worker) :
    Remembers reconciler.scheme ((reconciler.step status worker).status status)
      ((reconciler.step status worker).images images) := by
  rw [step_eq h]
  cases reconciler.plan worker with
  | error failure => exact h
  | ok plan =>
      show Remembers reconciler.scheme (some (MachineReport.statusSchema.encode
        ⟨providerApiVersion, ProviderKind.workerStatus.name, plan.status⟩)) plan.images
      rw [encode_provider_status]
      exact @Decoder.decode_encode_config reconciler.scheme.strictDecoder .workerStatus
        (hreachable.recognizes .workerStatus) plan.status

/-- Every step of a run is that of its worker, with the images of the last report before it. -/
theorem run_getElem? (hreachable : reconciler.scheme.Reachable)
    (h : Remembers reconciler.scheme status images) {workers : List Worker} {number : Nat}
    {outcome : Reconciled} (houtcome : (reconciler.run status workers)[number]? = some outcome) :
    ∃ worker, workers[number]? = some worker ∧
      outcome = (reconciler.plan worker).map (reportOf worker
        (((reconciler.run status workers).take number).foldl Reconciled.images images)) := by
  -- The run goes on with another status, so the induction is for any status that remembers images.
  induction workers generalizing status images number with
  | nil => cases houtcome
  | cons worker rest ih =>
      cases number with
      | zero =>
          obtain rfl := Option.some.inj houtcome
          exact ⟨worker, rfl, step_eq h worker⟩
      | succ number => exact ih (remembers_step hreachable h worker) houtcome

/-- The plans of a run are those of the workers: the written status fails no step. -/
theorem map_plan_run (hreachable : reconciler.scheme.Reachable)
    (h : Remembers reconciler.scheme status images) (workers : List Worker) :
    (reconciler.run status workers).map (Except.map MachineReport.plan) =
      workers.map reconciler.plan := by
  induction workers generalizing status images with
  | nil => rfl
  | cons worker rest ih =>
      have hplan : (reconciler.step status worker).map MachineReport.plan =
          reconciler.plan worker := by
        rw [step_eq h]
        cases reconciler.plan worker <;> rfl
      rw [run, List.map_cons, List.map_cons, hplan, ih (remembers_step hreachable h worker)]

/-- Workers whose plan fails can be left out of a run. -/
theorem reports_run_filter (hreachable : reconciler.scheme.Reachable)
    (h : Remembers reconciler.scheme status images) (workers : List Worker) :
    reports (reconciler.run status (workers.filter fun worker => (reconciler.plan worker).isOk)) =
      reports (reconciler.run status workers) := by
  induction workers generalizing status images with
  | nil => rfl
  | cons worker rest ih =>
      have hrest := ih (remembers_step hreachable h worker)
      have hstep := step_eq h worker
      rw [List.filter_cons, run]
      unfold reports at hrest ⊢
      cases hplan : reconciler.plan worker with
      | error failure =>
          -- The step writes nothing down: the rest of the run starts from the same status.
          rw [hplan] at hstep
          rw [hstep] at hrest ⊢
          exact hrest
      | ok plan =>
          rw [hplan] at hstep
          rw [hstep] at hrest
          show ((reconciler.run status (worker :: _)).filterMap Except.toOption) = _
          rw [run, hstep]
          exact congrArg (List.cons _) hrest

/-- The report of every step is that of a plan, which lists its images once. -/
theorem run_eq_ok (hreachable : reconciler.scheme.Reachable) {workers : List Worker} {number : Nat}
    {report : MachineReport}
    (hreport : (reconciler.run none workers)[number]? = some (.ok report)) :
    DistinctImages report.plan.images ∧
      report.retiredImages = report.plan.retiredImages
        ⟨lastImages ((reconciler.run none workers).take number)⟩ := by
  obtain ⟨worker, _, houtcome⟩ := run_getElem? hreachable (remembers_none _) hreport
  cases hplan : reconciler.plan worker with
  | error failure =>
      rw [hplan] at houtcome
      cases houtcome
  | ok plan =>
      rw [hplan] at houtcome
      obtain rfl := Except.ok.inj houtcome
      exact ⟨MachinePlan.distinct_images_of_generate hplan, rfl⟩

end Reconciler

/-- One more step leaves the images of its report, or else those from before; after the last one they
stay. -/
theorem last_images_take_succ (outcomes : List Reconciled) (number : Nat) :
    lastImages (outcomes.take (number + 1)) =
      outcomes[number]?.elim (lastImages (outcomes.take number))
        (Reconciled.images (lastImages (outcomes.take number))) :=
  foldl_take_succ _ [] outcomes number

/-- The images of the last report are distinct if those of every report are. -/
theorem distinct_last_images {outcomes : List Reconciled}
    (h : ∀ (number : Nat) (report : MachineReport), outcomes[number]? = some (.ok report) →
      DistinctImages report.plan.images)
    (number : Nat) : DistinctImages (lastImages (outcomes.take number)) := by
  refine List.foldlRecOn (motive := DistinctImages) _ _ List.Pairwise.nil ?_
  intro images himages outcome houtcome
  cases outcome with
  | error failure => exact himages
  | ok report =>
      obtain ⟨position, hposition⟩ := List.getElem?_of_mem (List.mem_of_mem_take houtcome)
      exact h position report hposition

/-- What holds first and does not hold in the end stops to hold at some step in between. -/
theorem exists_last_step {property : Nat → Prop} {first last : Nat} (hle : first ≤ last)
    (hfirst : property first) (hlast : ¬property last) :
    ∃ number, first ≤ number ∧ number < last ∧ property number ∧ ¬property (number + 1) := by
  induction hle with
  | refl => exact absurd hfirst hlast
  | @step reached hle ih =>
      by_cases hreached : property reached
      · exact ⟨reached, hle, Nat.lt_succ_self reached, hreached, hlast⟩
      · obtain ⟨number, hfrom, hto, hholds, hends⟩ := ih hreached
        exact ⟨number, hfrom, Nat.lt_succ_of_lt hto, hholds, hends⟩

/-- An image that leaves the images of the last report is retired at the step that it leaves them. -/
theorem exists_retired_of_last_images {outcomes : List Reconciled} {number : Nat}
    {image : MachineImage}
    (hretired : ∀ report, outcomes[number]? = some (.ok report) →
      report.retiredImages = report.plan.retiredImages ⟨lastImages (outcomes.take number)⟩)
    (hused : (lastImages (outcomes.take number)).any image.sameVersion = true)
    (hunused : ¬(lastImages (outcomes.take (number + 1))).any image.sameVersion = true) :
    ∃ report, outcomes[number]? = some (.ok report) ∧
      ∃ retired ∈ report.retiredImages, image.sameVersion retired = true := by
  rw [last_images_take_succ] at hunused
  -- The images changed with this step, so that it ended with a report.
  match houtcome : outcomes[number]? with
  | none =>
      rw [houtcome] at hunused
      exact absurd hused hunused
  | some (.error failure) =>
      rw [houtcome] at hunused
      exact absurd hused hunused
  | some (.ok report) =>
      rw [houtcome] at hunused
      obtain ⟨retired, hlisted, hsame⟩ := List.any_eq_true.1 hused
      refine ⟨report, rfl, retired, ?_, hsame⟩
      rw [hretired report houtcome, MachinePlan.mem_retired_iff, ← MachinePlan.uses_congr hsame]
      exact ⟨hlisted, Bool.eq_false_iff.2 hunused⟩

/-- Whatever workers are reconciled one after the other: the plan of every step, or its failure, is that
of the worker by itself. The retired images of a report are those of the last report before it that the
plan does not use, in order, and none of them is in use; an image of a name and version is among them
once if it goes out of use with the report, and not otherwise. An image that was in use at some report
and is not at a later one is thus retired on the way, and leaving the failing workers out changes no
report. -/
theorem Scheme.Reachable.reconcile_retires_images {reconciler : Reconciler}
    (hreachable : reconciler.scheme.Reachable) (workers : List Worker) :
    (reconciler.run none workers).map (Except.map MachineReport.plan) =
        workers.map reconciler.plan ∧
    (∀ (number : Nat) (report : MachineReport),
      (reconciler.run none workers)[number]? = some (.ok report) →
      report.retiredImages =
        (lastImages ((reconciler.run none workers).take number)).filter
          (fun image => !report.plan.uses image) ∧
      (∀ image ∈ report.retiredImages, report.plan.uses image = false) ∧
      ∀ image : MachineImage, report.retiredImages.countP image.sameVersion =
        if (lastImages ((reconciler.run none workers).take number)).any image.sameVersion &&
          !report.plan.uses image then 1 else 0) ∧
    (∀ (first last : Nat) (earlier later : MachineReport), first < last →
      (reconciler.run none workers)[first]? = some (.ok earlier) →
      (reconciler.run none workers)[last]? = some (.ok later) →
      ∀ image : MachineImage, earlier.plan.uses image = true → later.plan.uses image = false →
        ∃ (number : Nat) (report : MachineReport), first < number ∧ number ≤ last ∧
          (reconciler.run none workers)[number]? = some (.ok report) ∧
          ∃ retired ∈ report.retiredImages, image.sameVersion retired = true) ∧
    reports (reconciler.run none (workers.filter fun worker => (reconciler.plan worker).isOk)) =
      reports (reconciler.run none workers) := by
  have hremembers := remembers_none reconciler.scheme
  have hdistinct := @distinct_last_images (reconciler.run none workers) fun number report hreport =>
    (Reconciler.run_eq_ok hreachable hreport).1
  refine ⟨Reconciler.map_plan_run hreachable hremembers workers, ?_, ?_,
    Reconciler.reports_run_filter hreachable hremembers workers⟩
  · intro number report hreport
    obtain ⟨_, hretired⟩ := Reconciler.run_eq_ok hreachable hreport
    rw [hretired]
    exact ⟨rfl, fun image himage => (MachinePlan.mem_retired_iff.1 himage).2,
      MachinePlan.count_retired (hdistinct number)⟩
  · intro first last earlier later hlt hearlier hlater image hused hunused
    have hfirst : (lastImages ((reconciler.run none workers).take (first + 1))).any
        image.sameVersion = true := by
      rw [last_images_take_succ, hearlier]
      exact hused
    have hlast : ¬(lastImages ((reconciler.run none workers).take (last + 1))).any
        image.sameVersion = true := by
      rw [last_images_take_succ, hlater]
      exact Bool.eq_false_iff.1 hunused
    obtain ⟨number, hfrom, hto, hholds, hends⟩ := @exists_last_step
      (fun number =>
        (lastImages ((reconciler.run none workers).take number)).any image.sameVersion = true)
      (first + 1) (last + 1) (by omega) hfirst hlast
    obtain ⟨report, hreport, hretired⟩ := exists_retired_of_last_images
      (fun report hreport => (Reconciler.run_eq_ok hreachable hreport).2) hholds hends
    exact ⟨number, report, hfrom, Nat.le_of_lt_succ hto, hreport, hretired⟩

namespace Reconciler

/-- A reconciler whose cloud profile offers a machine type and two versions of an image. -/
def sample : Reconciler where
  scheme := .standard
  credentials := (SecretStore.addKubeconfig {} "space" "secret" []).source
  cluster := {
    cloudProfile := ⟨.empty, "kubevirt",
      [⟨"small", ⟨"1"⟩, ⟨"0"⟩, ⟨"1Gi"⟩, none, some ⟨"standard", some ⟨"10Gi"⟩, ""⟩⟩], [],
      some (encodeConfig .profileConfig
        ⟨[⟨"linux", [⟨"1", "https://images/1"⟩, ⟨"2", "https://images/2"⟩]⟩], []⟩)⟩
    shoot := ⟨.empty, "profile", "region", "", ⟨"1.31.0"⟩, ⟨none, none, none, none⟩,
      ⟨"kubevirt", none, none, []⟩⟩ }

/-- A worker with one pool, of machines with a version of the image. -/
def sampleWorker (version : String) : Worker where
  metadata := .empty
  spec := ⟨"kubevirt", "region", ⟨"secret", "space"⟩, none, some [0],
    [⟨"pool", "small", ⟨"linux", version⟩, 1, 1, .int 1, .int 0, .empty, .empty, [], none, none, [],
      ["a"], none, none, none⟩]⟩
  status := none

/-- A step whose report passes a check has such a report. -/
theorem report_of_any {outcomes : List Reconciled} {number : Nat} {check : MachineReport → Bool}
    (h : (outcomes[number]?.bind Except.toOption).any check = true) :
    ∃ report, outcomes[number]? = some (.ok report) ∧ check report = true := by
  obtain ⟨report, hreport, hcheck⟩ := (Option.any_eq_true _ _).1 h
  obtain ⟨outcome, houtcome, hok⟩ := Option.bind_eq_some_iff.1 hreport
  cases outcome with
  | error failure => cases hok
  | ok reached =>
      obtain rfl := Option.some.inj hok
      exact ⟨reached, houtcome, hcheck⟩

/-- The first version of the sample image is retired once the second one has replaced it, past a step
that fails. -/
theorem sample_image_retired :
    ∃ (number : Nat) (report : MachineReport), 0 < number ∧ number ≤ 2 ∧
      (sample.run none [sampleWorker "1", sampleWorker "3", sampleWorker "2"])[number]? =
        some (.ok report) ∧
      ∃ retired ∈ report.retiredImages,
        MachineImage.sameVersion ⟨"linux", "1", "https://images/1"⟩ retired = true := by
  obtain ⟨earlier, hearlier, hused⟩ := @report_of_any
    (sample.run none [sampleWorker "1", sampleWorker "3", sampleWorker "2"]) 0
    (fun report => report.plan.uses ⟨"linux", "1", "https://images/1"⟩) (by decide +kernel)
  obtain ⟨later, hlater, hunused⟩ := @report_of_any
    (sample.run none [sampleWorker "1", sampleWorker "3", sampleWorker "2"]) 2
    (fun report => !report.plan.uses ⟨"linux", "1", "https://images/1"⟩) (by decide +kernel)
  rw [Bool.not_eq_true'] at hunused
  exact (@Scheme.Reachable.reconcile_retires_images sample .standard _).2.2.1 0 2 earlier later
    (by decide) hearlier hlater _ hused hunused

end Reconciler

end ShootMachines
