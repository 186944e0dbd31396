import IndexWatch.Proofs.Selection
import IndexWatch.Status.State

namespace IndexWatch

namespace JobStatus

-- The job runs, or runs until a requested cancel lands.
def Runs (s : JobStatus) : Prop := s = .inProgress ∨ s = .cancelRequested

instance : DecidablePred Runs := fun s =>
  inferInstanceAs (Decidable (s = .inProgress ∨ s = .cancelRequested))

theorem isActive_iff {s : JobStatus} : s.isActive = true ↔ s = .pending ∨ s.Runs := by
  cases s <;> simp [isActive, Runs]

theorem isCancellable_iff {s : JobStatus} :
    s.isCancellable = true ↔ s = .pending ∨ s = .inProgress := by
  cases s <;> simp [isCancellable]

end JobStatus

namespace Job

variable {jobs : List Job} {j : Job}

-- The first job of a list that runs.
def IsFirstRunning (jobs : List Job) (j : Job) : Prop :=
  ∃ before after, jobs = before ++ j :: after ∧ j.status.Runs ∧ ∀ k ∈ before, ¬k.status.Runs

-- There are jobs, and all of them wait.
def AllWait (jobs : List Job) : Prop := jobs ≠ [] ∧ ∀ j ∈ jobs, j.status = .pending

-- Whether the queue is taken: a job runs, or there is nothing but jobs that wait.
def IsTaken (jobs : List Job) : Prop := (∃ j ∈ jobs, j.status.Runs) ∨ AllWait jobs

-- Whether there is a job to cancel: no cancel of the first one that runs has been requested, or
-- none runs and there is nothing but jobs that wait.
def HasCancellable (jobs : List Job) : Prop :=
  (∃ j, IsFirstRunning jobs j ∧ j.status = .inProgress) ∨
    (¬∃ j ∈ jobs, j.status.Runs) ∧ AllWait jobs

theorem isFirstRunning_iff :
    IsFirstRunning jobs j ↔ (jobs.find? fun k => k.status.Runs) = some j := by
  simp only [IsFirstRunning, List.find?_eq_some_iff_append, decide_eq_true_eq,
    Bool.not_eq_true', decide_eq_false_iff_not]
  constructor
  · rintro ⟨before, after, hl, hj, hb⟩
    exact ⟨hj, before, after, hl, hb⟩
  · rintro ⟨hj, before, after, hl, hb⟩
    exact ⟨before, after, hl, hj, hb⟩

theorem IsFirstRunning.mem (h : IsFirstRunning jobs j) : j ∈ jobs :=
  List.mem_of_find?_eq_some (isFirstRunning_iff.1 h)

theorem IsFirstRunning.runs (h : IsFirstRunning jobs j) : j.status.Runs := by
  obtain ⟨_, _, -, hr, -⟩ := h
  exact hr

theorem IsFirstRunning.unique {k : Job} (hj : IsFirstRunning jobs j) (hk : IsFirstRunning jobs k) :
    j = k :=
  Option.some_inj.1 ((isFirstRunning_iff.1 hj).symm.trans (isFirstRunning_iff.1 hk))

inductive Represents (jobs : List Job) : Option Job → Prop
  | running {j : Job} (h : IsFirstRunning jobs j) : Represents jobs (some j)
  | settled {j : Job} (h : ¬∃ k ∈ jobs, k.status.Runs) (hj : j ∈ jobs) (hp : j.status ≠ .pending) :
      Represents jobs (some j)
  | waiting {j : Job} (h : ∀ k ∈ jobs, k.status = .pending) (hj : j ∈ jobs) :
      Represents jobs (some j)
  | nothing (h : jobs = []) : Represents jobs none

theorem represents_choose (jobs : List Job) : Represents jobs (choose jobs) := by
  rw [choose_eq_or]
  cases hr : jobs.find? fun k => k.status = .inProgress ∨ k.status = .cancelRequested
  case some j => exact .running (isFirstRunning_iff.2 hr)
  case none =>
    have hn : ¬∃ k ∈ jobs, k.status.Runs := by
      rintro ⟨k, hk, h⟩
      exact List.find?_eq_none.1 hr k hk (decide_eq_true h)
    rw [Option.none_or]
    cases hs : jobs.reverse.find? (·.status ≠ .pending)
    case some j =>
      have hj := List.mem_reverse.1 (List.mem_of_find?_eq_some hs)
      exact .settled hn hj (by simpa using List.find?_some hs)
    case none =>
      have hp : ∀ k ∈ jobs, k.status = .pending := by simpa using hs
      rw [Option.none_or]
      cases hl : jobs.reverse.find? fun _ => True
      case some j => exact .waiting hp (List.mem_reverse.1 (List.mem_of_find?_eq_some hl))
      case none =>
        refine .nothing (List.eq_nil_iff_forall_not_mem.2 fun k hk => ?_)
        exact List.find?_eq_none.1 hl k (List.mem_reverse.2 hk) (decide_eq_true trivial)

theorem not_runs_of_pending (h : ∀ k ∈ jobs, k.status = .pending) :
    ¬∃ k ∈ jobs, k.status.Runs := by
  rintro ⟨k, hk, hr⟩
  rw [h k hk] at hr
  revert hr
  decide

theorem isTaken_iff : (choose jobs).any (·.status.isActive) = true ↔ IsTaken jobs := by
  have h := represents_choose jobs
  generalize choose jobs = shown at h
  cases h
  case running j h =>
    have hj := JobStatus.isActive_iff.2 (.inr h.runs)
    exact iff_of_true hj (.inl ⟨j, h.mem, h.runs⟩)
  case settled j h hj hp =>
    refine iff_of_false ?_ ?_
    · simp only [Option.any_some, JobStatus.isActive_iff]
      exact not_or.2 ⟨hp, fun hr => h ⟨j, hj, hr⟩⟩
    · exact not_or.2 ⟨h, fun ha => hp (ha.2 j hj)⟩
  case waiting j h hj =>
    exact iff_of_true (JobStatus.isActive_iff.2 (.inl (h j hj))) (.inr ⟨List.ne_nil_of_mem hj, h⟩)
  case nothing h =>
    subst h
    simp [IsTaken, AllWait]

-- A job that runs and can be cancelled is shown exactly if it is the first one that runs.
theorem choose_inProgress_iff : choose jobs = some j ∧ j.status = .inProgress ↔
    IsFirstRunning jobs j ∧ j.status = .inProgress := by
  refine and_congr_left fun hs => ?_
  have hr : j.status.Runs := .inl hs
  have h := represents_choose jobs
  generalize choose jobs = shown at h
  cases h
  case running k h =>
    rw [Option.some_inj]
    exact ⟨fun he => he ▸ h, fun hj => h.unique hj⟩
  case settled k h hk hp =>
    refine iff_of_false (fun he => ?_) fun hj => h ⟨j, hj.mem, hr⟩
    exact h ⟨k, hk, Option.some_inj.1 he ▸ hr⟩
  case waiting k h hk =>
    have hn := not_runs_of_pending h
    refine iff_of_false (fun he => ?_) fun hj => hn ⟨j, hj.mem, hr⟩
    exact hn ⟨k, hk, Option.some_inj.1 he ▸ hr⟩
  case nothing h =>
    subst h
    exact iff_of_false nofun fun hj => List.not_mem_nil hj.mem

theorem hasCancellable_iff :
    (choose jobs).any (·.status.isCancellable) = true ↔ HasCancellable jobs := by
  have h := represents_choose jobs
  generalize choose jobs = shown at h
  cases h
  case running j h =>
    have hp : j.status ≠ .pending := fun hp => by simpa [hp, JobStatus.Runs] using h.runs
    have hn : ¬¬∃ k ∈ jobs, k.status.Runs := fun hn => hn ⟨j, h.mem, h.runs⟩
    rw [Option.any_some, JobStatus.isCancellable_iff, or_iff_right hp, HasCancellable,
      or_iff_left fun ha => hn ha.1]
    exact ⟨fun hs => ⟨j, h, hs⟩, fun ⟨k, hk, hs⟩ => h.unique hk ▸ hs⟩
  case settled j h hj hp =>
    refine iff_of_false ?_ ?_
    · rw [Option.any_some, JobStatus.isCancellable_iff]
      exact not_or.2 ⟨hp, fun hr => h ⟨j, hj, .inl hr⟩⟩
    · exact not_or.2 ⟨fun ⟨k, hk, _⟩ => h ⟨k, hk.mem, hk.runs⟩, fun ha => hp (ha.2.2 j hj)⟩
  case waiting j h hj =>
    exact iff_of_true (JobStatus.isCancellable_iff.2 (.inl (h j hj)))
      (.inr ⟨not_runs_of_pending h, List.ne_nil_of_mem hj, h⟩)
  case nothing h =>
    subst h
    simp [HasCancellable, AllWait, IsFirstRunning]

theorem HasCancellable.isTaken (h : HasCancellable jobs) : IsTaken jobs := by
  rcases h with ⟨j, hj, -⟩ | ⟨-, ha⟩
  · exact .inl ⟨j, hj.mem, hj.runs⟩
  · exact .inr ha

theorem eq_percent_iff {n : Nat} :
    n = j.percent ↔ (n : Int) = max 0 (min 100 j.progress.toInt) := by
  simp only [percent]
  omega

theorem percent_le : j.percent ≤ 100 :=
  Nat.min_le_right ..

end Job

namespace StatusView

variable {chosen : Option Job} {flags : ViewFlags}

theorem disabled_present : (present chosen flags).indexButton.disabled = true ↔
    flags.loading = true ∨ flags.isConfigured = false ∨ chosen.any (·.status.isActive) = true := by
  unfold present
  cases flags.loading <;> cases flags.isConfigured <;> cases chosen.any (·.status.isActive) <;>
    simp [loading]

theorem label_present : (present chosen flags).indexButton.label = .inProgress ↔
    chosen.any (·.status.isActive) = true ∧ flags.loading = false := by
  unfold present
  cases flags.loading <;> cases chosen.any (·.status.isActive) <;> simp [loading]

theorem help_present : (present chosen flags).indexButton.help = .cancelIndexing ↔
    chosen.any (·.status.isActive) = true ∧ flags.loading = false := by
  unfold present
  cases flags.loading <;> cases chosen.any (·.status.isActive) <;> simp [loading]

theorem cancelVisible_present : (present chosen flags).cancelVisible = true ↔
    chosen.any (·.status.isCancellable) = true ∧ flags.loading = false ∧
      flags.cancelInProgress = false := by
  unfold present
  cases flags.loading <;> cases flags.cancelInProgress <;>
    cases chosen.any (·.status.isCancellable) <;> simp [loading]

-- While the panel loads, its line is the one for no job.
theorem message_present : (present chosen flags).message =
    statusMessage (if flags.loading then none else chosen) flags.loading := by
  unfold present
  cases flags.loading <;> rfl

end StatusView

-- The line for a job that runs, with its progress.
def progressLine (percent : String) : String := "Job in progress. " ++ percent ++ "% complete."

theorem toList_progressLine {text : String} : (progressLine text).toList =
    "Job in progress. ".toList ++ text.toList ++ "% complete.".toList := by
  unfold progressLine
  rw [String.toList_append, String.toList_append]

theorem progressLine_inj {x y : String} : progressLine x = progressLine y ↔ x = y := by
  rw [← String.toList_inj, toList_progressLine, toList_progressLine, List.append_cancel_right_eq,
    List.append_cancel_left_eq, String.toList_inj]

-- No other line begins like that.
theorem take_statusMessage {j : Job} {loading : Bool} (h : j.status ≠ .inProgress) :
    (statusMessage (some j) loading).toList.take 5 ≠ ['J', 'o', 'b', ' ', 'i'] := by
  cases hs : j.status <;> simp [statusMessage, hs, String.toList_append] at h ⊢

theorem statusMessage_eq_progress_iff {chosen : Option Job} {loading : Bool} {text : String} :
    statusMessage chosen loading = progressLine text ↔
      ∃ j, (chosen = some j ∧ j.status = .inProgress) ∧ text = toString j.percent := by
  have hp : (progressLine text).toList.take 5 = ['J', 'o', 'b', ' ', 'i'] := by
    rw [toList_progressLine]
    rfl
  cases chosen
  case none =>
    refine iff_of_false (fun he => ?_) fun ⟨_, ⟨hj, _⟩, _⟩ => nomatch hj
    rw [← he] at hp
    cases loading <;> simp [statusMessage] at hp
  case some j =>
    by_cases hs : j.status = .inProgress
    case pos =>
      have hm : statusMessage (some j) loading = progressLine (toString j.percent) := by
        simp only [statusMessage, hs]
        rfl
      rw [hm, progressLine_inj]
      constructor
      · exact fun he => ⟨j, ⟨rfl, hs⟩, he.symm⟩
      · rintro ⟨k, ⟨hk, -⟩, rfl⟩
        rw [Option.some_inj.1 hk]
    case neg =>
      refine iff_of_false (fun he => ?_) fun ⟨k, ⟨hk, hr⟩, _⟩ => hs (Option.some_inj.1 hk ▸ hr)
      exact take_statusMessage hs (he ▸ hp)

-- The panel for any list of jobs and any flags. What it offers depends on the whole list: a job
-- that waits behind one that has ended neither takes the queue nor can be cancelled.
theorem panel_of_jobs (s : StatusState) (isConfigured : Bool) :
    let panel := s.view isConfigured
    (panel.indexButton.disabled = true ↔
      s.loading = true ∨ isConfigured = false ∨ Job.IsTaken s.jobs) ∧
    (panel.indexButton.label = .inProgress ↔ panel.indexButton.help = .cancelIndexing) ∧
    (panel.indexButton.help = .cancelIndexing ↔ Job.IsTaken s.jobs ∧ s.loading = false) ∧
    (panel.cancelVisible = true ↔
      Job.HasCancellable s.jobs ∧ s.loading = false ∧ s.cancelInProgress = false) ∧
    (panel.cancelVisible = true → panel.indexButton.disabled = true) ∧
    ∀ text, panel.message = progressLine text ↔ s.loading = false ∧
      ∃ j, (Job.IsFirstRunning s.jobs j ∧ j.status = .inProgress) ∧
        ∃ n : Nat, text = toString n ∧ n ≤ 100 ∧ (n : Int) = max 0 (min 100 j.progress.toInt) := by
  intro panel
  have taken : s.chosen.any (·.status.isActive) = true ↔ Job.IsTaken s.jobs := Job.isTaken_iff
  have disabled : panel.indexButton.disabled = true ↔
      s.loading = true ∨ isConfigured = false ∨ Job.IsTaken s.jobs := by
    rw [← taken]
    exact StatusView.disabled_present
  have help : panel.indexButton.help = .cancelIndexing ↔
      Job.IsTaken s.jobs ∧ s.loading = false := by
    rw [← taken]
    exact StatusView.help_present
  have label : panel.indexButton.label = .inProgress ↔
      Job.IsTaken s.jobs ∧ s.loading = false := by
    rw [← taken]
    exact StatusView.label_present
  have cancel : panel.cancelVisible = true ↔
      Job.HasCancellable s.jobs ∧ s.loading = false ∧ s.cancelInProgress = false := by
    rw [← Job.hasCancellable_iff]
    exact StatusView.cancelVisible_present
  refine ⟨disabled, label.trans help.symm, help, cancel, fun hc => ?_, fun text => ?_⟩
  case refine_1 => exact disabled.2 (.inr (.inr (cancel.1 hc).1.isTaken))
  case refine_2 =>
    have message : panel.message = statusMessage (if s.loading then none else s.chosen) s.loading :=
      StatusView.message_present
    rw [message, statusMessage_eq_progress_iff]
    cases hl : s.loading
    case true  => simp
    case false =>
      simp only [Bool.false_eq_true, if_false, true_and]
      refine exists_congr fun j => and_congr Job.choose_inProgress_iff ?_
      constructor
      · exact fun ht => ⟨_, ht, Job.percent_le, Job.eq_percent_iff.1 rfl⟩
      · rintro ⟨n, rfl, -, hn⟩
        rw [Job.eq_percent_iff.2 hn]

-- The first of the jobs that run decides, here with a progress below zero. A job that waits decides
-- only where there is no other: behind one that has ended it leaves the queue free.
theorem panel_of_jobs_of_mixed :
    let job (status : JobStatus) :=
      (Job.new "a" .postIndexing status).withProgress Int64.minValue
    let running : StatusState :=
      { jobs := [job .pending, job .inProgress, job .cancelRequested], loading := false }
    let settled : StatusState := { jobs := [job .success, job .pending], loading := false }
    (running.view false).cancelVisible = true ∧
      (running.view false).indexButton.disabled = true ∧
      (running.view false).message = progressLine "0" ∧
      (settled.view true).cancelVisible = false ∧
      (settled.view true).indexButton.disabled = false := by
  intro job running settled
  obtain ⟨-, -, -, cancel, disabled, message⟩ := panel_of_jobs running false
  obtain ⟨settled_disabled, -, -, settled_cancel, -, -⟩ := panel_of_jobs settled true
  have first : Job.IsFirstRunning running.jobs (job .inProgress) := Job.isFirstRunning_iff.2 rfl
  have visible : (running.view false).cancelVisible = true :=
    cancel.2 ⟨.inl ⟨_, first, rfl⟩, rfl, rfl⟩
  have free : ¬Job.IsTaken settled.jobs := by
    rw [← Job.isTaken_iff]
    exact Bool.false_ne_true
  refine ⟨visible, disabled visible, ?_, ?_, ?_⟩
  case refine_1 => exact (message "0").2 ⟨rfl, _, ⟨first, rfl⟩, 0, rfl, by decide, by decide⟩
  case refine_2 => exact Bool.eq_false_iff.2 fun h => free (settled_cancel.1 h).1.isTaken
  case refine_3 =>
    refine Bool.eq_false_iff.2 fun h => ?_
    simpa [free, settled] using settled_disabled.1 h

end IndexWatch
