import IndexWatch.Proofs.Selection
import IndexWatch.Proofs.Status.History

namespace IndexWatch

-- No job has a line that begins like the one for no jobs.
theorem head?_statusMessage (j : Job) (loading : Bool) :
    (statusMessage (some j) loading).toList.head? ≠ some 'N' := by
  cases hs : j.status <;> simp [statusMessage, hs, String.toList_append]

theorem statusMessage_eq_noJobs_iff {chosen : Option Job} {loading : Bool} :
    statusMessage chosen loading = "No indexing jobs queued." ↔ chosen = none ∧ loading = false := by
  cases chosen
  case none => cases loading <;> simp [statusMessage]
  case some j =>
    have hn : statusMessage (some j) loading ≠ "No indexing jobs queued." := by
      intro he
      have h := head?_statusMessage j loading
      rw [he] at h
      exact h rfl
    simpa using hn

-- As long as a state is not loaded, it knows of no jobs, and of no cancel of one.
structure StatusState.Coherent (s : StatusState) : Prop where
  jobs             : s.loading = true → s.jobs = []
  cancelInProgress : s.loading = true → s.cancelInProgress = false

namespace StatusState.Coherent

variable {s : StatusState}

theorem initial : Coherent {} where
  jobs _             := rfl
  cancelInProgress _ := rfl

theorem fetched {r : Fetched} {at_ : Timestamp} : (s.fetched r at_).Coherent := by
  cases r <;> exact ⟨nofun, nofun⟩

theorem chosen (h : s.Coherent) (hl : s.loading = true) : s.chosen = none :=
  Job.choose_eq_none_iff.2 (h.jobs hl)

-- A cancel begins only where a job is shown, which is behind the first refresh.
theorem cancelling {shown : Job} (h : s.Coherent) (hc : s.chosen = some shown) :
    s.cancelling.Coherent := by
  have hl : s.cancelling.loading ≠ true := by
    intro hl
    simp [h.chosen hl] at hc
  exact ⟨fun h => absurd h hl, fun h => absurd h hl⟩

-- The line of the view does not hide a job behind the line for a state that is not loaded.
theorem message_view (h : s.Coherent) {isConfigured : Bool} :
    (s.view isConfigured).message = statusMessage s.chosen s.loading := by
  cases hl : s.loading
  case false => simp [view, StatusView.present, hl]
  case true  =>
    rw [h.chosen hl]
    simp [view, StatusView.present, hl, StatusView.loading, statusMessage]

end StatusState.Coherent

namespace Controller

variable {c d : Controller} {t : Task} {trace : List Occurrence} {e : Event} {es : List Event}

theorem Sound.chosen_eq (s : Sound c) : c.store.chosen = c.store.kept.chosen := by
  simp [StatusStore.chosen, s.whole]

theorem landed_coherent (n : Nat) (r : Fetched) (h : c.store.kept.Coherent) :
    (c.landed n r).store.kept.Coherent := by
  cases hd : c.store.isDisposed
  case false =>
    rw [landed, StatusStore.modify_of_live hd]
    exact .fetched
  case true =>
    rw [landed, StatusStore.modify_of_isDisposed hd]
    exact h

theorem Moved.coherent (m : Moved c t d trace) (s : Sound c) (ht : t ∈ c.tasks)
    (h : c.store.kept.Coherent) : d.store.kept.Coherent := by
  cases m
  case resumes n r _ _ _ _ | completes n r _ _ _ _ | reloaded n r _ _ _ _ =>
    exact landed_coherent n r h
  case marks shown hs hw hc =>
    have live := (s.live_of_call ht (by simp [hw])).1
    rw [StatusStore.modify_of_live live]
    exact h.cancelling (s.chosen_eq ▸ hc)
  all_goals exact h

theorem Stepped.coherent (st : Stepped c e d trace) (s : Sound c) (h : c.store.kept.Coherent) :
    d.store.kept.Coherent := by
  cases st
  case moved ht _ m => exact m.coherent s ht h
  all_goals exact h

theorem Steps.coherent (st : Steps c es d trace) (h : c.store.kept.Coherent) :
    d.store.kept.Coherent := by
  induction st
  case refl           => exact h
  case step s st _ hi => exact hi (st.coherent s h)

theorem applied_last {r : Fetched} (h : (applied trace).getLast? = some r) :
    ∃ before n time after, trace = before ++ .applied n r time :: after ∧ applied after = [] := by
  induction trace using List.reverseRecOn
  case nil => simp [applied] at h
  case append_singleton trace o hi =>
    rw [applied_append] at h
    by_cases ho : applied [o] = []
    case pos =>
      rw [ho, List.append_nil] at h
      obtain ⟨before, n, time, after, rfl, ha⟩ := hi h
      exact ⟨before, n, time, after ++ [o], by simp, by rw [applied_append, ha, ho]; rfl⟩
    case neg =>
      cases o
      case applied n r' time =>
        have hr : applied [.applied n r' time] = [r'] := rfl
        rw [hr, List.getLast?_concat, Option.some_inj] at h
        exact ⟨trace, n, time, [], by rw [h], rfl⟩
      all_goals exact absurd rfl ho

section

variable {settings : StatusSettings} {analytics : Analytics Unit}

theorem life_coherent : (life settings analytics es).1.store.state.Coherent :=
  life_state ▸ life_steps.coherent .initial

-- What has been fetched last, once the state is loaded.
theorem life_last (h : (life settings analytics es).1.store.state.loading = false) :
    ∃ r, (applied (life settings analytics es).2).getLast? = some r := by
  have hn : applied (life settings analytics es).2 ≠ [] := fun ha => by
    simp [life_recounts.loading.2 ha] at h
  exact ⟨_, List.getLast?_eq_some_getLast hn⟩

theorem life_answered {r : Fetched}
    (h : (applied (life settings analytics es).2).getLast? = some r) :
    ∃ before n time after,
      (life settings analytics es).2 = before ++ .applied n r time :: after ∧
      applied after = [] ∧ .answer n (.fetched r) ∈ es := by
  obtain ⟨before, n, time, after, ht, ha⟩ := applied_last h
  exact ⟨before, n, time, after, ht, ha, (life_applied ht).1⟩

-- A loaded state without an error holds the list that has been answered last.
theorem life_jobs (h : (life settings analytics es).1.store.state.loading = false)
    (he : (life settings analytics es).1.store.state.lastError = none) :
    ∃ jobs, (applied (life settings analytics es).2).getLast? = some (.ok jobs) ∧
      (life settings analytics es).1.store.state.jobs = Job.order jobs := by
  obtain ⟨r, hr⟩ := life_last h
  have recounts := @life_recounts es settings analytics
  rw [recounts.lastError, hr] at he
  cases r
  case error e => simp [failure?] at he
  case ok jobs =>
    obtain ⟨front, hf⟩ := List.getLast?_eq_some_iff.1 hr
    exact ⟨jobs, hr, by rw [recounts.jobs, hf]; simp [jobs?]⟩

end

-- At every point of a life, with anything under way: what is shown of a state that is not loaded is
-- nothing but that, the line shown is the one for the job shown, and a loaded state comes from an
-- answer of the service, or tells the error. So does an empty queue that is shown without an error.
theorem presents_answers (settings : StatusSettings) (analytics : Analytics Unit)
    (es : List Event) :
    let trace := (life settings analytics es).2
    let state := (life settings analytics es).1.store.state
    let shown := (life settings analytics es).1.store.snapshot
    (state.loading && state.cancelInProgress) = false ∧
    (state.loading = true → state.jobs = [] ∧ state.chosen = none) ∧
    shown = state.snapshot settings.isConfigured ∧
    shown.view.message = statusMessage shown.chosen shown.loading ∧
    (state.loading = false →
      (∃ n jobs, .answer n (.fetched (.ok jobs)) ∈ es ∧ .ok jobs ∈ applied trace) ∨
        state.lastError.isSome) ∧
    (shown.view.message = "No indexing jobs queued." → state.lastError = none →
      ∃ before n time after, trace = before ++ .applied n (.ok []) time :: after ∧
        applied after = [] ∧ .answer n (.fetched (.ok [])) ∈ es) := by
  intro trace state shown
  have coherent : state.Coherent := life_coherent
  have captured : shown = state.snapshot settings.isConfigured := life_published
  have message : shown.view.message = statusMessage state.chosen state.loading := by
    rw [captured]
    exact coherent.message_view
  refine ⟨?_, fun hl => ⟨coherent.jobs hl, coherent.chosen hl⟩, captured, ?_, fun hl => ?_,
    fun hm he => ?_⟩
  case refine_1 =>
    cases hl : state.loading
    case false => rfl
    case true  => rw [coherent.cancelInProgress hl]; rfl
  case refine_2 =>
    rw [message, captured]
    rfl
  case refine_3 =>
    cases he : state.lastError
    case some e => exact .inr rfl
    case none =>
      obtain ⟨jobs, hj, -⟩ := life_jobs hl he
      obtain ⟨before, n, time, after, ht, ha, hn⟩ := life_answered hj
      exact .inl ⟨n, jobs, hn, List.mem_of_getLast? hj⟩
  case refine_4 =>
    obtain ⟨hc, hl⟩ := statusMessage_eq_noJobs_iff.1 (message ▸ hm)
    obtain ⟨jobs, hj, ho⟩ := life_jobs hl he
    have hn : jobs = [] := Job.order_eq_nil_iff.1 (ho ▸ Job.choose_eq_none_iff.1 hc)
    exact life_answered (hn ▸ hj)

theorem presents_empty_queue :
    let es : List Event := [.run 0, .answer 1 (.fetched (.ok [])), .run 0]
    let trace := (life {} .disabled es).2
    let store := (life {} .disabled es).1.store
    store.state.loading = false ∧ store.state.lastError = none ∧
    store.snapshot.view.message = "No indexing jobs queued." ∧
    ∃ before n time after, trace = before ++ .applied n (.ok []) time :: after ∧
      applied after = [] ∧ .answer n (.fetched (.ok [])) ∈ es := by
  intro es trace store
  have h := presents_answers {} .disabled es
  have hc : store.snapshot.view.message = statusMessage (Job.choose (Job.order [])) false := rfl
  have hm : store.snapshot.view.message = "No indexing jobs queued." := by
    rw [hc, Job.order_eq_nil_iff.2 rfl]
    rfl
  exact ⟨rfl, rfl, hm, h.2.2.2.2.2 hm rfl⟩

end Controller

end IndexWatch
