import Mathlib.Data.List.Induction
import IndexWatch.Proofs.Status.Ledger

namespace IndexWatch.Controller

variable {c d : Controller} {t : Task} {trace : List Occurrence} {e : Event} {es : List Event}

-- What the refreshes applied so far have fetched, in the order of their completion.
def applied (trace : List Occurrence) : List Fetched :=
  trace.filterMap fun
    | .applied _ r _ => some r
    | _ => none

theorem applied_append {before after : List Occurrence} :
    applied (before ++ after) = applied before ++ applied after :=
  List.filterMap_append ..

-- The list of jobs that has been fetched, if any.
def jobs? : Fetched → Option (List Job)
  | .ok jobs => some jobs
  | .error _ => none

-- What is said of a fetch that has failed.
def failure? : Fetched → Option String
  | .ok _ => none
  | .error e => some e.message

-- A cancel that found a job has begun behind the last refresh applied.
def Marked (trace : List Occurrence) : Prop :=
  ∃ before shown after, trace = before ++ .marked shown :: after ∧ applied after = []

-- The state that a trace tells of.
structure Recounts (trace : List Occurrence) (s : StatusState) : Prop where
  jobs             : s.jobs = (((applied trace).filterMap jobs?).getLast?.map Job.order).getD []
  loading          : s.loading = true ↔ applied trace = []
  lastError        : s.lastError = (applied trace).getLast?.bind failure?
  lastRefreshed    : s.lastRefreshed.isSome ↔ ∃ jobs, .ok jobs ∈ applied trace
  cancelInProgress : s.cancelInProgress = true ↔ Marked trace

def tell (s : StatusState) : Occurrence → StatusState
  | .applied _ r time => s.fetched r ⟨time⟩
  | .marked _ => s.cancelling
  | _ => s

theorem foldl_tell_did {effects : List Effect} {s : StatusState} :
    (effects.map .did).foldl tell s = s := by
  induction effects <;> simp_all [tell]

theorem foldl_tell_landing {k : Trigger} {n : Nat} {r : Fetched} :
    (c.landing k n r).foldl tell c.store.kept = (c.landed n r).store.kept := by
  rw [landing, List.foldl_append, foldl_tell_did]
  cases h : c.store.isDisposed
  case false => simp [landed, StatusStore.modify_of_live h, tell]
  case true  => simp [landed, StatusStore.modify_of_isDisposed h, tell]

theorem Moved.kept_eq (m : Moved c t d trace) (s : Sound c) (ht : t ∈ c.tasks) :
    d.store.kept = trace.foldl tell c.store.kept := by
  cases m
  case ends                => exact foldl_tell_did.symm
  case resumes | completes => exact foldl_tell_landing.symm
  case reloaded            => rw [List.foldl_append, foldl_tell_landing]; rfl
  case marks hw _          =>
    have live := (s.live_of_call ht (by simp [hw])).1
    simp [StatusStore.modify_of_live live, tell]
  case created | refused | cancels =>
    rw [List.foldl_append, foldl_tell_did]
    rfl
  all_goals rfl

theorem Stepped.kept_eq (h : Stepped c e d trace) (s : Sound c) :
    d.store.kept = trace.foldl tell c.store.kept := by
  cases h
  case moved ht _ m => exact m.kept_eq s ht
  case told a _ _   => cases a <;> rfl
  all_goals rfl

theorem Steps.kept_eq (h : Steps c es d trace) : d.store.kept = trace.foldl tell c.store.kept := by
  induction h
  case refl          => rfl
  case step s h _ hi => rw [hi, h.kept_eq s, List.foldl_append]

theorem marked_append_singleton {o : Occurrence} :
    Marked (trace ++ [o]) ↔ (∃ shown, o = .marked shown) ∨ applied [o] = [] ∧ Marked trace := by
  constructor
  case mp =>
    rintro ⟨before, shown, after, he, ha⟩
    induction after using List.reverseRecOn
    case nil => exact .inl ⟨shown, (List.append_inj' he rfl).2 |> List.singleton_inj.1⟩
    case append_singleton after o' _ =>
      rw [← List.cons_append, ← List.append_assoc] at he
      obtain ⟨ht, ho⟩ := List.append_inj' he rfl
      cases List.singleton_inj.1 ho
      rw [applied_append, List.append_eq_nil_iff] at ha
      exact .inr ⟨ha.2, before, shown, after, ht, ha.1⟩
  case mpr =>
    rintro (⟨shown, rfl⟩ | ⟨ha, before, shown, after, rfl, hn⟩)
    · exact ⟨trace, shown, [], rfl, rfl⟩
    · exact ⟨before, shown, after ++ [o], by simp, by rw [applied_append, hn, ha]; rfl⟩

theorem not_marked_nil : ¬Marked [] := by
  simp [Marked]

namespace Recounts

variable {s : StatusState} {o : Occurrence}

theorem initial : Recounts [] {} where
  jobs             := rfl
  loading          := by simp [applied]
  lastError        := rfl
  lastRefreshed    := by simp [applied]
  cancelInProgress := by simp [not_marked_nil]

-- Besides the refreshes applied and the cancels begun nothing bears on the state.
theorem skip (h : Recounts trace s) (ha : applied [o] = []) (hm : ∀ shown, o ≠ .marked shown) :
    Recounts (trace ++ [o]) s where
  jobs             := by rw [applied_append, ha, List.append_nil]; exact h.jobs
  loading          := by rw [applied_append, ha, List.append_nil]; exact h.loading
  lastError        := by rw [applied_append, ha, List.append_nil]; exact h.lastError
  lastRefreshed    := by rw [applied_append, ha, List.append_nil]; exact h.lastRefreshed
  cancelInProgress := by
    rw [h.cancelInProgress, marked_append_singleton]
    simp [ha, hm]

theorem mark {shown : Job} (h : Recounts trace s) :
    Recounts (trace ++ [.marked shown]) s.cancelling := by
  have ha : applied (trace ++ [.marked shown]) = applied trace := by
    rw [applied_append]
    exact List.append_nil _
  exact {
    jobs             := ha ▸ h.jobs
    loading          := ha ▸ h.loading
    lastError        := ha ▸ h.lastError
    lastRefreshed    := ha ▸ h.lastRefreshed
    cancelInProgress := by
      rw [marked_append_singleton]
      simp [StatusState.cancelling] }

theorem apply {n time : Nat} {r : Fetched} (h : Recounts trace s) :
    Recounts (trace ++ [.applied n r time]) (s.fetched r ⟨time⟩) := by
  have ha : applied (trace ++ [.applied n r time]) = applied trace ++ [r] := applied_append
  have hm : ¬Marked (trace ++ [.applied n r time]) := by
    rw [marked_append_singleton]
    simp [applied]
  cases r
  case ok jobs =>
    exact {
      jobs             := by simp [ha, jobs?, StatusState.fetched, StatusState.refreshed]
      loading          := by simp [ha, StatusState.fetched, StatusState.refreshed]
      lastError        := by simp [ha, failure?, StatusState.fetched, StatusState.refreshed]
      lastRefreshed    := by simp [ha, StatusState.fetched, StatusState.refreshed]
      cancelInProgress := by simp [hm, StatusState.fetched, StatusState.refreshed] }
  case error e =>
    exact {
      jobs             := by simpa [ha, jobs?, StatusState.fetched, StatusState.failed] using h.jobs
      loading          := by simp [ha, StatusState.fetched, StatusState.failed]
      lastError        := by simp [ha, failure?, StatusState.fetched, StatusState.failed]
      lastRefreshed    := by
        simpa [ha, StatusState.fetched, StatusState.failed] using h.lastRefreshed
      cancelInProgress := by simp [hm, StatusState.fetched, StatusState.failed] }

theorem tell (h : Recounts trace s) : Recounts (trace ++ [o]) (Controller.tell s o) := by
  cases o
  case applied => exact h.apply
  case marked  => exact h.mark
  all_goals exact h.skip rfl (by simp)

end Recounts

theorem recounts_foldl : Recounts trace (trace.foldl tell {}) := by
  induction trace using List.reverseRecOn
  case nil                         => exact .initial
  case append_singleton trace o hi => exact List.foldl_concat .. ▸ hi.tell

section

variable {settings : StatusSettings} {analytics : Analytics Unit}

theorem life_state : (life settings analytics es).1.store.state =
    (life settings analytics es).1.store.kept :=
  sound_life.state_eq

theorem life_folds : (life settings analytics es).1.store.state =
    (life settings analytics es).2.foldl tell {} :=
  life_state.trans life_steps.kept_eq

theorem life_recounts :
    Recounts (life settings analytics es).2 (life settings analytics es).1.store.state :=
  life_folds ▸ recounts_foldl

theorem life_published : (life settings analytics es).1.store.snapshot =
    (life settings analytics es).1.store.state.snapshot settings.isConfigured := by
  have s : Sound (life settings analytics es).1 := sound_life
  have hi : (life settings analytics es).1.store.isConfigured = settings.isConfigured :=
    s.configured.trans (by rw [life_setup.1])
  rw [life_state, ← hi]
  exact s.published

end

theorem applied_eq_applications : applied trace = (applications trace).map (·.2) := by
  rw [applied, applications, List.map_filterMap]
  refine List.filterMap_congr fun o _ => ?_
  cases o <;> rfl

-- At every point of a life, whatever has been under way at the same time: the state is what the
-- trace recounts, what is published is drawn from that state, and every refresh that is applied has
-- been asked for before and is folded in as the service has answered it. Up to the disposal these
-- are all the lists, and all the failures, that the tasks have been answered, each of them once.
theorem state_of_history (settings : StatusSettings) (analytics : Analytics Unit)
    (es : List Event) :
    let c := (life settings analytics es).1
    let trace := (life settings analytics es).2
    let taken := (mount settings analytics).1.ledger es
    Recounts trace c.store.state ∧
    c.store.snapshot = c.store.state.snapshot settings.isConfigured ∧
    (∀ before n r time after, trace = before ++ .applied n r time :: after →
      .answer n (.fetched r) ∈ es ∧ ∃ k t, .called n (.fetch k) t ∈ before) ∧
    (c.store.isDisposed = false → applications trace = taken.filterMap Taken.fetch? ∧
      applied trace = (taken.filterMap Taken.fetch?).map (·.2)) := by
  intro c trace taken
  refine ⟨life_recounts, life_published, fun before n r time after h => life_applied h,
    fun live => ?_⟩
  have ha : applications trace = taken.filterMap Taken.fetch? := (life_follows live).applied
  exact ⟨ha, by rw [applied_eq_applications, ha]⟩

-- A reload overlaps the fetch of the mount and is answered before it, and that fetch fails.
def overlap (j : Job) : List Event :=
  [.run 0, .request .reload, .run 1, .answer 2 (.fetched (.ok [j])), .run 1,
    .answer 1 (.fetched (.error .mfaRequired)), .run 0]

theorem state_of_overlap :
    let j := Job.new "a" .postIndexing .inProgress
    let c := (life {} .disabled (overlap j)).1
    let trace := (life {} .disabled (overlap j)).2
    c.store.isDisposed = false ∧
      applications trace = [(2, .ok [j]), (1, .error .mfaRequired)] ∧
      c.store.state.jobs = [j] ∧ c.store.state.lastError = some ClientError.mfaRequired.message ∧
      c.store.state.lastRefreshed.isSome ∧ c.store.state.loading = false ∧
      c.store.snapshot = c.store.state.snapshot true := by
  intro j c trace
  obtain ⟨recounts, published, -, complete⟩ := state_of_history {} .disabled (overlap j)
  have live : c.store.isDisposed = false := rfl
  obtain ⟨ha, hr⟩ := complete live
  have ha : applications trace = [(2, .ok [j]), (1, .error .mfaRequired)] := ha
  have hr : applied trace = [.ok [j], .error .mfaRequired] := hr
  have ho : Job.order [j] = [j] := List.mergeSort_singleton ..
  refine ⟨live, ha, ?_, ?_, ?_, ?_, published⟩
  case refine_1 => rw [recounts.jobs, hr]; exact ho
  case refine_2 => rw [recounts.lastError, hr]; rfl
  case refine_3 => exact recounts.lastRefreshed.2 ⟨[j], by rw [hr]; exact List.mem_cons_self ..⟩
  case refine_4 =>
    refine Bool.eq_false_iff.2 fun hl => ?_
    have hn := recounts.loading.1 hl
    rw [hr] at hn
    cases hn

end IndexWatch.Controller
