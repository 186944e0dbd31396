import IndexWatch.Proofs.Metrics
import IndexWatch.Proofs.Status.Request
import IndexWatch.Proofs.Status.Unmount

namespace IndexWatch.Controller

variable {c d : Controller} {t : Task} {trace : List Occurrence} {e : Event} {es : List Event}

-- The answer that is taken up with an event.
def taking? (c : Controller) : Event → Option Taken
  | .run id => (c.task? id).bind c.taken?
  | _ => none

-- The answers that are taken up in a run, in the order of their taking.
def ledger (c : Controller) : List Event → List Taken
  | [] => []
  | e :: es => (c.taking? e).toList ++ (c.step e).1.ledger es

theorem taken?_eq_none (h : t.stage.call? = none) : c.taken? t = none := by
  cases hs : t.stage <;> simp_all [taken?, Stage.call?]

theorem taken?_fetching {k : Trigger} {n : Nat} {r : Fetched} (hs : t.stage = .fetching k n)
    (ha : c.answer? n = some (.fetched r)) (live : c.cancelled = false) :
    c.taken? t = some (.fetched n k r) := by
  simp [taken?, hs, ha, live]

theorem taken?_creating {n : Nat} {r : Except ClientError Job} (hs : t.stage = .creating n)
    (ha : c.answer? n = some (.created r)) : c.taken? t = some (.created n r) := by
  simp [taken?, hs, ha]

theorem taken?_cancelling {n : Nat} {shown : Job} {r : Except ClientError Unit}
    (hs : t.stage = .cancelling n shown) (ha : c.answer? n = some (.cancelled r)) :
    c.taken? t = some (.cancelled n shown r) := by
  simp [taken?, hs, ha]

-- A task takes up nothing but the answer to the request that it waits for.
theorem taken?_cases {x : Taken} (h : c.taken? t = some x) :
    (∃ k n r, t.stage = .fetching k n ∧ c.answer? n = some (.fetched r) ∧ x = .fetched n k r) ∨
    (∃ n r, t.stage = .creating n ∧ c.answer? n = some (.created r) ∧ x = .created n r) ∨
    (∃ n shown r, t.stage = .cancelling n shown ∧ c.answer? n = some (.cancelled r) ∧
      x = .cancelled n shown r) := by
  cases hs : t.stage <;> simp only [taken?, hs, reduceCtorEq] at h
  case fetching k n =>
    split at h
    case h_1 r ha =>
      split at h <;> cases h
      exact .inl ⟨k, n, r, rfl, ha, rfl⟩
    case h_2 => cases h
  case creating n =>
    split at h
    case h_1 r ha =>
      cases h
      exact .inr (.inl ⟨n, r, rfl, ha, rfl⟩)
    case h_2 => cases h
  case cancelling n shown =>
    split at h
    case h_1 r ha =>
      cases h
      exact .inr (.inr ⟨n, shown, r, rfl, ha, rfl⟩)
    case h_2 => cases h

theorem taking?_run (h : c.task? t.id = some t) : c.taking? (.run t.id) = c.taken? t := by
  rw [taking?, h]
  rfl

theorem taking?_still (h : ∀ id t, e = .run id → c.task? id ≠ some t) : c.taking? e = none := by
  cases e
  case run id =>
    cases hf : c.task? id
    case none   => rw [taking?, hf]; rfl
    case some t => exact absurd hf (h id t rfl)
  all_goals rfl

def effects (trace : List Occurrence) : List Effect :=
  trace.filterMap fun
    | .did e => some e
    | _ => none

-- The requests that were applied, with what they had fetched.
def applications (trace : List Occurrence) : List (Nat × Fetched) :=
  trace.filterMap fun
    | .applied n r _ => some (n, r)
    | _ => none

-- The refreshes that were left to run on their own.
def spawns (trace : List Occurrence) : List Trigger :=
  trace.filterMap fun
    | .spawned k => some k
    | _ => none

-- What the user was told of the requests that were sent for it. A cancel without a job to cancel
-- sends none.
def replies (trace : List Occurrence) : List CallResult :=
  trace.filterMap fun
    | .finished _ (.created job) => some (.created job)
    | .finished _ (.cancelled (some shown)) => some (.cancelled (some shown))
    | .finished _ (.failed e) => some (.failed e)
    | _ => none

theorem effects_append {before after : List Occurrence} :
    effects (before ++ after) = effects before ++ effects after :=
  List.filterMap_append ..

namespace Taken

def number : Taken → Nat
  | fetched n _ _ => n
  | created n _ => n
  | cancelled n _ _ => n

def answer : Taken → Answer
  | fetched _ _ r => .fetched r
  | created _ r => .created r
  | cancelled _ _ r => .cancelled r

def fetch? : Taken → Option (Nat × Fetched)
  | fetched n _ r => some (n, r)
  | _ => none

def poll? : Taken → Option Outcome
  | fetched _ _ r => some (.of r)
  | _ => none

-- A refresh follows on a job that was created, and on every answer to a cancel.
def spawn? : Taken → Option Trigger
  | created _ (.ok _) => some .create
  | cancelled _ _ _ => some .cancel
  | _ => none

-- The user is not told whether a cancel has failed.
def reply? : Taken → Option CallResult
  | created _ (.ok job) => some (.created job)
  | created _ (.error e) => some (.failed e)
  | cancelled _ shown _ => some (.cancelled (some shown))
  | fetched _ _ _ => none

def action? : Taken → Option (JobAction × Outcome)
  | created _ r => some (.create, .of r)
  | cancelled _ _ r => some (.cancel, .of r)
  | fetched _ _ _ => none

-- A create is reported with the kind of work that is watched, a cancel with the job shown.
def usage? (type : JobType) : Taken → Option Analytics.Call
  | created _ (.ok _) =>
    some (.legacyTrack "api" "api_jobs_create_success" "" "job_type" type.name)
  | created _ (.error _) =>
    some (.legacyTrack "api" "api_jobs_create_fail" "" "job_type" type.name)
  | cancelled _ shown (.ok _) =>
    some (.legacyTrack "api" "api_jobs_cancel_success" "" "job_id" shown.id)
  | cancelled _ shown (.error _) =>
    some (.legacyTrack "api" "api_jobs_cancel_fail" "" "job_id" shown.id)
  | fetched _ _ _ => none

end Taken

-- Whether what the user does is reported as usage.
def reports (c : Controller) : Bool := c.analytics.port.isSome && c.analytics.key.isSome

-- Up to the disposal all that follows from the answers taken up, once for each of them.
structure Follows (c : Controller) (taken : List Taken) (trace : List Occurrence) : Prop where
  applied : applications trace = taken.filterMap Taken.fetch?
  spawned : spawns trace = taken.filterMap Taken.spawn?
  replied : replies trace = taken.filterMap Taken.reply?
  polls   : Effect.polls (effects trace) = taken.filterMap Taken.poll?
  actions : Effect.actions (effects trace) = taken.filterMap Taken.action?
  usage   : Effect.usageEvents (effects trace) = if c.reports then
    (taken.filterMap (Taken.usage? c.settings.jobType)).map (·.event) else []

namespace Follows

variable {x y : List Taken} {before after : List Occurrence}

theorem nil : Follows c [] [] where
  applied := rfl
  spawned := rfl
  replied := rfl
  polls   := rfl
  actions := rfl
  usage   := by simp [effects, Effect.usageEvents]

theorem append (h : Follows c x before) (h' : Follows c y after) :
    Follows c (x ++ y) (before ++ after) where
  applied := by
    rw [List.filterMap_append, ← h.applied, ← h'.applied]
    exact List.filterMap_append ..
  spawned := by
    rw [List.filterMap_append, ← h.spawned, ← h'.spawned]
    exact List.filterMap_append ..
  replied := by
    rw [List.filterMap_append, ← h.replied, ← h'.replied]
    exact List.filterMap_append ..
  polls   := by
    rw [List.filterMap_append, ← h.polls, ← h'.polls, effects_append]
    exact List.filterMap_append ..
  actions := by
    rw [List.filterMap_append, ← h.actions, ← h'.actions, effects_append]
    exact List.filterMap_append ..
  usage   := by
    have hu : Effect.usageEvents (effects (before ++ after)) =
        Effect.usageEvents (effects before) ++ Effect.usageEvents (effects after) := by
      rw [effects_append]
      exact List.filterMap_append ..
    rw [hu, h.usage, h'.usage]
    split <;> simp

end Follows

theorem usage_eq {action property value : String} :
    Report.usage c.analytics action property value = if c.reports then
      [.usage (Analytics.Call.legacyTrack "api" action "" property value).event] else [] := by
  cases hp : c.analytics.port <;> cases hk : c.analytics.key <;>
    simp [Report.usage, Analytics.events, Analytics.Call.isLegacy, reports, hp, hk]

namespace Follows

theorem of_fetched {n : Nat} {k : Trigger} {r : Fetched} (h : c.store.isDisposed = false) :
    Follows c [.fetched n k r] (c.landing k n r) := by
  rw [landing, h]
  cases r
  all_goals exact {
    applied := rfl
    spawned := rfl
    replied := rfl
    polls   := rfl
    actions := rfl
    usage   := by cases c.reports <;> rfl }

theorem of_created {n id : Nat} {job : Job} :
    Follows c [.created n (.ok job)]
      ((Report.create c.analytics c.settings.jobType (.ok job)).map .did ++
        [.spawned .create, .finished id (.created job)]) := by
  simp only [Report.create, usage_eq]
  cases hc : c.reports
  all_goals exact {
    applied := rfl
    spawned := rfl
    replied := rfl
    polls   := rfl
    actions := rfl
    usage   := by rw [hc]; rfl }

theorem of_refused {n id : Nat} {e : ClientError} :
    Follows c [.created n (.error e)]
      ((Report.create c.analytics c.settings.jobType (.error e)).map .did ++
        [.finished id (.failed e)]) := by
  simp only [Report.create, usage_eq]
  cases hc : c.reports
  all_goals exact {
    applied := rfl
    spawned := rfl
    replied := rfl
    polls   := rfl
    actions := rfl
    usage   := by rw [hc]; rfl }

theorem of_cancelled {n id : Nat} {shown : Job} {r : Except ClientError Unit} :
    Follows c [.cancelled n shown r] ((Report.cancel c.analytics shown.id r).map .did ++
      [.spawned .cancel, .finished id (.cancelled (some shown))]) := by
  cases r
  all_goals
    simp only [Report.cancel, usage_eq]
    cases hc : c.reports
    all_goals exact {
      applied := rfl
      spawned := rfl
      replied := rfl
      polls   := rfl
      actions := rfl
      usage   := by rw [hc]; rfl }

-- Where no answer is taken up, nothing follows.
theorem of_silent (ha : applications trace = []) (hs : spawns trace = [])
    (hr : replies trace = []) (he : effects trace = []) : Follows c [] trace where
  applied := ha
  spawned := hs
  replied := hr
  polls   := by rw [he]; rfl
  actions := by rw [he]; rfl
  usage   := by rw [he]; cases c.reports <;> rfl

end Follows

theorem Moved.follows (m : Moved c t d trace) (s : Sound c)
    (h : c.store.isDisposed = false) : Follows c (c.taken? t).toList trace := by
  cases m
  case waits hw _ _ => exact hw ▸ Follows.nil
  case ends _ hc     => exact absurd hc (Bool.eq_false_iff.1 (s.not_cancelled h))
  case breaks hs _ _ =>
    rw [taken?_eq_none (by rw [hs]; rfl)]
    exact Follows.nil
  case mounts hs _ _ | ticks hs _ _ | refreshes hs _ | reloads hs _ | creates hs _ | finds hs _ _
    | marks hs _ _ | awaits hs _ _ =>
    rw [taken?_eq_none (by rw [hs]; rfl)]
    exact Follows.of_silent rfl rfl rfl rfl
  case informs hs _ =>
    rw [taken?_eq_none (by rcases hs with hs | hs <;> rw [hs] <;> rfl)]
    exact Follows.of_silent rfl rfl rfl rfl
  case resumes k n r live hs ha _ | completes k n r live hs ha _ =>
    rw [taken?_fetching hs ha live]
    exact .of_fetched h
  case reloaded k n r live hs ha _ =>
    rw [taken?_fetching hs ha live]
    exact (Follows.of_fetched h).append (.of_silent rfl rfl rfl rfl)
  case created n job hs _ ha =>
    rw [taken?_creating hs ha]
    exact .of_created
  case refused n e hs _ ha =>
    rw [taken?_creating hs ha]
    exact .of_refused
  case cancels n shown r hs _ ha =>
    rw [taken?_cancelling hs ha]
    exact .of_cancelled

theorem Stepped.follows (h : Stepped c e d trace) (s : Sound c) (hc : c.store.isDisposed = false) :
    Follows c (c.taking? e).toList trace := by
  cases h
  case still _ ht => exact taking?_still ht ▸ Follows.nil
  case moved hf m => exact taking?_run hf ▸ m.follows s hc
  case told hd _  => simp [s.isDisposed_eq, hd] at hc
  all_goals exact Follows.nil

-- A store that is not disposed has never been.
theorem Steps.live (h : Steps c es d trace) (hd : d.store.isDisposed = false) :
    c.store.isDisposed = false := by
  by_contra hc
  have hc : c.store.isDisposed = true := by simpa using hc
  simp [h.preserves_disposed_store hc, hc] at hd

theorem Follows.setup {x : List Taken} (h : Follows d x trace) (hs : d.settings = c.settings)
    (ha : d.analytics = c.analytics) : Follows c x trace where
  applied := h.applied
  spawned := h.spawned
  replied := h.replied
  polls   := h.polls
  actions := h.actions
  usage   := by
    have hr : d.reports = c.reports := by rw [reports, reports, ha]
    rw [← hr, ← hs]
    exact h.usage

theorem Sound.follows (s : Sound c) (h : (c.run es).1.store.isDisposed = false) :
    Follows c (c.ledger es) (c.run es).2 := by
  induction es generalizing c
  case nil => exact Follows.nil
  case cons e es hi =>
    have st : Stepped c e (c.step e).1 (c.step e).2 := s.stepped e
    have ⟨hs, ha⟩ := st.preserves_setup
    have live : c.store.isDisposed = false := (s.steps (e :: es)).live h
    exact (st.follows s live).append ((hi (s.of_stepped st) h).setup hs ha)

theorem life_follows {settings : StatusSettings} {analytics : Analytics Unit}
    (h : (life settings analytics es).1.store.isDisposed = false) :
    Follows (mount settings analytics).1 ((mount settings analytics).1.ledger es)
      (life settings analytics es).2 := by
  have f := (sound_mount settings analytics).follows h
  exact {
    applied := f.applied
    spawned := f.spawned
    replied := f.replied
    polls   := f.polls
    actions := f.actions
    usage   := f.usage }

end IndexWatch.Controller
