import IndexWatch.Proofs.Status.Step

namespace IndexWatch.Controller

variable {c d : Controller} {t : Task} {trace : List Occurrence} {e : Event} {es : List Event}

-- The fetch that a task waits for.
def Task.fetch? (t : Task) : Option Nat :=
  match t.stage with
  | .fetching _ n => some n
  | _ => none

-- The fetches that have been sent and not been taken up.
def inFlight (c : Controller) : List Nat := c.tasks.filterMap (·.fetch?)

theorem mem_inFlight_place {n : Nat} (id : Nat) (stage : Stage)
    (h : n ∈ (c.place id stage).inFlight) : n ∈ c.inFlight ∨ ∃ k, stage = .fetching k n := by
  obtain ⟨u, hu, hn⟩ := List.mem_filterMap.1 h
  rcases mem_place hu with hu | ⟨t, -, -, rfl⟩
  · exact .inl (List.mem_filterMap.2 ⟨u, hu, hn⟩)
  · cases stage <;> simp [Task.fetch?] at hn ⊢
    exact .inr hn

theorem mem_inFlight_remove {n : Nat} (id : Nat) (h : n ∈ (c.remove id).inFlight) :
    n ∈ c.inFlight := by
  obtain ⟨u, hu, hn⟩ := List.mem_filterMap.1 h
  exact List.mem_filterMap.2 ⟨u, (mem_remove.1 hu).1, hn⟩

theorem inFlight_spawn {work : Work} : (c.spawn work).inFlight = c.inFlight := by
  simp [inFlight, spawn, Task.fetch?]

theorem mem_inFlight {n : Nat} {k : Trigger} (ht : t ∈ c.tasks) (hs : t.stage = .fetching k n) :
    n ∈ c.inFlight :=
  List.mem_filterMap.2 ⟨t, ht, by simp [Task.fetch?, hs]⟩

theorem Moved.sends {n : Nat} (m : Moved c t d trace) (h : n ∈ d.inFlight) :
    n ∈ c.inFlight ∨ ∃ k time, .called n (.fetch k) time ∈ trace := by
  cases m
  case waits => exact .inl h
  case ends | breaks => exact .inl (mem_inFlight_remove t.id h)
  case mounts | ticks | refreshes | reloads =>
    rcases mem_inFlight_place t.id (.fetching _ c.nextCall) h with h | ⟨k, hk⟩
    · exact .inl h
    · exact .inr ⟨k, c.now, by simp_all⟩
  case resumes =>
    rcases mem_inFlight_place t.id .idle h with h | ⟨k, hk⟩
    · exact .inl h
    · simp at hk
  case completes | reloaded => exact .inl (mem_inFlight_remove t.id h)
  case creates | marks | awaits =>
    rcases mem_inFlight_place t.id _ h with h | ⟨k, hk⟩
    · exact .inl h
    · simp at hk
  case finds | informs | refused => exact .inl (mem_inFlight_remove t.id h)
  case created | cancels =>
    have h := mem_inFlight_remove t.id h
    rw [inFlight_spawn] at h
    exact .inl h

theorem Stepped.sends {n : Nat} (h : Stepped c e d trace) (hn : n ∈ d.inFlight) :
    n ∈ c.inFlight ∨ ∃ k time, .called n (.fetch k) time ∈ trace := by
  cases h
  case moved m   => exact m.sends hn
  case requested => exact .inl (inFlight_spawn ▸ hn)
  case abandoned => exact .inl (mem_inFlight_remove _ hn)
  all_goals exact .inl hn

theorem Stepped.sends_append {n : Nat} {after : List Occurrence} (h : Stepped c e d trace)
    (hn : n ∈ d.inFlight ∨ ∃ k t, .called n (.fetch k) t ∈ after) :
    n ∈ c.inFlight ∨ ∃ k t, .called n (.fetch k) t ∈ trace ++ after := by
  cases hn
  case inl hn =>
    exact (h.sends hn).imp_right fun ⟨k, t, hk⟩ => ⟨k, t, List.mem_append_left _ hk⟩
  case inr hn =>
    have ⟨k, t, hk⟩ := hn
    exact .inr ⟨k, t, List.mem_append_right _ hk⟩

theorem mem_of_answer? {n : Nat} {a : Answer} (h : c.answer? n = some a) : (n, a) ∈ c.answers := by
  obtain ⟨l₁, l₂, hl, -⟩ := List.lookup_eq_some_iff.1 h
  simp [hl]

theorem Moved.applies {n time : Nat} {r : Fetched} (m : Moved c t d trace) (ht : t ∈ c.tasks)
    (h : .applied n r time ∈ trace) : n ∈ c.inFlight ∧ (n, .fetched r) ∈ c.answers := by
  cases m
  case resumes k n' r' _ hs ha _ | completes k n' r' _ hs ha _ | reloaded k n' r' _ hs ha _ =>
    have h : c.store.isDisposed = false ∧ n = n' ∧ r = r' ∧ time = c.now := by
      simp only [landing, List.mem_append, List.mem_map, reduceCtorEq, and_false, exists_false,
        List.mem_singleton, or_false, false_or] at h
      split at h <;> simp_all
    obtain ⟨-, rfl, rfl, rfl⟩ := h
    exact ⟨mem_inFlight ht hs, mem_of_answer? ha⟩
  all_goals simp at h

theorem Stepped.applies {n time : Nat} {r : Fetched} (h : Stepped c e d trace)
    (ha : .applied n r time ∈ trace) : n ∈ c.inFlight ∧ (n, .fetched r) ∈ c.answers := by
  cases h
  case moved ht _ m => exact m.applies ht ha
  case told a _ _   => cases a <;> simp at ha
  all_goals simp at ha

theorem Moved.keeps_answers {p : Nat × Answer} (m : Moved c t d trace) (h : p ∈ d.answers) :
    p ∈ c.answers := by
  cases m
  case resumes | completes | reloaded | created | refused | cancels => exact (List.mem_filter.1 h).1
  all_goals exact h

theorem Stepped.keeps_answers {n : Nat} {a : Answer} (h : Stepped c e d trace)
    (ha : (n, a) ∈ d.answers) : (n, a) ∈ c.answers ∨ e = .answer n a := by
  cases h
  case moved m  => exact .inl (m.keeps_answers ha)
  case answered =>
    cases List.mem_append.1 ha
    case inl ha => exact .inl ha
    case inr ha =>
      cases List.mem_singleton.1 ha
      exact .inr rfl
  all_goals exact .inl ha

theorem Stepped.answers_cons {n : Nat} {a : Answer} (h : Stepped c e d trace)
    (ha : (n, a) ∈ d.answers ∨ .answer n a ∈ es) :
    (n, a) ∈ c.answers ∨ .answer n a ∈ e :: es := by
  cases ha
  case inl ha =>
    refine (h.keeps_answers ha).imp_right fun he => ?_
    exact he ▸ List.mem_cons_self ..
  case inr ha => exact .inr (List.mem_cons_of_mem _ ha)

namespace Steps

-- What is applied in a run has been answered in it, where no answer was there before.
theorem applied_answered {n time : Nat} {r : Fetched} (h : Steps c es d trace)
    (ha : .applied n r time ∈ trace) :
    (n, .fetched r) ∈ c.answers ∨ .answer n (.fetched r) ∈ es := by
  induction h
  case refl => simp at ha
  case step s h _ hi =>
    cases List.mem_append.1 ha
    case inl ha => exact .inl (h.applies ha).2
    case inr ha => exact h.answers_cons (hi ha)

-- What is applied in a run has been fetched before in it, where no fetch was under way.
theorem applied_called {n time : Nat} {r : Fetched} {pre post : List Occurrence}
    (h : Steps c es d trace) (ha : trace = pre ++ .applied n r time :: post) :
    n ∈ c.inFlight ∨ ∃ k t, .called n (.fetch k) t ∈ pre := by
  induction h generalizing pre
  case refl => simp at ha
  case step before after s h _ hi =>
    rcases List.append_eq_append_iff.1 ha with ⟨mid, rfl, hm⟩ | ⟨mid, rfl, hm⟩
    -- The answer is taken up behind the first step.
    · exact h.sends_append (hi hm)
    · rcases List.cons_eq_append_iff.1 hm with ⟨rfl, hc⟩ | ⟨rest, rfl, -⟩
      · simpa using h.sends_append (hi (hc.trans (List.nil_append _).symm))
      -- It is taken up by the first step.
      · exact .inl (h.applies (List.mem_append_right _ (List.mem_cons_self ..))).1

end Steps

-- The requests of a trace, by their numbers.
def requests (trace : List Occurrence) : List (Nat × ServiceCall) :=
  trace.filterMap fun
    | .called n call _ => some (n, call)
    | _ => none

theorem requests_append {before after : List Occurrence} :
    requests (before ++ after) = requests before ++ requests after :=
  List.filterMap_append ..

theorem requests_did {effects : List Effect} : requests (effects.map .did) = [] := by
  simp [requests]

theorem requests_did_append {effects : List Effect} (h : requests trace = []) :
    requests (effects.map .did ++ trace) = [] := by
  rw [requests_append, requests_did, h, List.append_nil]

theorem requests_landing {k : Trigger} {n : Nat} {r : Fetched} :
    requests (c.landing k n r) = [] := by
  refine requests_did_append ?_
  split <;> rfl

theorem Moved.requests_eq (m : Moved c t d trace) :
    requests trace = [] ∧ d.nextCall = c.nextCall ∨
      ∃ call, requests trace = [(c.nextCall, call)] ∧ d.nextCall = c.nextCall + 1 := by
  cases m
  case mounts | ticks | refreshes | reloads | creates | marks => exact .inr ⟨_, rfl, rfl⟩
  case ends                          => exact .inl ⟨requests_did, rfl⟩
  case resumes | completes           => exact .inl ⟨requests_landing, rfl⟩
  case reloaded                      =>
    exact .inl ⟨by rw [requests_append, requests_landing]; rfl, rfl⟩
  case created | refused | cancels   => exact .inl ⟨requests_did_append rfl, rfl⟩
  all_goals exact .inl ⟨rfl, rfl⟩

theorem Stepped.requests_eq (h : Stepped c e d trace) :
    requests trace = [] ∧ d.nextCall = c.nextCall ∨
      ∃ call, requests trace = [(c.nextCall, call)] ∧ d.nextCall = c.nextCall + 1 := by
  cases h
  case moved m    => exact m.requests_eq
  case told a _ _ => exact .inl ⟨by cases a <;> rfl, rfl⟩
  all_goals exact .inl ⟨rfl, rfl⟩

-- Requests are numbered in the order in which they are sent, without a gap.
theorem Steps.requests_range (h : Steps c es d trace) : ∃ sent, d.nextCall = c.nextCall + sent ∧
    (requests trace).map (·.1) = List.range' c.nextCall sent := by
  induction h
  case refl => exact ⟨0, rfl, rfl⟩
  case step h _ hi =>
    obtain ⟨sent, hd, hn⟩ := hi
    rcases h.requests_eq with ⟨he, hc⟩ | ⟨call, he, hc⟩
    · exact ⟨sent, hc ▸ hd, by rw [requests_append, he, List.nil_append, hn, hc]⟩
    · refine ⟨sent + 1, by omega, ?_⟩
      rw [requests_append, he, List.map_append, hn, hc, List.range'_succ]
      rfl

theorem Steps.requests_nodup (h : Steps c es d trace) : ((requests trace).map (·.1)).Nodup := by
  obtain ⟨sent, -, hn⟩ := h.requests_range
  exact hn ▸ List.nodup_range'

-- New jobs are asked for without data, and of no other kind than the one that is watched.
theorem Moved.creates_watched {n : Nat} {job : NewJob} (m : Moved c t d trace)
    (h : (n, .create job) ∈ requests trace) : job = .ofType c.settings.jobType := by
  cases m
  case creates =>
    have he : requests [.called c.nextCall (.create (.ofType c.settings.jobType)) c.now]
        = [(c.nextCall, .create (.ofType c.settings.jobType))] := rfl
    rw [he] at h
    cases List.mem_singleton.1 h
    rfl
  case ends =>
    rw [requests_did] at h
    nomatch h
  case resumes | completes =>
    rw [requests_landing] at h
    nomatch h
  case reloaded =>
    rw [requests_append, requests_landing] at h
    nomatch h
  case created | refused | cancels =>
    rw [requests_did_append rfl] at h
    nomatch h
  all_goals nomatch h

theorem Stepped.creates_watched {n : Nat} {job : NewJob} (h : Stepped c e d trace)
    (hn : (n, .create job) ∈ requests trace) : job = .ofType c.settings.jobType := by
  cases h
  case moved m    => exact m.creates_watched hn
  case told a _ _ => cases a <;> nomatch hn
  all_goals nomatch hn

theorem Steps.creates_watched {n : Nat} {job : NewJob} (h : Steps c es d trace)
    (hn : (n, .create job) ∈ requests trace) : job = .ofType c.settings.jobType := by
  induction h
  case refl => nomatch hn
  case step s h _ hi =>
    rw [requests_append] at hn
    cases List.mem_append.1 hn
    case inl hn => exact h.creates_watched hn
    case inr hn => exact h.preserves_setup.1 ▸ hi hn

section

variable {settings : StatusSettings} {analytics : Analytics Unit} {before after : List Occurrence}

-- What is applied in a life is applied behind the mount, which is told of first.
theorem life_split {n time : Nat} {r : Fetched}
    (h : (life settings analytics es).2 = before ++ .applied n r time :: after) :
    ∃ rest, before = (mount settings analytics).2 ++ rest ∧
      ((mount settings analytics).1.run es).2 = rest ++ .applied n r time :: after := by
  cases before
  case nil        => simp [life, mount] at h
  case cons o rest =>
    obtain ⟨rfl, hr⟩ := List.cons.inj h
    exact ⟨rest, rfl, hr⟩

-- From its mount on a controller applies what it has asked for and been answered.
theorem life_applied {n time : Nat} {r : Fetched}
    (h : (life settings analytics es).2 = before ++ .applied n r time :: after) :
    .answer n (.fetched r) ∈ es ∧ ∃ k t, .called n (.fetch k) t ∈ before := by
  obtain ⟨rest, rfl, hr⟩ := life_split h
  have hs : Steps _ es _ _ := @life_steps settings analytics es
  constructor
  case left =>
    have ha : Occurrence.applied n r time ∈ ((mount settings analytics).1.run es).2 := by simp [hr]
    exact (hs.applied_answered ha).resolve_left (by simp [mount])
  case right =>
    obtain ⟨k, t, hk⟩ :=
      (hs.applied_called hr).resolve_left (by simp [mount, inFlight, Task.fetch?])
    exact ⟨k, t, List.mem_append_right _ hk⟩

theorem life_creates_watched {n : Nat} {job : NewJob}
    (h : (n, .create job) ∈ requests (life settings analytics es).2) :
    job = .ofType settings.jobType := by
  have hs : Steps (mount settings analytics).1 es _ _ := life_steps
  exact hs.creates_watched h

end

end IndexWatch.Controller
