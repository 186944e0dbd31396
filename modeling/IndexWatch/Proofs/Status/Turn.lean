import IndexWatch.Proofs.Status.Accounts

namespace IndexWatch.Controller

variable {c d : Controller} {t : Task} {trace : List Occurrence} {e : Event} {es : List Event}

-- The fetches of a kind, by their numbers, with the times at which they were sent.
def sent (k : Trigger) (trace : List Occurrence) : List (Nat × Nat) :=
  trace.filterMap fun
    | .called n (.fetch k') time => if k' = k then some (n, time) else none
    | _ => none

-- The fetches of the poll loop: that at its begin, and those at its ticks.
def polls (trace : List Occurrence) : List (Nat × Nat) := sent .mount trace ++ sent .interval trace

-- The fetches that were completed, by their numbers, with the times of their completion.
def completions (trace : List Occurrence) : List (Nat × Nat) :=
  trace.filterMap fun
    | .applied n _ time => some (n, time)
    | _ => none

-- Those of the poll loop among them.
def completedPolls (trace : List Occurrence) : List (Nat × Nat) :=
  (completions trace).filter fun x => x.1 ∈ (polls trace).map (·.1)

section

variable {k : Trigger} {n time : Nat} {before after : List Occurrence} {l : List Effect}

theorem sent_append : sent k (before ++ after) = sent k before ++ sent k after :=
  List.filterMap_append ..

theorem completions_append :
    completions (before ++ after) = completions before ++ completions after :=
  List.filterMap_append ..

theorem sent_did : sent k (l.map .did) = [] := by
  simp [sent]

theorem sent_did_append : sent k (l.map .did ++ trace) = sent k trace := by
  rw [sent_append, sent_did, List.nil_append]

theorem completions_did_append : completions (l.map .did ++ trace) = completions trace := by
  rw [completions_append]
  simp [completions]

theorem sent_landing {k' : Trigger} {r : Fetched} : sent k (c.landing k' n r) = [] := by
  rw [landing, sent_did_append]
  split <;> rfl

theorem completions_landing {r : Fetched} (live : c.store.isDisposed = false) :
    completions (c.landing k n r) = [(n, c.now)] := by
  rw [landing, completions_did_append, live]
  rfl

theorem mem_sent : (n, time) ∈ sent k trace ↔ .called n (.fetch k) time ∈ trace := by
  constructor
  case mp =>
    intro h
    obtain ⟨o, ho, hn⟩ := List.mem_filterMap.1 h
    cases o
    case called m call time' =>
      cases call
      case fetch k' =>
        simp only [Option.ite_none_right_eq_some, Option.some.injEq, Prod.mk.injEq] at hn
        obtain ⟨rfl, rfl, rfl⟩ := hn
        exact ho
      all_goals cases hn
    all_goals cases hn
  case mpr => exact fun h => List.mem_filterMap.2 ⟨_, h, if_pos rfl⟩

theorem mem_requests {call : ServiceCall} :
    (n, call) ∈ requests trace ↔ ∃ time, .called n call time ∈ trace := by
  constructor
  case mp =>
    intro h
    obtain ⟨o, ho, hn⟩ := List.mem_filterMap.1 h
    cases o
    case called m call' time =>
      cases hn
      exact ⟨time, ho⟩
    all_goals cases hn
  case mpr => exact fun ⟨_, h⟩ => List.mem_filterMap.2 ⟨_, h, rfl⟩

theorem mem_completions : (n, time) ∈ completions trace ↔ ∃ r, .applied n r time ∈ trace := by
  constructor
  case mp =>
    intro h
    obtain ⟨o, ho, hn⟩ := List.mem_filterMap.1 h
    cases o
    case applied m r time' =>
      cases hn
      exact ⟨r, ho⟩
    all_goals cases hn
  case mpr => exact fun ⟨_, h⟩ => List.mem_filterMap.2 ⟨_, h, rfl⟩

theorem mem_polls : n ∈ (polls trace).map (·.1) ↔
    (n, .fetch .mount) ∈ requests trace ∨ (n, .fetch .interval) ∈ requests trace := by
  simp [polls, mem_sent, mem_requests]

-- Fetches of the loop that are sent later do not bear on those completed before.
theorem completedPolls_append
    (h : ∀ x ∈ completions (before ++ after), x.1 ∉ (polls after).map (·.1)) :
    completedPolls (before ++ after) = completedPolls before ++
      (completions after).filter fun x => x.1 ∈ (polls before).map (·.1) := by
  rw [completedPolls, completedPolls, ← List.filter_append, ← completions_append]
  refine List.filter_congr fun x hx => decide_eq_decide.2 ?_
  have hn := h x hx
  simp only [polls, sent_append, List.map_append, List.mem_append] at hn ⊢
  tauto

end

-- What a step does to the poll loop. The lists are the fetches that it sends at its begin, those that
-- it sends at a tick, and those of its fetches that are completed.
inductive Turned (c : Controller) (e : Event) (d : Controller) :
    List (Nat × Nat) → List (Nat × Nat) → List (Nat × Nat) → Prop
  | rests (hl : ∀ stage?, Looping c stage? → Looping d stage?) (ht : d.timer = c.timer)
      (hn : d.now = c.now) : Turned c e d [] [] []
  | passes {ms : Nat} (he : e = .elapse ms) (hd : d = { c with now := c.now + ms }) :
      Turned c e d [] [] []
  -- It can set no timer.
  | breaks (h : Looping c (some .start)) (hd : Looping d none) : Turned c e d [] [] []
  | opens (h : Looping c (some .start)) (hd : Looping d (some (.fetching .mount c.nextCall)))
      (ht : d.timer = c.now + c.settings.pollInterval) (ha : d.answers = c.answers) :
      Turned c e d [(c.nextCall, c.now)] [] []
  | ticks (h : Looping c (some .idle)) (hd : Looping d (some (.fetching .interval c.nextCall)))
      (hc : c.timer ≤ c.now) (ht : d.timer = nextTick c.timer c.settings.pollInterval c.now)
      (ha : d.answers = c.answers) : Turned c e d [] [(c.nextCall, c.now)] []
  | ends {k : Trigger} {n : Nat} {r : Fetched} (h : Looping c (some (.fetching k n)))
      (hd : Looping d (some .idle)) (ha : c.answer? n = some (.fetched r)) (ht : d.timer = c.timer)
      (hn : d.now = c.now) : Turned c e d [] [] [(n, c.now)]

theorem Sound.work_of_fetching {k : Trigger} {n : Nat} (s : Sound c) (ht : t ∈ c.tasks)
    (hs : t.stage = .fetching k n) : t.work = .pollLoop ↔ k = .mount ∨ k = .interval := by
  have hr := hs ▸ s.reaches t ht
  cases hw : t.work <;> simp only [hw] at hr
  case pollLoop => exact iff_of_true rfl hr
  case refresh k' =>
    obtain ⟨rfl, rfl | rfl⟩ := hr <;> simp
  case call h => cases h <;> simp_all

-- The numbers of the fetches of the loop, among those that tasks wait for.
def Own (c : Controller) (own : List Nat) : Prop :=
  ∀ t ∈ c.tasks, ∀ k n, t.stage = .fetching k n → (n ∈ own ↔ t.work = .pollLoop)

section

variable {stage? : Option Stage} {own : List Nat}

-- A move of the loop.
theorem Moved.turned (m : Moved c t d trace) (s : Sound c) (ht : t ∈ c.tasks)
    (live : c.store.isDisposed = false) (hl : Looping c stage?) (hw : t.work = .pollLoop)
    (ho : Own c own) : Turned c e d (sent .mount trace) (sent .interval trace)
      ((completions trace).filter (·.1 ∈ own)) := by
  obtain ⟨rfl, -⟩ := hl.stage_eq ht hw
  cases m
  case waits => exact .rests (fun _ h => h) rfl rfl
  case ends _ hc     => exact absurd hc (Bool.eq_false_iff.1 (s.not_cancelled live))
  case breaks hs _ _ => exact .breaks (hs ▸ hl) (hl.remove_loop ht hw)
  case mounts hs _ _ => exact .opens (hs ▸ hl) ((hl.place_loop ht hw).of_tasks rfl) rfl rfl
  case ticks hs _ h => exact .ticks (hs ▸ hl) ((hl.place_loop ht hw).of_tasks rfl) h rfl rfl
  case resumes k n r _ hs ha _ =>
    have hn : n ∈ own := (ho t ht k n hs).2 hw
    rw [sent_landing, sent_landing, completions_landing live]
    simp only [List.filter_cons, List.filter_nil, hn, decide_true, if_true]
    exact .ends (hs ▸ hl) ((hl.place_loop ht hw).of_tasks rfl) ha rfl rfl
  all_goals simp_all

-- What another task completes is no fetch of the loop, and it sends none.
theorem Moved.other_sends (m : Moved c t d trace) (s : Sound c) (ht : t ∈ c.tasks)
    (live : c.store.isDisposed = false) (hw : t.work ≠ .pollLoop) (ho : Own c own) :
    sent .mount trace = [] ∧ sent .interval trace = [] ∧
      (completions trace).filter (·.1 ∈ own) = [] := by
  have other {k : Trigger} {n : Nat} {r : Fetched} (hs : t.stage = .fetching k n) :
      (completions (c.landing k n r)).filter (·.1 ∈ own) = [] := by
    have hn : n ∉ own := fun hn => hw ((ho t ht k n hs).1 hn)
    rw [completions_landing live]
    simp [hn]
  cases m
  case ends _ hc => exact absurd hc (Bool.eq_false_iff.1 (s.not_cancelled live))
  case mounts hw' _ | ticks hw' _ | resumes hw' => exact absurd hw' hw
  case refreshes k _ hs hw' =>
    have hr := s.reaches t ht
    rw [hs, hw'] at hr
    rcases hr with rfl | rfl <;> exact ⟨rfl, rfl, rfl⟩
  case completes hs _ _ => exact ⟨sent_landing, sent_landing, other hs⟩
  case reloaded hs _ _ =>
    rw [sent_append, sent_append, completions_append, sent_landing, sent_landing,
      List.filter_append, other hs]
    exact ⟨rfl, rfl, rfl⟩
  case created | refused | cancels =>
    rw [sent_did_append, sent_did_append, completions_did_append]
    exact ⟨rfl, rfl, rfl⟩
  all_goals exact ⟨rfl, rfl, rfl⟩

theorem Moved.keeps_clock (m : Moved c t d trace) : d.now = c.now := by
  cases m <;> rfl

theorem Moved.keeps_timer (m : Moved c t d trace) (hw : t.work ≠ .pollLoop) :
    d.timer = c.timer := by
  cases m
  case mounts hw' _ | ticks hw' _ => exact absurd hw' hw
  all_goals rfl

theorem Stepped.turned (h : Stepped c e d trace) (s : Sound c) (live : c.store.isDisposed = false)
    (hl : Looping c stage?) (ho : Own c own) : Turned c e d (sent .mount trace)
      (sent .interval trace) ((completions trace).filter (·.1 ∈ own)) := by
  cases h
  case moved t ht _ m =>
    by_cases hw : t.work = .pollLoop
    case pos => exact m.turned s ht live hl hw ho
    case neg =>
      obtain ⟨hm, hi, hc⟩ := m.other_sends s ht live hw ho
      rw [hm, hi, hc]
      exact .rests (fun _ h => m.other_loops s ht hw h) (m.keeps_timer hw) m.keeps_clock
  case elapsed => exact .passes rfl rfl
  case requested => exact .rests (fun _ h => h.spawn (by simp)) rfl rfl
  case abandoned t ht hw =>
    have hn : t.work ≠ .pollLoop := fun he => by simp [he] at hw
    exact .rests (fun _ h => h.remove s ht hn) rfl rfl
  case told a _ _ => cases a <;> exact .rests (fun _ h => h.of_tasks rfl) rfl rfl
  all_goals exact .rests (fun _ h => h.of_tasks rfl) rfl rfl

end

-- The answers that there are belong to requests that were sent.
theorem Stepped.expects {n : Nat} {a : Answer} (st : Stepped c e d trace)
    (h : (n, a) ∈ d.answers) : (n, a) ∈ c.answers ∨ ∃ call, (n, call) ∈ c.pending := by
  cases st
  case moved m => exact .inl (m.keeps_answers h)
  case answered he _ =>
    refine (List.mem_append.1 h).imp_right fun h => ?_
    cases List.mem_singleton.1 h
    obtain ⟨t, ht, hs⟩ := List.any_eq_true.1 he
    have hc : t.stage.call? = some n := by simpa using hs
    have hq : ∃ call, t.request? c.settings = some (n, call) := by
      cases hs : t.stage <;> simp_all [Stage.call?, Task.request?]
    obtain ⟨call, hq⟩ := hq
    exact ⟨call, mem_pending.2 ⟨t, ht, hq⟩⟩
  all_goals exact .inl h

section

variable {settings : StatusSettings} {analytics : Analytics Unit}

theorem life_concat : life settings analytics (es ++ [e]) =
    (((life settings analytics es).1.step e).1,
      (life settings analytics es).2 ++ ((life settings analytics es).1.step e).2) := by
  simp [life_append, run]

theorem life_asked {q : Nat × ServiceCall} (h : q ∈ (life settings analytics es).1.pending) :
    q ∈ requests (life settings analytics es).2 :=
  (life_steps.asks h).resolve_left List.not_mem_nil

theorem life_nodup : ((requests (life settings analytics es).2).map (·.1)).Nodup :=
  life_steps.requests_nodup

theorem life_fetching {k : Trigger} {n : Nat} (ht : t ∈ (life settings analytics es).1.tasks)
    (hs : t.stage = .fetching k n) : (n, .fetch k) ∈ requests (life settings analytics es).2 :=
  life_asked (mem_pending.2 ⟨t, ht, by rw [Task.request?, hs]⟩)

theorem life_own : Own (life settings analytics es).1
    ((polls (life settings analytics es).2).map (·.1)) := by
  intro t ht k n hs
  have hk := life_fetching ht hs
  have same {k' : Trigger} (h : (n, .fetch k') ∈ requests (life settings analytics es).2) :
      k = k' := by
    have he := List.inj_on_of_nodup_map life_nodup hk h rfl
    simpa using he
  rw [mem_polls, sound_life.work_of_fetching ht hs]
  constructor
  case mp => exact fun h => h.imp same same
  case mpr =>
    rintro (rfl | rfl)
    · exact .inl hk
    · exact .inr hk

-- Each fetch that is completed was sent before.
theorem life_completions {x : Nat × Nat} (h : x ∈ completions (life settings analytics es).2) :
    x.1 ∈ (requests (life settings analytics es).2).map (·.1) := by
  obtain ⟨r, hr⟩ := mem_completions.1 h
  obtain ⟨before, after, hs⟩ := List.append_of_mem hr
  obtain ⟨-, k, time, hk⟩ := life_applied hs
  exact List.mem_map.2 ⟨_, mem_requests.2 ⟨time, hs ▸ List.mem_append_left _ hk⟩, rfl⟩

theorem life_step_completions {x : Nat × Nat}
    (h : x ∈ completions ((life settings analytics es).2 ++
      ((life settings analytics es).1.step e).2)) :
    x.1 ∈ (requests (life settings analytics es).2).map (·.1) := by
  rw [completions_append, List.mem_append] at h
  rcases h with h | h
  case inl => exact life_completions h
  case inr =>
    obtain ⟨r, hr⟩ := mem_completions.1 h
    obtain ⟨t, ht, hn⟩ := List.mem_filterMap.1 ((sound_life.stepped e).applies hr).1
    cases hs : t.stage <;> simp only [Task.fetch?, hs, reduceCtorEq, Option.some.injEq] at hn
    case fetching k n => exact List.mem_map.2 ⟨_, life_fetching ht hs, hn⟩

theorem completedPolls_concat : completedPolls (life settings analytics (es ++ [e])).2 =
    completedPolls (life settings analytics es).2 ++
      (completions ((life settings analytics es).1.step e).2).filter
        fun x => x.1 ∈ (polls (life settings analytics es).2).map (·.1) := by
  rw [life_concat]
  refine completedPolls_append fun x hx hp => ?_
  have hn := @life_nodup (es ++ [e]) settings analytics
  rw [life_concat, requests_append, List.map_append] at hn
  have hq : x.1 ∈ (requests ((life settings analytics es).1.step e).2).map (·.1) := by
    rcases mem_polls.1 hp with hq | hq <;> exact List.mem_map.2 ⟨_, hq, rfl⟩
  exact (List.nodup_append.1 hn).2.2 _ (life_step_completions hx) _ hq rfl

theorem life_numbers {n : Nat} {call : ServiceCall}
    (h : (n, call) ∈ requests (life settings analytics es).2) :
    n < (life settings analytics es).1.nextCall := by
  have st : Steps _ es _ _ := @life_steps settings analytics es
  obtain ⟨count, hn, hr⟩ := st.requests_range
  have hm : n ∈ (requests (life settings analytics es).2).map (·.1) := List.mem_map.2 ⟨_, h, rfl⟩
  have hm : n ∈ List.range' (mount settings analytics).1.nextCall count := hr ▸ hm
  rw [hn]
  exact (List.mem_range'_1.1 hm).2

theorem life_answers {n : Nat} {a : Answer} (h : (n, a) ∈ (life settings analytics es).1.answers) :
    n < (life settings analytics es).1.nextCall := by
  have hr : ∃ call, (n, call) ∈ requests (life settings analytics es).2 := by
    induction es using List.reverseRecOn
    case nil => simp [life, run, mount] at h
    case append_singleton es e hi =>
      rw [life_concat] at h ⊢
      have hc : ∃ call, (n, call) ∈ requests (life settings analytics es).2 := by
        rcases (sound_life.stepped e).expects h with h | ⟨call, h⟩
        · exact hi h
        · exact ⟨call, life_asked h⟩
      obtain ⟨call, hc⟩ := hc
      exact ⟨call, by rw [requests_append]; exact List.mem_append_left _ hc⟩
  obtain ⟨call, hr⟩ := hr
  exact life_numbers hr

theorem life_init (h : (life settings analytics (es ++ [e])).1.store.isDisposed = false) :
    (life settings analytics es).1.store.isDisposed = false := by
  have s : Sound (life settings analytics es).1 := sound_life
  rw [life_concat] at h
  exact (s.steps [e]).live h

theorem life_turned {stage? : Option Stage}
    (live : (life settings analytics es).1.store.isDisposed = false)
    (hl : Looping (life settings analytics es).1 stage?) :
    Turned (life settings analytics es).1 e (life settings analytics (es ++ [e])).1
      (sent .mount ((life settings analytics es).1.step e).2)
      (sent .interval ((life settings analytics es).1.step e).2)
      ((completions ((life settings analytics es).1.step e).2).filter
        fun x => x.1 ∈ (polls (life settings analytics es).2).map (·.1)) := by
  rw [life_concat]
  exact (sound_life.stepped e).turned sound_life live hl life_own

end

end IndexWatch.Controller
