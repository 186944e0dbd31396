import IndexWatch.Proofs.Status.Turn

namespace IndexWatch.Controller

variable {c d : Controller} {t : Task} {trace : List Occurrence} {e : Event} {es : List Event}

-- The deadline behind a poll. A poll that is more than five milliseconds late moves it.
def following (period deadline start : Nat) : Nat :=
  if deadline + 5 < start then start + period else deadline + period

-- When polls start, from the deadline of the first of them, and from the times at which the fetch
-- before each of them ends.
def schedule (period : Nat) : Nat → List Nat → List Nat
  | _, [] => []
  | deadline, e :: ends =>
    max deadline e :: schedule period (following period deadline (max deadline e)) ends

def deadline (period first : Nat) (ends : List Nat) : Nat :=
  ends.foldl (fun deadline e => following period deadline (max deadline e)) first

section

variable {period first e : Nat} {ends : List Nat}

theorem schedule_append : schedule period first (ends ++ [e]) =
    schedule period first ends ++ [max (deadline period first ends) e] := by
  induction ends generalizing first
  case nil => rfl
  case cons x ends hi => simp [schedule, deadline, hi]

theorem deadline_append : deadline period first (ends ++ [e]) =
    following period (deadline period first ends) (max (deadline period first ends) e) := by
  simp [deadline]

@[simp]
theorem length_schedule : (schedule period first ends).length = ends.length := by
  induction ends generalizing first
  case nil => rfl
  case cons x ends hi => simp [schedule, hi]

theorem le_following (period : Nat) {start : Nat} (h : first ≤ start) :
    first + period ≤ following period first start ∧
      start + period ≤ following period first start + 5 := by
  rw [following]
  split <;> omega

theorem le_schedule {k : Nat} (h : k < (schedule period first ends).length) :
    first + k * period ≤ (schedule period first ends)[k] := by
  induction ends generalizing first k
  case nil => simp [schedule] at h
  case cons x ends hi =>
    cases k
    case zero =>
      simp only [schedule, Nat.zero_mul, Nat.add_zero, List.getElem_cons_zero]
      exact Nat.le_max_left ..
    case succ k =>
      have hb : k < (schedule period (following period first (max first x)) ends).length := by
        simpa [schedule] using h
      have hk := hi hb
      have hf := (le_following period (Nat.le_max_left first x)).1
      simp only [schedule, List.getElem_cons_succ]
      rw [Nat.succ_mul]
      omega

-- Behind any poll, as many periods pass as polls follow, but for the tolerance.
theorem schedule_rate {i k : Nat} (h : i + k < (schedule period first ends).length) :
    (schedule period first ends)[i] + k * period ≤ (schedule period first ends)[i + k] + 5 := by
  induction ends generalizing first i
  case nil => simp [schedule] at h
  case cons x ends hi =>
    cases i
    case succ i =>
      have hb : i + k < (schedule period (following period first (max first x)) ends).length := by
        simp [schedule] at h ⊢
        omega
      simpa [schedule, Nat.succ_add] using hi hb
    case zero =>
      cases k
      case zero => simp [schedule]
      case succ k =>
        have hb : k < (schedule period (following period first (max first x)) ends).length := by
          simpa [schedule] using h
        have hk := le_schedule hb
        have hf := (le_following period (Nat.le_max_left first x)).2
        simp only [schedule, Nat.zero_add, List.getElem_cons_zero, List.getElem_cons_succ]
        rw [Nat.succ_mul]
        omega

theorem schedule_spaced :
    (schedule period first ends).Pairwise fun s s' => s + period ≤ s' + 5 := by
  refine List.pairwise_iff_getElem.2 fun i j hi hj hij => ?_
  obtain ⟨k, rfl⟩ : ∃ k, j = i + (k + 1) := ⟨j - i - 1, by omega⟩
  have hr := schedule_rate hj
  rw [Nat.succ_mul] at hr
  omega

end

example : schedule 10 10 [14, 14, 36, 36] = [14, 20, 36, 46] := rfl

-- How the polls so far keep to the schedule. The fetch at the begin has been sent at a time and has
-- its number, and all fetches but the last one have ended.
structure Scheduled (period begun opened last timer : Nat) (polled ended : List (Nat × Nat)) :
    Prop where
  numbers : opened :: polled.map (·.1) = ended.map (·.1) ++ [last]
  starts  : polled.map (·.2) = schedule period (begun + period) (ended.map (·.2))
  timer   : timer = deadline period (begun + period) (ended.map (·.2))

theorem Scheduled.mounted {period begun number : Nat} :
    Scheduled period begun number number (begun + period) [] [] where
  numbers := rfl
  starts  := rfl
  timer   := rfl

theorem Scheduled.polled {period begun opened last timer number e now : Nat}
    {polled ended : List (Nat × Nat)} (h : Scheduled period begun opened last timer polled ended)
    (hn : now = max timer e) : Scheduled period begun opened number (nextTick timer period now)
      (polled ++ [(number, now)]) (ended ++ [(last, e)]) where
  numbers := by simp [← h.numbers]
  starts  := by simp [schedule_append, h.starts, ← h.timer, hn]
  timer   := by
    simp only [List.map_append, List.map_cons, List.map_nil, deadline_append, ← h.timer, ← hn]
    rfl

-- Where the loop stands in its schedule, by the fetch at its begin, its polls and those of its
-- fetches that have ended.
inductive Pacing (c : Controller) : List (Nat × Nat) → List (Nat × Nat) → List (Nat × Nat) → Prop
  | unopened {stage? : Option Stage} (h : Looping c stage?)
      (hs : ∀ stage, stage? = some stage → stage = .start) : Pacing c [] [] []
  | fetching {k : Trigger} {n opened begun : Nat} {polled ended : List (Nat × Nat)}
      (h : Looping c (some (.fetching k n)))
      (hs : Scheduled c.settings.pollInterval begun opened n c.timer polled ended) :
      Pacing c [(opened, begun)] polled ended
  | idle {n opened begun e : Nat} {polled ended : List (Nat × Nat)} (h : Looping c (some .idle))
      (hs : Scheduled c.settings.pollInterval begun opened n c.timer polled ended)
      (hb : e ≤ c.now) (hl : c.now ≤ max c.timer e) :
      Pacing c [(opened, begun)] polled (ended ++ [(n, e)])

-- Whether the poll loop has nothing to do for some milliseconds: it cannot move, and its timer does
-- not run out before the end of them. Its begin may be late.
def Idles (c : Controller) (ms : Nat) : Prop :=
  ∀ t ∈ c.tasks, t.work = .pollLoop → t.stage ≠ .start →
    c.isRunnable t = false ∧ (t.stage = .idle → c.now + ms ≤ c.timer)

def Prompt (c : Controller) : List Event → Prop
  | [] => True
  | e :: es => (∀ ms, e = .elapse ms → 0 < ms → Idles c ms) ∧ Prompt (c.step e).1 es

namespace Pacing

variable {opened polled ended opened' polled' ended' : List (Nat × Nat)}

theorem looping (h : Pacing c opened polled ended) : ∃ stage?, Looping c stage? := by
  cases h
  case unopened h _ => exact ⟨_, h⟩
  case fetching h _ => exact ⟨_, h⟩
  case idle h _ _ _ => exact ⟨_, h⟩

theorem turned (h : Pacing c opened polled ended) (tn : Turned c e d opened' polled' ended')
    (hs : d.settings = c.settings) (prompt : ∀ ms, e = .elapse ms → 0 < ms → Idles c ms) :
    Pacing d (opened ++ opened') (polled ++ polled') (ended ++ ended') := by
  cases tn
  case rests hl ht hn =>
    simp only [List.append_nil]
    cases h
    case unopened h hu => exact .unopened (hl _ h) hu
    case fetching h hk => exact .fetching (hl _ h) (by rwa [hs, ht])
    case idle h hb hm hk => exact .idle (hl _ h) (by rwa [hs, ht]) (by rwa [hn]) (by rwa [hn, ht])
  case passes ms he hd =>
    subst hd
    simp only [List.append_nil]
    cases h
    case unopened h hu => exact .unopened (h.of_tasks rfl) hu
    case fetching h hk => exact .fetching (h.of_tasks rfl) hk
    case idle h hb hm hk =>
      refine .idle (h.of_tasks rfl) hk (Nat.le_add_right_of_le hb) ?_
      rcases Nat.eq_zero_or_pos ms with rfl | hp
      case inl => exact hm
      case inr =>
        have hi := (prompt ms he hp _ h.mem rfl (by simp)).2 rfl
        exact Nat.le_trans hi (Nat.le_max_left ..)
  case breaks h' hd =>
    cases h
    case unopened => exact .unopened hd (by simp)
    case fetching h _ => cases h.unique h'
    case idle h _ _ _ => cases h.unique h'
  case opens h' hd ht _ =>
    cases h
    case unopened => exact .fetching hd (by rw [hs, ht]; exact .mounted)
    case fetching h _ => cases h.unique h'
    case idle h _ _ _ => cases h.unique h'
  case ticks h' hd hc ht _ =>
    cases h
    case unopened h hu => cases hu _ (h.unique h')
    case fetching h _ => cases h.unique h'
    case idle h hb hm hk =>
      simp only [List.append_nil]
      exact .fetching hd (by rw [hs, ht]; exact hk.polled (by omega))
  case ends h' hd _ ht hn =>
    cases h
    case unopened h hu => cases hu _ (h.unique h')
    case idle h _ _ _ => cases h.unique h'
    case fetching h hk =>
      cases h.unique h'
      simp only [List.append_nil]
      exact .idle hd (by rwa [hs, ht]) (by omega) (by omega)

end Pacing

theorem prompt_append {fs : List Event} :
    Prompt c (es ++ fs) ↔ Prompt c es ∧ Prompt (c.run es).1 fs := by
  induction es generalizing c
  case nil => simp [Prompt, run]
  case cons e es hi => simp [Prompt, run, hi, and_assoc]

def Replied (settings : StatusSettings) (analytics : Analytics Unit) (es : List Event)
    (number : Nat) (a : Answer) (time : Nat) : Prop :=
  ∃ before after, es = before ++ .answer number a :: after ∧
    (life settings analytics before).1.now = time

section

variable {settings : StatusSettings} {analytics : Analytics Unit}

theorem Replied.concat {n time : Nat} {a : Answer} (h : Replied settings analytics es n a time) :
    Replied settings analytics (es ++ [e]) n a time := by
  obtain ⟨before, after, rfl, ht⟩ := h
  exact ⟨before, after ++ [e], by simp, ht⟩

theorem life_pacing (prompt : Prompt (mount settings analytics).1 es)
    (live : (life settings analytics es).1.store.isDisposed = false) :
    Pacing (life settings analytics es).1 (sent .mount (life settings analytics es).2)
      (sent .interval (life settings analytics es).2)
      (completedPolls (life settings analytics es).2) := by
  induction es using List.reverseRecOn
  case nil =>
    have hl : Looping (mount settings analytics).1 (some .start) := .on rfl (List.forall_mem_nil _)
    exact .unopened hl (by simp)
  case append_singleton es e hi =>
    obtain ⟨pe, pl, -⟩ := prompt_append.1 prompt
    have h := hi pe (life_init live)
    obtain ⟨stage?, hl⟩ := h.looping
    have hs : (life settings analytics (es ++ [e])).1.settings =
        (life settings analytics es).1.settings := by rw [life_setup.1, life_setup.1]
    have hp := h.turned (life_turned (life_init live) hl) hs pl
    rw [completedPolls_concat]
    rw [life_concat] at hp ⊢
    rwa [sent_append, sent_append]

-- The fetches of the loop that have ended were answered at the time of their end, and one that has
-- been answered and not taken up yet was answered at this time.
structure Punctual (settings : StatusSettings) (analytics : Analytics Unit) (es : List Event) :
    Prop where
  waiting : ∀ k n a, Looping (life settings analytics es).1 (some (.fetching k n)) →
    (n, a) ∈ (life settings analytics es).1.answers →
    Replied settings analytics es n a (life settings analytics es).1.now
  ended   : ∀ x ∈ completedPolls (life settings analytics es).2,
    ∃ r, Replied settings analytics es x.1 (.fetched r) x.2

theorem Idles.unanswered {k : Trigger} {n ms : Nat} {a : Answer} (h : Idles c ms)
    (hl : Looping c (some (.fetching k n))) : (n, a) ∉ c.answers := by
  intro ha
  have hr := (h _ hl.mem rfl (by simp)).1
  simp only [isRunnable, Bool.or_eq_false_iff, Option.isSome_eq_false_iff,
    Option.isNone_iff_eq_none] at hr
  simpa using List.lookup_eq_none_iff.1 hr.2 _ ha

theorem Punctual.turned {stage? : Option Stage} {opened polled ended : List (Nat × Nat)}
    (h : Punctual settings analytics es) (hl : Looping (life settings analytics es).1 stage?)
    (prompt : ∀ ms, e = .elapse ms → 0 < ms → Idles (life settings analytics es).1 ms)
    (tn : Turned (life settings analytics es).1 e (life settings analytics (es ++ [e])).1
      opened polled ended)
    (he : completedPolls (life settings analytics (es ++ [e])).2 =
      completedPolls (life settings analytics es).2 ++ ended) :
    Punctual settings analytics (es ++ [e]) where
  waiting k n a hd ha := by
    have kept : (n, a) ∈ (life settings analytics es).1.answers ∨ e = .answer n a := by
      rw [life_concat] at ha
      exact (sound_life.stepped e).keeps_answers ha
    cases tn
    case rests hr _ hn =>
      cases (hr _ hl).unique hd
      rw [hn]
      rcases kept with ha | rfl
      · exact (h.waiting k n a hl ha).concat
      · exact ⟨es, [], rfl, rfl⟩
    case passes ms hp hn =>
      subst hp
      have hm := kept.resolve_right (by simp)
      have hc : Looping (life settings analytics es).1 (some (.fetching k n)) := by
        rw [hn] at hd
        exact hd.of_tasks rfl
      rcases Nat.eq_zero_or_pos ms with rfl | hp
      · rw [hn]
        exact (h.waiting k n a hc hm).concat
      · exact absurd hm ((prompt ms rfl hp).unanswered hc)
    case breaks hd' => cases hd.unique hd'
    case opens hd' _ hs =>
      cases hd.unique hd'
      exact absurd (life_answers (hs ▸ ha)) (Nat.lt_irrefl _)
    case ticks hd' _ _ hs =>
      cases hd.unique hd'
      exact absurd (life_answers (hs ▸ ha)) (Nat.lt_irrefl _)
    case ends hd' _ _ _ => cases hd.unique hd'
  ended x hx := by
    rw [he, List.mem_append] at hx
    rcases hx with hx | hx
    case inl =>
      obtain ⟨r, hr⟩ := h.ended x hx
      exact ⟨r, hr.concat⟩
    case inr =>
      cases tn
      case ends k n r hc _ ha _ _ =>
        cases List.mem_singleton.1 hx
        exact ⟨r, (h.waiting k n _ hc (mem_of_answer? ha)).concat⟩
      all_goals exact absurd hx List.not_mem_nil

theorem life_punctual (prompt : Prompt (mount settings analytics).1 es)
    (live : (life settings analytics es).1.store.isDisposed = false) :
    Punctual settings analytics es := by
  induction es using List.reverseRecOn
  case nil => exact ⟨by simp [life, run, mount], fun x hx => absurd hx List.not_mem_nil⟩
  case append_singleton es e hi =>
    obtain ⟨pe, pl, -⟩ := prompt_append.1 prompt
    obtain ⟨stage?, hl⟩ := (life_pacing pe (life_init live)).looping
    exact (hi pe (life_init live)).turned hl pl (life_turned (life_init live) hl)
      completedPolls_concat

end

structure Cadence (period : Nat) (opened : Nat × Nat) (polled ended : List (Nat × Nat))
    (now : Nat) : Prop where
  -- The loop sends no fetch before the one before it has ended.
  single : ended.map (·.1) <+: (opened :: polled).map (·.1) ∧ polled.length ≤ ended.length
  -- Each poll starts when it is due, and none is missed.
  starts : polled.map (·.2) <+: schedule period (opened.2 + period) (ended.map (·.2))
  due    : ∀ s ∈ (schedule period (opened.2 + period) (ended.map (·.2))).drop polled.length, now ≤ s
  -- So they are no more than there are periods, but for the tolerance, and they come in no burst.
  rate   : ∀ i k (h : i + k < polled.length), polled[i].2 + k * period ≤ polled[i + k].2 + 5
  sparse : ∀ t, (polled.filter fun x => t ≤ x.2 ∧ x.2 + 5 < t + period).length ≤ 1

section

variable {period first : Nat} {polled : List (Nat × Nat)} {ends : List Nat}

theorem rate_of_schedule (h : polled.map (·.2) <+: schedule period first ends) {i k : Nat}
    (hi : i + k < polled.length) : polled[i].2 + k * period ≤ polled[i + k].2 + 5 := by
  have hl := h.length_le
  rw [List.length_map] at hl
  have hg {j : Nat} (hj : j < polled.length) :
      polled[j].2 = (schedule period first ends)[j] := by
    rw [← h.getElem (by simpa using hj), List.getElem_map]
  rw [hg, hg]
  exact schedule_rate (by omega)

theorem sparse_of_schedule (h : polled.map (·.2) <+: schedule period first ends) (t : Nat) :
    (polled.filter fun x => t ≤ x.2 ∧ x.2 + 5 < t + period).length ≤ 1 := by
  have hp : polled.Pairwise fun x y => x.2 + period ≤ y.2 + 5 :=
    List.pairwise_map.1 (schedule_spaced.sublist h.sublist)
  have hf := hp.sublist (List.filter_sublist (p := fun x => t ≤ x.2 ∧ x.2 + 5 < t + period))
  have hm : ∀ x ∈ polled.filter fun x => t ≤ x.2 ∧ x.2 + 5 < t + period,
      t ≤ x.2 ∧ x.2 + 5 < t + period := fun x hx => by simpa using (List.mem_filter.1 hx).2
  generalize polled.filter (fun x => t ≤ x.2 ∧ x.2 + 5 < t + period) = l at hf hm ⊢
  match l with
  | [] | [_] => simp
  | x :: y :: l =>
    have hs := (List.pairwise_cons.1 hf).1 y (List.mem_cons_self ..)
    have hx := hm x (List.mem_cons_self ..)
    have hy := hm y (List.mem_cons_of_mem _ (List.mem_cons_self ..))
    omega

theorem Pacing.cadence {opened polled ended : List (Nat × Nat)} (h : Pacing c opened polled ended) :
    (opened = [] ∧ polled = [] ∧
      ∃ stage?, Looping c stage? ∧ ∀ stage, stage? = some stage → stage = .start) ∨
    ∃ o, opened = [o] ∧ Cadence c.settings.pollInterval o polled ended c.now := by
  cases h
  case unopened stage? h hs => exact .inl ⟨rfl, rfl, stage?, h, hs⟩
  case fetching n opened begun h hs =>
    have hl : polled.length = ended.length := by simpa using congrArg List.length hs.numbers
    have hp : polled.map (·.2) <+: schedule c.settings.pollInterval
        (begun + c.settings.pollInterval) (ended.map (·.2)) :=
      ⟨[], by rw [List.append_nil, hs.starts]⟩
    refine .inr ⟨_, rfl, {
      single := ⟨⟨[n], by simpa using hs.numbers.symm⟩, Nat.le_of_eq hl⟩
      starts := hp
      due    := fun s hm => by
        rw [List.drop_eq_nil_of_le (by simp [hl])] at hm
        exact absurd hm List.not_mem_nil
      rate   := fun i k hi => rate_of_schedule hp hi
      sparse := sparse_of_schedule hp }⟩
  case idle n opened begun e ended h hb hm hs =>
    have hl : polled.length = ended.length := by simpa using congrArg List.length hs.numbers
    have hc : schedule c.settings.pollInterval (begun + c.settings.pollInterval)
        ((ended ++ [(n, e)]).map (·.2)) = polled.map (·.2) ++ [max c.timer e] := by
      rw [List.map_append, List.map_singleton, schedule_append, ← hs.starts, ← hs.timer]
    have hp : polled.map (·.2) <+: schedule c.settings.pollInterval
        (begun + c.settings.pollInterval) ((ended ++ [(n, e)]).map (·.2)) :=
      hc ▸ List.prefix_append ..
    refine .inr ⟨_, rfl, {
      single := ⟨⟨[], by simpa using hs.numbers.symm⟩, by simp [hl]⟩
      starts := hp
      due    := fun s hm' => by
        rw [hc, List.drop_left' (List.length_map ..), List.mem_singleton] at hm'
        exact hm' ▸ hm
      rate   := fun i k hi => rate_of_schedule hp hi
      sparse := sparse_of_schedule hp }⟩

end

theorem Looping.step_eq {stage : Stage} (h : Looping c (some stage)) :
    c.step (.run 0) = c.move ⟨0, .pollLoop, stage⟩ := by
  have ht : c.task? 0 = some ⟨0, .pollLoop, stage⟩ := by
    cases h
    case on h => rw [task?, h]; rfl
  rw [step, ht]

theorem Looping.opens (h : Looping c (some .start)) (live : c.cancelled = false)
    (hc : c.canStart = true) : sent .mount (c.step (.run 0)).2 = [(c.nextCall, c.now)] := by
  simp [h.step_eq, move, hc, live, beginRefresh, send, sent]

theorem Looping.polls (h : Looping c (some .idle)) (live : c.cancelled = false)
    (ht : c.timer ≤ c.now) : sent .interval (c.step (.run 0)).2 = [(c.nextCall, c.now)] := by
  simp [h.step_eq, move, live, ht, beginRefresh, send, sent]

theorem Looping.completes {k : Trigger} {n : Nat} {r : Fetched}
    (h : Looping c (some (.fetching k n))) (live : c.cancelled = false)
    (hs : c.store.isDisposed = false) (ha : c.answer? n = some (.fetched r)) :
    completions (c.step (.run 0)).2 = [(n, c.now)] := by
  have hl : (c.landed n r).cancelled = false := live
  have hm : (c.step (.run 0)).2 = c.landing k n r ++ [] := by
    simp [h.step_eq, move, live, ha, fold_eq_landed, leaveRefresh, hl]
  rw [hm, List.append_nil, completions_landing hs]

-- What the loop does when it moves: a fetch that has been answered ends, and a poll that is due is
-- sent.
structure Progress (c : Controller) (period : Nat) (opened : Nat × Nat)
    (polled ended : List (Nat × Nat)) : Prop where
  ends  : ∀ n ∈ ((opened :: polled).map (·.1)).drop ended.length, ∀ r,
    c.answer? n = some (.fetched r) → completions (c.step (.run 0)).2 = [(n, c.now)]
  polls : ∀ s ∈ (schedule period (opened.2 + period) (ended.map (·.2))).drop polled.length,
    s ≤ c.now → sent .interval (c.step (.run 0)).2 = [(c.nextCall, c.now)]

theorem Pacing.progress {opened : Nat × Nat} {polled ended : List (Nat × Nat)}
    (h : Pacing c [opened] polled ended) (live : c.cancelled = false)
    (hs : c.store.isDisposed = false) : Progress c c.settings.pollInterval opened polled ended := by
  cases h
  case fetching k n opened begun h sc =>
    have hl : polled.length = ended.length := by simpa using congrArg List.length sc.numbers
    refine ⟨fun m hm r ha => ?_, fun s hm => ?_⟩
    case refine_1 =>
      rw [List.map_cons, sc.numbers, List.drop_left' (List.length_map ..)] at hm
      cases List.mem_singleton.1 hm
      exact h.completes live hs ha
    case refine_2 =>
      rw [List.drop_eq_nil_of_le (by simp [hl])] at hm
      exact absurd hm List.not_mem_nil
  case idle n opened begun e ended h hb hm sc =>
    have hl : polled.length = ended.length := by simpa using congrArg List.length sc.numbers
    refine ⟨fun m hm => ?_, fun s hd hn => ?_⟩
    case refine_1 =>
      rw [List.drop_eq_nil_of_le (by simp [hl])] at hm
      exact absurd hm List.not_mem_nil
    case refine_2 =>
      rw [List.map_append, List.map_singleton, schedule_append, ← sc.starts, ← sc.timer,
        List.drop_left' (List.length_map ..), List.mem_singleton] at hd
      exact h.polls live (Nat.le_trans (hd ▸ Nat.le_max_left ..) hn)

-- In a run in which the loop moves as soon as it can, whatever else is under way: either it has not
-- begun, and begins with its next move unless it can set no timer, or its polls keep the cadence, and
-- its next move ends a fetch that has been answered and sends a poll that is due.
theorem polls_keep_cadence (settings : StatusSettings) (analytics : Analytics Unit)
    (es : List Event) (prompt : Prompt (mount settings analytics).1 es)
    (live : (life settings analytics es).1.store.isDisposed = false) :
    let c := (life settings analytics es).1
    let trace := (life settings analytics es).2
    polls trace = [] ∧ (.run 0 ∉ es ∧
      (c.canStart = true → sent .mount (c.step (.run 0)).2 = [(c.nextCall, c.now)]) ∨
      c.canStart = false) ∨
    ∃ opened, sent .mount trace = [opened] ∧
      Cadence settings.pollInterval opened (sent .interval trace) (completedPolls trace) c.now ∧
      Progress c settings.pollInterval opened (sent .interval trace) (completedPolls trace) ∧
      ∀ x ∈ completedPolls trace, ∃ r, Replied settings analytics es x.1 (.fetched r) x.2 := by
  intro c trace
  have hc : c.settings = settings := life_setup.1
  have s : Sound c := sound_life
  have told : c.cancelled = false := s.not_cancelled live
  have pacing : Pacing c (sent .mount trace) (sent .interval trace) (completedPolls trace) :=
    life_pacing prompt live
  rcases pacing.cadence with ⟨hm, hi, stage?, hl, hs⟩ | ⟨opened, hm, hk⟩
  case inl =>
    refine .inl ⟨by rw [polls, hm, hi]; rfl, ?_⟩
    cases life_begun live
    case fresh h he => exact .inl ⟨he, h.opens told⟩
    case loops stage h hn _ => exact absurd (hs stage (hl.unique h)) hn
    case broken hb _ => exact .inr hb
  case inr =>
    have hp := (hm ▸ pacing).progress told live
    exact .inr ⟨opened, hm, hc ▸ hk, hc ▸ hp, (life_punctual prompt live).ended⟩

-- The first fetch lasts for two and a half periods, and the poll behind it starts at once.
def overrun : List Event :=
  [.run 0, .elapse 25, .answer 1 (.fetched (.ok [])), .run 0, .run 0]

def overran : Controller :=
  { (mount { pollInterval := 10 } .disabled).1 with
    store    := ((StatusStore.new true).modify (·.fetched (.ok []) ⟨25⟩)).1
    now      := 25
    timer    := 35
    tasks    := [⟨0, .pollLoop, .fetching .interval 2⟩]
    nextCall := 3 }

theorem life_overrun : life { pollInterval := 10 } .disabled overrun = (overran,
    [.did (.log (Report.mounted { pollInterval := 10 })), .called 1 (.fetch .mount) 0] ++
      (Report.refresh { pollInterval := 10 } .mount (.ok [])).map .did ++
      [.applied 1 (.ok []) 25, .ticked 10 35 25, .called 2 (.fetch .interval) 25]) :=
  rfl

-- That poll takes no time. A reload runs beside the loop until the next one.
def resumed : List Event :=
  [.request .reload, .run 1, .answer 2 (.fetched (.error .mfaRequired)), .run 0, .elapse 10,
    .answer 3 (.fetched (.ok [])), .run 1, .run 0]

theorem prompt_overrun : Prompt (mount { pollInterval := 10 } .disabled).1 (overrun ++ resumed) := by
  have hc : ((mount { pollInterval := 10 } .disabled).1.run overrun).1 = overran :=
    congrArg Prod.fst life_overrun
  rw [prompt_append, hc]
  simp only [Prompt, overrun, resumed, reduceCtorEq, Event.elapse.injEq, forall_eq',
    false_implies, implies_true, true_and, and_true]
  refine ⟨fun _ t ht hw _ => ?_, fun _ t ht hw _ => ?_⟩
  case refine_1 =>
    cases List.mem_singleton.1 ht
    exact ⟨rfl, by simp⟩
  case refine_2 =>
    rcases List.mem_cons.1 ht with rfl | ht
    · exact ⟨rfl, fun _ => Nat.le_refl 35⟩
    · cases List.mem_singleton.1 ht
      cases hw

theorem overrun_keeps_cadence :
    let settings : StatusSettings := { pollInterval := 10 }
    let c := (life settings .disabled (overrun ++ resumed)).1
    let trace := (life settings .disabled (overrun ++ resumed)).2
    Prompt (mount settings .disabled).1 (overrun ++ resumed) ∧ c.store.isDisposed = false ∧
      sent .mount trace = [(1, 0)] ∧ sent .interval trace = [(2, 25), (4, 35)] ∧
      Cadence 10 (1, 0) (sent .interval trace) (completedPolls trace) c.now ∧
      Progress c 10 (1, 0) (sent .interval trace) (completedPolls trace) := by
  intro settings c trace
  have hl := @life_append settings .disabled overrun resumed
  rw [life_overrun] at hl
  have ht : trace = [.did (.log (Report.mounted settings)), .called 1 (.fetch .mount) 0] ++
      (Report.refresh settings .mount (.ok [])).map .did ++
      [.applied 1 (.ok []) 25, .ticked 10 35 25, .called 2 (.fetch .interval) 25] ++
      (overran.run resumed).2 := congrArg Prod.snd hl
  have live : c.store.isDisposed = false := by
    simp only [c, hl]
    rfl
  have hm : sent .mount trace = [(1, 0)] := by
    rw [ht]
    rfl
  have hi : sent .interval trace = [(2, 25), (4, 35)] := by
    rw [ht]
    rfl
  rcases polls_keep_cadence settings .disabled _ prompt_overrun live with
    ⟨hn, -⟩ | ⟨o, ho, hc, hp, -⟩
  case inl =>
    have hp : polls trace = [(1, 0), (2, 25), (4, 35)] := by
      rw [polls, hm, hi]
      rfl
    exact absurd (hp.symm.trans hn) (by simp)
  case inr =>
    obtain rfl : (1, 0) = o := List.singleton_inj.1 (hm.symm.trans ho)
    exact ⟨prompt_overrun, live, hm, hi, hc, hp⟩

end IndexWatch.Controller
