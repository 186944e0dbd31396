import IndexWatch.Proofs.Status.Outstanding
import IndexWatch.Proofs.Status.Turn

namespace IndexWatch.Controller

variable {c d : Controller} {t u : Task} {trace : List Occurrence} {e : Event} {es : List Event}
variable {id n : Nat}

theorem Sound.step_run (s : Sound c) (ht : t ∈ c.tasks) : c.step (.run t.id) = c.move t := by
  rw [step, task?_of_mem s.nodup ht]

theorem Stepped.keeps_task (st : Stepped c e d trace) (hu : u ∈ c.tasks) (hr : e ≠ .run u.id)
    (ha : e ≠ .abandon u.id) : u ∈ d.tasks := by
  cases st
  case moved m   => exact m.keeps_other hu fun hi => hr (hi ▸ rfl)
  case requested => exact List.mem_append_left _ hu
  case abandoned => exact mem_remove.2 ⟨hu, fun hi => ha (hi ▸ rfl)⟩
  all_goals exact hu

-- Where a task that there is after an event comes from.
inductive Origin (c : Controller) (e : Event) (d : Controller) (u : Task) : Prop
  | stays (h : u ∈ c.tasks)
  -- The task that has moved. It waits for nothing but a request that it has sent.
  | moves {t : Task} (ht : t ∈ c.tasks) (he : e = .run t.id) (hi : u.id = t.id)
      (hn : ∀ n, u.stage.call? = some n → n = c.nextCall ∧ d.nextCall = c.nextCall + 1)
  | comes (hi : u.id = c.nextTask) (hs : u.stage = .start)

theorem Origin.of_place {stage : Stage} (hu : u ∈ (c.place t.id stage).tasks)
    (hn : ∀ n, stage.call? = some n → n = c.nextCall ∧ d.nextCall = c.nextCall + 1) :
    Origin c (.run t.id) d u := by
  rcases mem_place hu with hu | ⟨v, hv, hi, rfl⟩
  · exact .stays hu
  · exact .moves hv (by rw [hi]) rfl hn

theorem Origin.of_spawn {work : Work} (hu : u ∈ (c.spawn work).tasks) : Origin c e d u := by
  rcases List.mem_append.1 hu with hu | hu
  · exact .stays hu
  · rw [List.mem_singleton.1 hu]
    exact .comes rfl rfl

theorem Moved.origin (m : Moved c t d trace) (hu : u ∈ d.tasks) : Origin c (.run t.id) d u := by
  cases m
  case waits => exact .stays hu
  case ends | breaks | finds | informs | completes | reloaded | refused =>
    exact .stays (mem_remove.1 hu).1
  case created | cancels => exact .of_spawn (mem_remove.1 hu).1
  case resumes | awaits  => exact .of_place hu nofun
  all_goals exact .of_place hu fun n hn => ⟨(Option.some_inj.1 hn).symm, rfl⟩

theorem Stepped.origin (st : Stepped c e d trace) (hu : u ∈ d.tasks) : Origin c e d u := by
  cases st
  case moved m   => exact m.origin hu
  case requested => exact .of_spawn hu
  case abandoned => exact .stays (mem_remove.1 hu).1
  all_goals exact .stays hu

theorem Moved.nextTask_le (m : Moved c t d trace) : c.nextTask ≤ d.nextTask := by
  cases m
  case created | cancels => exact Nat.le_succ _
  all_goals exact Nat.le_refl _

theorem Stepped.nextTask_le (st : Stepped c e d trace) : c.nextTask ≤ d.nextTask := by
  cases st
  case moved m   => exact m.nextTask_le
  case requested => exact Nat.le_succ _
  all_goals exact Nat.le_refl _

theorem Stepped.nextCall_le (st : Stepped c e d trace) : c.nextCall ≤ d.nextCall := by
  rcases st.requests_eq with ⟨-, h⟩ | ⟨_, -, h⟩ <;> omega

-- No two tasks wait for the same request, and each one that is waited for has been sent.
structure Numbered (c : Controller) : Prop where
  sent  : ∀ t ∈ c.tasks, ∀ n, t.stage.call? = some n → n < c.nextCall
  apart : ∀ t ∈ c.tasks, ∀ u ∈ c.tasks, ∀ n, t.stage.call? = some n → u.stage.call? = some n →
    t.id = u.id

theorem Stepped.keeps_numbered (st : Stepped c e d trace) (h : Numbered c) : Numbered d where
  sent t ht n hn := by
    cases st.origin ht
    case stays ht    => exact Nat.lt_of_lt_of_le (h.sent t ht n hn) st.nextCall_le
    case moves hn'   =>
      obtain ⟨rfl, hd⟩ := hn' n hn
      omega
    case comes hs    =>
      rw [hs] at hn
      cases hn
  apart t ht u hu n hn hm := by
    cases st.origin ht
    case comes hs =>
      rw [hs] at hn
      cases hn
    case stays ht =>
      cases st.origin hu
      case stays hu  => exact h.apart t ht u hu n hn hm
      case moves hn' => exact absurd (hn' n hm).1 (Nat.ne_of_lt (h.sent t ht n hn))
      case comes hs  =>
        rw [hs] at hm
        cases hm
    case moves v hv he hi hn' =>
      cases st.origin hu
      case stays hu => exact absurd (hn' n hn).1 (Nat.ne_of_lt (h.sent u hu n hm))
      case moves w hw he' hi' _ =>
        rw [hi, hi']
        exact Event.run.inj (he.symm.trans he')
      case comes hs =>
        rw [hs] at hm
        cases hm

theorem Steps.keeps_numbered (st : Steps c es d trace) (h : Numbered c) : Numbered d := by
  induction st
  case refl           => exact h
  case step _ st _ hi => exact hi (st.keeps_numbered h)

theorem life_numbered {settings : StatusSettings} {analytics : Analytics Unit} :
    Numbered (life settings analytics es).1 :=
  life_steps.keeps_numbered ⟨by simp [mount, Stage.call?], by simp [mount]⟩

-- The number of the next request has not been answered.
theorem life_next_unanswered {settings : StatusSettings} {analytics : Analytics Unit} :
    (life settings analytics es).1.answer? (life settings analytics es).1.nextCall = none := by
  cases h : (life settings analytics es).1.answer? (life settings analytics es).1.nextCall
  case none   => rfl
  case some a => exact absurd (life_answers (mem_of_answer? h)) (Nat.lt_irrefl _)

-- Nothing is left of a task, and no task to come takes its number.
structure Over (c : Controller) (id : Nat) : Prop where
  past : id < c.nextTask
  gone : ∀ t ∈ c.tasks, t.id ≠ id

theorem over_remove (h : id < c.nextTask) : Over (c.remove id) id where
  past := h
  gone := fun _ ht => (mem_remove.1 ht).2

theorem Stepped.keeps_over (st : Stepped c e d trace) (h : Over c id) : Over d id where
  past := Nat.lt_of_lt_of_le h.past st.nextTask_le
  gone := fun u hu => by
    cases st.origin hu
    case stays hu        => exact h.gone u hu
    case moves ht _ hi _ => exact hi ▸ h.gone _ ht
    case comes hi _      => exact hi ▸ Nat.ne_of_gt h.past

theorem answer?_take_of_ne {m : Nat} (h : m ≠ n) : (c.take m).answer? n = c.answer? n := by
  simp only [answer?, take]
  induction c.answers
  case nil => rfl
  case cons p l hi =>
    by_cases hp : p.1 = m
    case pos =>
      have hn : (n == p.1) = false := by simpa using fun he : n = p.1 => h (hp.symm.trans he.symm)
      rw [List.filter_cons_of_neg (by simpa using hp), hi, List.lookup_cons, hn]
    case neg =>
      rw [List.filter_cons_of_pos (by simpa using hp), List.lookup_cons, List.lookup_cons, hi]

-- An answer is left for the task that waits for it.
theorem Moved.keeps_answer (m : Moved c t d trace) (h : t.stage.call? ≠ some n) :
    d.answer? n = c.answer? n := by
  have other {m : Nat} (hm : t.stage.call? = some m) : (c.take m).answer? n = c.answer? n :=
    answer?_take_of_ne fun he => h (he ▸ hm)
  cases m
  case resumes hs _ _ | completes hs _ _ | reloaded hs _ _ => exact other (by rw [hs]; rfl)
  case created hs _ _ | refused hs _ _ | cancels hs _ _    => exact other (by rw [hs]; rfl)
  all_goals rfl

-- The first answer to a request is kept until the task that waits for it moves.
theorem Stepped.keeps_answer (st : Stepped c e d trace) (q : Numbered c)
    (hu : u ∈ c.tasks) (hn : u.stage.call? = some n) (hr : e ≠ .run u.id) :
    d.answer? n = c.answer? n ∨ ∃ a, e = .answer n a ∧ c.answer? n = none := by
  cases st
  case moved t ht _ m =>
    refine .inl (m.keeps_answer fun hm => hr ?_)
    rw [q.apart t ht u hu n hm hn]
  case answered m a _ ha =>
    by_cases hm : m = n
    case pos => exact .inr ⟨a, hm ▸ rfl, hm ▸ ha⟩
    case neg =>
      have hb : (n == m) = false := beq_false_of_ne (Ne.symm hm)
      exact .inl (by simp [answer?, List.lookup_append, List.lookup_cons, hb])
  all_goals exact .inl rfl

-- The first answer to a request that a task waits for is taken in.
theorem answer?_step {a : Answer} (hu : u ∈ c.tasks) (hn : u.stage.call? = some n)
    (ha : c.answer? n = none) : (c.step (.answer n a)).1.answer? n = some a := by
  have he : c.isExpected n = true := List.any_eq_true.2 ⟨u, hu, by simp [hn]⟩
  have hl : c.answers.lookup n = none := ha
  simp [step, he, answer?, List.lookup_append, hl]

end IndexWatch.Controller
