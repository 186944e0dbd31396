import IndexWatch.Proofs.Status.Presentation
import IndexWatch.Proofs.Status.Tasks

namespace IndexWatch.Controller

variable {c d : Controller} {t u : Task} {trace : List Occurrence} {e : Event}
variable {es fs : List Event} {id n : Nat}

def Event.mover? : Event → Option Nat
  | .run id => some id
  | _ => none

-- The requests that a task sends in a run.
def sentBy (c : Controller) (id : Nat) : List Event → List (Nat × ServiceCall)
  | [] => []
  | e :: es =>
    (if e.mover? = some id then requests (c.step e).2 else []) ++ (c.step e).1.sentBy id es

-- What a task returns to its user in a trace.
def returned (id : Nat) (trace : List Occurrence) : List CallResult :=
  trace.filterMap fun
    | .finished t r => if t = id then some r else none
    | _ => none

theorem sentBy_append : c.sentBy id (es ++ fs) = c.sentBy id es ++ (c.run es).1.sentBy id fs := by
  induction es generalizing c
  case nil          => rfl
  case cons e es hi => simp only [List.cons_append, sentBy, run, hi, List.append_assoc]

theorem sentBy_cons_run :
    c.sentBy id (.run id :: es) =
      requests (c.step (.run id)).2 ++ (c.step (.run id)).1.sentBy id es := by
  rw [sentBy, Event.mover?, if_pos rfl]

theorem sentBy_cons_of_ne (h : e ≠ .run id) :
    c.sentBy id (e :: es) = (c.step e).1.sentBy id es := by
  have hm : e.mover? ≠ some id := by
    cases e <;> simp_all [Event.mover?]
  rw [sentBy, if_neg hm, List.nil_append]

theorem returned_append {before after : List Occurrence} :
    returned id (before ++ after) = returned id before ++ returned id after :=
  List.filterMap_append ..

theorem returned_did {effects : List Effect} : returned id (effects.map .did) = [] := by
  simp [returned]

theorem returned_did_append {effects : List Effect} :
    returned id (effects.map .did ++ trace) = returned id trace := by
  rw [returned_append, returned_did, List.nil_append]

theorem returned_landing {k : Trigger} {r : Fetched} : returned id (c.landing k n r) = [] := by
  rw [landing, returned_did_append]
  split <;> rfl

theorem returned_run_cons :
    returned id (c.run (e :: es)).2 =
      returned id (c.step e).2 ++ returned id ((c.step e).1.run es).2 :=
  returned_append

-- A task returns nothing in place of another one.
theorem Moved.returned_other (m : Moved c t d trace) (h : t.id ≠ id) : returned id trace = [] := by
  have hf {r : CallResult} : returned id [.finished t.id r] = [] := by simp [returned, h]
  cases m
  case ends                => exact returned_did
  case resumes | completes => exact returned_landing
  case reloaded            => rw [returned_append, returned_landing, hf]; rfl
  case finds | informs     => exact hf
  case created             => rw [returned_did_append]; exact hf
  case refused             => rw [returned_did_append]; exact hf
  case cancels             => rw [returned_did_append]; exact hf
  all_goals rfl

theorem Stepped.returned_other (st : Stepped c e d trace) (h : e ≠ .run id) :
    returned id trace = [] := by
  cases st
  case moved m    => exact m.returned_other fun hi => h (hi ▸ rfl)
  case told a _ _ => cases a <;> rfl
  all_goals rfl

theorem Sound.keeps_task (s : Sound c) (hu : u ∈ c.tasks)
    (h : ∀ e ∈ es, e ≠ .run u.id ∧ e ≠ .abandon u.id) : u ∈ (c.run es).1.tasks ∧
      c.sentBy u.id es = [] ∧ returned u.id (c.run es).2 = [] := by
  induction es generalizing c
  case nil => exact ⟨hu, rfl, rfl⟩
  case cons e es hi =>
    have st : Stepped c e (c.step e).1 (c.step e).2 := s.stepped e
    have ⟨hr, ha⟩ := h e (List.mem_cons_self ..)
    have ⟨ht, hs, hn⟩ := hi (s.of_stepped st) (st.keeps_task hu hr ha) fun e he =>
      h e (List.mem_cons_of_mem _ he)
    refine ⟨ht, ?_, ?_⟩
    · rw [sentBy_cons_of_ne hr, hs]
    · rw [returned_run_cons, st.returned_other hr, hn]
      rfl

theorem Sound.silent_of_over (s : Sound c) (h : Over c id) (es : List Event) :
    c.sentBy id es = [] ∧ returned id (c.run es).2 = [] := by
  induction es generalizing c
  case nil => exact ⟨rfl, rfl⟩
  case cons e es hi =>
    have st : Stepped c e (c.step e).1 (c.step e).2 := s.stepped e
    have ⟨hs, hn⟩ := hi (s.of_stepped st) (st.keeps_over h)
    by_cases he : e = .run id
    case pos =>
      subst he
      have ht : c.task? id = none := List.find?_eq_none.2 fun t ht => by simpa using h.gone t ht
      have hq : (c.step (.run id)).2 = [] := by rw [step, ht]
      rw [sentBy_cons_run, returned_run_cons, hs, hn, hq]
      exact ⟨rfl, rfl⟩
    case neg =>
      rw [sentBy_cons_of_ne he, returned_run_cons, st.returned_other he, hs, hn]
      exact ⟨rfl, rfl⟩

section

variable {shown : Job}

-- The call that waits for the answer to its request.
def waiting (id n : Nat) (shown : Job) : Task := ⟨id, .call .cancel, .cancelling n shown⟩

theorem Moved.waiting_cases (m : Moved c (waiting id n shown) d trace) (s : Sound c)
    (ht : waiting id n shown ∈ c.tasks) :
    (∀ r, c.answer? n ≠ some (.cancelled r)) ∧ d = c ∧ trace = [] ∨
      (∃ r, c.answer? n = some (.cancelled r)) ∧ Over d id ∧ requests trace = [] ∧
        returned id trace = [.cancelled (some shown)] := by
  cases m
  case waits hn _ _ =>
    refine .inl ⟨fun r ha => ?_, rfl, rfl⟩
    rw [taken?_cancelling rfl ha] at hn
    cases hn
  case cancels hs _ ha =>
    cases hs
    have ho : id < c.nextTask + 1 := Nat.lt_succ_of_lt (s.fresh _ ht)
    refine .inr ⟨⟨_, ha⟩, over_remove ho, requests_did_append rfl, ?_⟩
    rw [returned_did_append]
    simp [returned, waiting]
  case ends own _      => cases own
  case informs hw _ _  => cases hw
  all_goals contradiction

theorem Sound.waiting_moves (s : Sound c) (ht : waiting id n shown ∈ c.tasks) :
    (∀ r, c.answer? n ≠ some (.cancelled r)) ∧ c.step (.run id) = (c, []) ∨
      (∃ r, c.answer? n = some (.cancelled r)) ∧ Over (c.step (.run id)).1 id ∧
        requests (c.step (.run id)).2 = [] ∧
        returned id (c.step (.run id)).2 = [.cancelled (some shown)] := by
  have hm : c.step (.run id) = c.move (waiting id n shown) := s.step_run ht
  rw [hm]
  rcases (s.moved ht).waiting_cases s ht with ⟨ha, hd, hq⟩ | h
  · exact .inl ⟨ha, Prod.ext hd hq⟩
  · exact .inr h

-- From then on it sends nothing, and returns at most once.
theorem Sound.waiting_returns (s : Sound c) (ht : waiting id n shown ∈ c.tasks)
    (es : List Event) :
    c.sentBy id es = [] ∧
      (returned id (c.run es).2 = [] ∨ returned id (c.run es).2 = [.cancelled (some shown)]) := by
  induction es generalizing c
  case nil => exact ⟨rfl, .inl rfl⟩
  case cons e es hi =>
    have st : Stepped c e (c.step e).1 (c.step e).2 := s.stepped e
    have sd : Sound (c.step e).1 := s.of_stepped st
    by_cases hr : e = .run id
    case pos =>
      subst hr
      rw [sentBy_cons_run, returned_run_cons]
      rcases s.waiting_moves ht with ⟨-, hd⟩ | ⟨-, ho, hq, hn⟩
      case inl =>
        rw [hd]
        exact hi s ht
      case inr =>
        obtain ⟨hs, hx⟩ := sd.silent_of_over ho es
        rw [hs, hx, hq, hn]
        exact ⟨rfl, .inr rfl⟩
    case neg =>
      rw [sentBy_cons_of_ne hr, returned_run_cons, st.returned_other hr]
      by_cases ha : e = .abandon id
      case neg => exact hi sd (st.keeps_task ht hr ha)
      case pos =>
        subst ha
        have ho : Over (c.step (.abandon id)).1 id := by
          have hf : c.task? id = some (waiting id n shown) := task?_of_mem s.nodup ht
          rw [step, hf]
          exact over_remove (s.fresh _ ht)
        obtain ⟨hs, hx⟩ := sd.silent_of_over ho es
        rw [hs, hx]
        exact ⟨rfl, .inl rfl⟩

-- As long as the service has not answered, the call waits.
theorem Sound.waits_on (s : Sound c) (q : Numbered c) (ht : waiting id n shown ∈ c.tasks)
    (ha : c.answer? n = none) (unanswered : ∀ a, .answer n a ∉ es) (kept : .abandon id ∉ es) :
    waiting id n shown ∈ (c.run es).1.tasks ∧ (c.run es).1.answer? n = none ∧
      returned id (c.run es).2 = [] := by
  induction es generalizing c
  case nil => exact ⟨ht, ha, rfl⟩
  case cons e es hi =>
    have st : Stepped c e (c.step e).1 (c.step e).2 := s.stepped e
    have hu : ∀ a, .answer n a ∉ es := fun a h => unanswered a (List.mem_cons_of_mem _ h)
    have hk : .abandon id ∉ es := fun h => kept (List.mem_cons_of_mem _ h)
    rw [returned_run_cons]
    by_cases hr : e = .run id
    case pos =>
      subst hr
      rcases s.waiting_moves ht with ⟨-, hd⟩ | ⟨⟨r, hr⟩, -⟩
      case inl =>
        simp only [run, hd]
        exact hi s q ht ha hu hk
      case inr => simp [ha] at hr
    case neg =>
      have hb : e ≠ .abandon id := fun he => kept (he ▸ List.mem_cons_self ..)
      have hd : (c.step e).1.answer? n = none := by
        rcases st.keeps_answer q ht rfl hr with hd | ⟨a, he, -⟩
        · rw [hd, ha]
        · exact absurd (he ▸ List.mem_cons_self ..) (unanswered a)
      rw [st.returned_other hr]
      exact hi (s.of_stepped st) (st.keeps_numbered q) (st.keeps_task ht hr hb) hd hu hk

-- Once it has, the call returns when it moves on.
theorem Sound.answered_moves {r : Except ClientError Unit} (s : Sound c)
    (ht : waiting id n shown ∈ c.tasks) (ha : c.answer? n = some (.cancelled r)) :
    returned id (c.run (.run id :: fs)).2 = [.cancelled (some shown)] := by
  have st : Stepped c (.run id) (c.step (.run id)).1 (c.step (.run id)).2 := s.stepped _
  rcases s.waiting_moves ht with ⟨hn, -⟩ | ⟨-, ho, -, hn⟩
  case inl => exact absurd ha (hn r)
  case inr =>
    rw [returned_run_cons, hn, ((s.of_stepped st).silent_of_over ho fs).2]
    rfl

theorem Sound.answered_returns {r : Except ClientError Unit} (s : Sound c) (q : Numbered c)
    (ht : waiting id n shown ∈ c.tasks) (ha : c.answer? n = some (.cancelled r))
    (kept : .abandon id ∉ es) :
    returned id (c.run (es ++ .run id :: fs)).2 = [.cancelled (some shown)] := by
  induction es generalizing c
  case nil => exact s.answered_moves ht ha
  case cons e es hi =>
    have st : Stepped c e (c.step e).1 (c.step e).2 := s.stepped e
    have hk : .abandon id ∉ es := fun h => kept (List.mem_cons_of_mem _ h)
    by_cases hr : e = .run id
    case pos =>
      subst hr
      exact s.answered_moves ht ha
    case neg =>
      have hb : e ≠ .abandon id := fun he => kept (he ▸ List.mem_cons_self ..)
      have hd : (c.step e).1.answer? n = some (.cancelled r) := by
        rcases st.keeps_answer q ht rfl hr with hd | ⟨a, -, hn⟩
        · rw [hd, ha]
        · simp [ha] at hn
      rw [List.cons_append, returned_run_cons, st.returned_other hr]
      exact hi (s.of_stepped st) (st.keeps_numbered q) (st.keeps_task ht hr hb) hd hk

-- The service answers the request of a call, and the call moves on behind that.
def Concludes (id n : Nat) (es : List Event) : Prop :=
  ∃ unanswered r answered rest,
    es = unanswered ++ .answer n (.cancelled r) :: (answered ++ .run id :: rest) ∧
    (∀ a, .answer n a ∉ unanswered) ∧ .abandon id ∉ unanswered ∧ .abandon id ∉ answered

theorem Sound.concluded_returns (s : Sound c) (q : Numbered c) (ht : waiting id n shown ∈ c.tasks)
    (ha : c.answer? n = none) (h : Concludes id n es) :
    returned id (c.run es).2 = [.cancelled (some shown)] := by
  obtain ⟨unanswered, r, answered, rest, rfl, hu, hk, hb⟩ := h
  obtain ⟨hd, hn, hx⟩ := s.waits_on q ht ha hu hk
  rw [run_append, returned_append, hx, returned_run_cons]
  obtain ⟨f, hf⟩ : ∃ f, f = (c.run unanswered).1 := ⟨_, rfl⟩
  rw [← hf] at hd hn ⊢
  have sf : Sound f := hf ▸ (s.steps unanswered).sound_dst
  have qf : Numbered f := hf ▸ (s.steps unanswered).keeps_numbered q
  have st : Stepped f (.answer n (.cancelled r)) _ _ := sf.stepped _
  rw [st.returned_other nofun]
  exact (sf.of_stepped st).answered_returns (st.keeps_numbered qf)
    (st.keeps_task hd nofun nofun) (answer?_step hd rfl hn) hb

end

-- The call that has not moved yet.
def requested (id : Nat) : Task := ⟨id, .call .cancel, .start⟩

theorem Moved.cancel_begins (m : Moved c (requested id) d trace) (ht : requested id ∈ c.tasks) :
    c.store.chosen = none ∧ d = c.remove id ∧ trace = [.finished id (.cancelled none)] ∨
      ∃ shown, c.store.chosen = some shown ∧ waiting id c.nextCall shown ∈ d.tasks ∧
        d.answers = c.answers ∧
        trace = [.marked shown, .called c.nextCall (.cancel shown.id) c.now] := by
  cases m
  case waits hs _       => exact absurd rfl hs
  case finds h          => exact .inl ⟨h, rfl, rfl⟩
  case marks shown _ _ h =>
    have hw : waiting id c.nextCall shown ∈ (c.place id (.cancelling c.nextCall shown)).tasks :=
      mem_place_self ht
    exact .inr ⟨shown, h, hw, rfl, rfl⟩
  case ends own _       => cases own
  case informs hw _ _   => cases hw
  case reloads hw | creates hw | awaits hw _ => cases hw
  all_goals contradiction

theorem Sound.chosen_eq_snapshot (s : Sound c) : c.store.chosen = c.store.snapshot.chosen := by
  rw [s.chosen_eq, StatusStore.snapshot, s.published]
  rfl

-- Up to its first move the call does nothing.
theorem Sound.cancel_requested (s : Sound c) (live : c.store.isDisposed = false)
    (unmoved : ∀ e ∈ es, e ≠ .run c.nextTask ∧ e ≠ .abandon c.nextTask) (fs : List Event) :
    let d := (c.run (.request .cancel :: es)).1
    requested c.nextTask ∈ d.tasks ∧
      c.sentBy c.nextTask (.request .cancel :: es ++ fs) = d.sentBy c.nextTask fs ∧
      returned c.nextTask (c.run (.request .cancel :: es ++ fs)).2 =
        returned c.nextTask (d.run fs).2 := by
  intro d
  have hs : c.step (.request .cancel) = (c.spawn (.call .cancel), []) := by simp [step, live]
  have hm : Event.request .cancel ≠ .run c.nextTask := by simp
  have st : Stepped c (.request .cancel) _ _ := s.stepped (.request .cancel)
  have ht : requested c.nextTask ∈ (c.step (.request .cancel)).1.tasks := by
    rw [hs]
    exact List.mem_append_right _ (List.mem_singleton_self _)
  obtain ⟨hk, hn, hr⟩ := (s.of_stepped st).keeps_task ht unmoved
  refine ⟨hk, ?_, ?_⟩
  case refine_1 =>
    rw [sentBy_append, sentBy_cons_of_ne hm]
    exact congrArg (· ++ d.sentBy c.nextTask fs) hn
  case refine_2 =>
    rw [run_append, returned_append, returned_run_cons, st.returned_other hm]
    exact congrArg (· ++ returned c.nextTask (d.run fs).2) hr

theorem Sound.cancel_of_none (s : Sound c) (ht : requested id ∈ c.tasks)
    (h : c.store.snapshot.chosen = none) (es : List Event) :
    c.step (.run id) = (c.remove id, [.finished id (.cancelled none)]) ∧
      c.sentBy id (.run id :: es) = [] ∧
      returned id (c.run (.run id :: es)).2 = [.cancelled none] := by
  have hm : c.step (.run id) = c.move (requested id) := s.step_run ht
  have he : c.step (.run id) = (c.remove id, [.finished id (.cancelled none)]) := by
    rw [hm]
    rcases (s.moved ht).cancel_begins ht with ⟨-, hd, hx⟩ | ⟨j, hj, -⟩
    case inl => exact Prod.ext hd hx
    case inr => simp [s.chosen_eq_snapshot, h] at hj
  have hs := (s.remove id).silent_of_over (over_remove (s.fresh _ ht)) es
  rw [sentBy_cons_run, returned_run_cons, he, hs.1, hs.2]
  exact ⟨rfl, rfl, by simp [returned]⟩

theorem Sound.cancel_of_some {j : Job} (s : Sound c) (q : Numbered c)
    (ht : requested id ∈ c.tasks) (ha : c.answer? c.nextCall = none)
    (h : c.store.snapshot.chosen = some j) (es : List Event) :
    c.sentBy id (.run id :: es) = [(c.nextCall, .cancel j.id)] ∧
      (returned id (c.run (.run id :: es)).2 = [] ∨
        returned id (c.run (.run id :: es)).2 = [.cancelled (some j)]) ∧
      (Concludes id c.nextCall es →
        returned id (c.run (.run id :: es)).2 = [.cancelled (some j)]) := by
  have hm : c.step (.run id) = c.move (requested id) := s.step_run ht
  have st : Stepped c (.run id) (c.step (.run id)).1 (c.step (.run id)).2 := s.stepped _
  have sd : Sound (c.step (.run id)).1 := s.of_stepped st
  obtain ⟨shown, hj, hw, hn, hx⟩ := ((s.moved ht).cancel_begins ht).resolve_left fun hn => by
    simp [s.chosen_eq_snapshot, h] at hn
  obtain rfl : j = shown := Option.some_inj.1 (h.symm.trans (s.chosen_eq_snapshot.symm.trans hj))
  rw [← hm] at hw hn hx
  have ha : (c.step (.run id)).1.answer? c.nextCall = none := by rw [answer?, hn]; exact ha
  obtain ⟨hs, hr⟩ := sd.waiting_returns hw es
  rw [sentBy_cons_run, returned_run_cons, hx, hs]
  exact ⟨rfl, hr, fun hc => sd.concluded_returns (st.keeps_numbered q) hw ha hc⟩

-- A cancel from its request on. Its first move finds a job shown or none, and whatever is under way
-- before that and behind it, one request goes out for the job that was shown, if any was, and that
-- job is returned when the request has been answered. If none was shown, nothing else is done.
theorem cancel_acts_on_shown (settings : StatusSettings) (analytics : Analytics Unit)
    (before mid after : List Event)
    (live : (life settings analytics before).1.store.isDisposed = false)
    (unmoved : ∀ e ∈ mid, e ≠ .run (life settings analytics before).1.nextTask ∧
      e ≠ .abandon (life settings analytics before).1.nextTask) :
    let start := (life settings analytics before).1
    let id := start.nextTask
    let c := (life settings analytics (before ++ .request .cancel :: mid)).1
    let shown := c.store.snapshot.chosen
    let es := .request .cancel :: mid ++ .run id :: after
    start.sentBy id es = (shown.map fun j => (c.nextCall, .cancel j.id)).toList ∧
    (returned id (start.run es).2 = [] ∨ returned id (start.run es).2 = [.cancelled shown]) ∧
    (shown = none ∨ Concludes id c.nextCall after →
      returned id (start.run es).2 = [.cancelled shown]) ∧
    (shown = none → c.step (.run id) = (c.remove id, [.finished id (.cancelled none)])) := by
  intro start id c shown es
  have s : Sound start := sound_life
  have sc : Sound c := sound_life
  have hc : (start.run (.request .cancel :: mid)).1 = c := by simp only [c, life_append, start]
  obtain ⟨ht, hs, hr⟩ := s.cancel_requested live unmoved (.run id :: after)
  rw [hc] at ht hs hr
  rw [hs, hr]
  cases hj : shown
  case none =>
    obtain ⟨hd, hs, hr⟩ := sc.cancel_of_none ht hj after
    exact ⟨hs, .inr hr, fun _ => hr, fun _ => hd⟩
  case some j =>
    obtain ⟨hs, hr, hq⟩ := sc.cancel_of_some life_numbered ht life_next_unanswered hj after
    exact ⟨hs, hr, fun h => hq (h.resolve_left nofun), nofun⟩

-- A reload swaps the list behind the first move of a cancel, and the service refuses the cancel.
theorem cancel_acts_on_shown_of_swap :
    let j := Job.new "a" .postIndexing .inProgress
    let other := Job.new "b" .postIndexing .inProgress
    let before := firstFetch j
    let mid : List Event := [.request .reload, .run 2, .answer 2 (.fetched (.ok [other]))]
    let after : List Event := [.run 2, .answer 3 (.cancelled (.error .mfaRequired)), .run 1]
    let start := (life {} .disabled before).1
    let es := .request .cancel :: mid ++ .run 1 :: after
    start.store.isDisposed = false ∧
      start.sentBy 1 es = [(3, .cancel "a")] ∧
      returned 1 (start.run es).2 = [.cancelled (some j)] ∧
      (start.run es).1.store.snapshot.chosen = some other := by
  intro j other before mid after start es
  have hw : start = watching [j] := by simp only [start, before, life_firstFetch]
  have live : start.store.isDisposed = false := by rw [hw]; rfl
  have hn : start.nextTask = 1 := by rw [hw]; rfl
  have unmoved : ∀ e ∈ mid, e ≠ .run start.nextTask ∧ e ≠ .abandon start.nextTask := by
    rw [hn]
    simp [mid]
  have concludes : Concludes 1 3 after :=
    ⟨[.run 2], .error .mfaRequired, [], [], rfl, by simp, by simp, by simp⟩
  have hc : (life {} .disabled (before ++ .request .cancel :: mid)).1 =
      ((watching [j]).run (.request .cancel :: mid)).1 := by
    simp only [life_append, before, life_firstFetch]
  have hj : ((watching [j]).run (.request .cancel :: mid)).1.store.snapshot.chosen = some j := rfl
  have hq : ((watching [j]).run (.request .cancel :: mid)).1.nextCall = 3 := rfl
  have h := cancel_acts_on_shown {} .disabled before mid after live unmoved
  simp only at h
  rw [hc, hj, hq, show (life {} .disabled before).1.nextTask = 1 from hn] at h
  refine ⟨live, h.1, h.2.2.1 (.inr concludes), ?_⟩
  have ho : Job.order [other] = [other] := List.mergeSort_singleton ..
  have hl : ((watching [j]).run es).1.store.snapshot.chosen = Job.choose (Job.order [other]) := rfl
  rw [hw, hl, ho]
  rfl

end IndexWatch.Controller
