import IndexWatch.Proofs.Ordering
import IndexWatch.Proofs.Status.Step

namespace IndexWatch

variable {r : Fetched}

theorem StatusState.fetched_order {s : StatusState} {at_ : Timestamp} :
    s.fetched (r.map Job.order) at_ = s.fetched r at_ := by
  cases r
  case ok jobs => simp [StatusState.fetched, Except.map, StatusState.refreshed, Job.order_order]
  case error e => rfl

theorem Report.refresh_order {s : StatusSettings} {k : Trigger} :
    Report.refresh s k (r.map Job.order) = Report.refresh s k r := by
  cases r
  case ok jobs => simp only [Report.refresh, Except.map, Job.order_perm.length_eq]
  case error e => rfl

def Answer.ordered : Answer → Answer
  | .fetched r => .fetched (r.map Job.order)
  | a => a

namespace Controller

variable {c : Controller} {t : Task} {e : Event} {es : List Event}

def Event.ordered : Event → Event
  | .answer n a => .answer n a.ordered
  | e => e

def Occurrence.ordered : Occurrence → Occurrence
  | .applied n r time => .applied n (r.map Job.order) time
  | o => o

def ordered (c : Controller) : Controller :=
  { c with answers := c.answers.map fun p => (p.1, p.2.ordered) }

def Move.ordered (m : Move) : Move := (m.1.ordered, m.2.map Occurrence.ordered)

theorem answer?_ordered {n : Nat} : c.ordered.answer? n = (c.answer? n).map Answer.ordered := by
  simp only [answer?, ordered]
  induction c.answers
  case nil => rfl
  case cons p l hi =>
    rw [List.map_cons, List.lookup_cons, List.lookup_cons]
    split <;> simp_all

theorem take_ordered {n : Nat} : c.ordered.take n = (c.take n).ordered := by
  simp only [take, ordered, List.filter_map]
  rfl

theorem map_ordered_did {effects : List Effect} :
    (effects.map .did).map Occurrence.ordered = effects.map .did := by
  simp [Occurrence.ordered]

theorem landed_ordered {n : Nat} :
    c.ordered.landed n (r.map Job.order) = (c.landed n r).ordered := by
  simp only [landed, take_ordered, StatusState.fetched_order]
  rfl

theorem landing_ordered {k : Trigger} {n : Nat} :
    c.ordered.landing k n (r.map Job.order) = (c.landing k n r).map Occurrence.ordered := by
  have hd : c.ordered.store.isDisposed = c.store.isDisposed := rfl
  rw [landing, landing, Report.refresh_order, List.map_append, map_ordered_did, hd]
  cases c.store.isDisposed <;> rfl

-- What bears on the way that a step takes is the same in both controllers.
theorem ite_ordered {p : Prop} [Decidable p] {x y x' y' : Move} (hx : x' = x.ordered)
    (hy : y' = y.ordered) : (if p then x' else y') = (if p then x else y).ordered := by
  split
  case isTrue  => exact hx
  case isFalse => exact hy

theorem cons_ordered {m m' : Move} {o : Occurrence} (ho : o.ordered = o) (h : m' = m.ordered) :
    (m'.1, o :: m'.2) = Move.ordered (m.1, o :: m.2) := by
  rw [h, Move.ordered, Move.ordered, List.map_cons, ho]

theorem leaveRefresh_ordered : c.ordered.leaveRefresh t = (c.leaveRefresh t).ordered := by
  simp only [leaveRefresh]
  cases t.work
  case pollLoop => exact ite_ordered rfl rfl
  case refresh  => rfl
  case call h   => cases h <;> rfl

theorem abandonRefresh_ordered {k : Trigger} :
    c.ordered.abandonRefresh t k = (c.abandonRefresh t k).ordered :=
  cons_ordered rfl leaveRefresh_ordered

theorem beginRefresh_ordered {k : Trigger} :
    c.ordered.beginRefresh t k = (c.beginRefresh t k).ordered :=
  ite_ordered abandonRefresh_ordered rfl

theorem beginCall_ordered {id : Nat} {h : HandleCall} :
    c.ordered.beginCall id t h = (c.beginCall id t h).ordered := by
  have hs : c.ordered.store = c.store := rfl
  cases h
  case reload => exact beginRefresh_ordered
  case create => rfl
  case cancel =>
    simp only [beginCall, hs]
    cases c.store.chosen <;> rfl
  case ready => exact ite_ordered rfl rfl

theorem endCreate_ordered {id : Nat} {r : Except ClientError Job} :
    c.ordered.endCreate id r = (c.endCreate id r).ordered := by
  cases r <;> simp [endCreate, Move.ordered, finish, ordered, remove, spawn, Occurrence.ordered]

theorem endCancel_ordered {id : Nat} {shown : Job} {r : Except ClientError Unit} :
    c.ordered.endCancel id shown r = (c.endCancel id shown r).ordered := by
  simp [endCancel, Move.ordered, finish, ordered, remove, spawn, Occurrence.ordered]

theorem move_start_ordered (hs : t.stage = .start) : c.ordered.move t = (c.move t).ordered := by
  simp only [move, hs]
  cases t.work
  case pollLoop =>
    have hb := beginRefresh_ordered (t := t) (k := .mount)
      (c := { c with timer := c.now + c.settings.pollInterval })
    exact ite_ordered rfl (ite_ordered abandonRefresh_ordered hb)
  case refresh k => exact beginRefresh_ordered
  case call h    => exact ite_ordered rfl beginCall_ordered

theorem move_fetching_ordered {k : Trigger} {n : Nat} (hs : t.stage = .fetching k n) :
    c.ordered.move t = (c.move t).ordered := by
  simp only [move, hs, answer?_ordered]
  refine ite_ordered abandonRefresh_ordered ?_
  cases c.answer? n
  case none => rfl
  case some a =>
    cases a
    case fetched r =>
      simp only [Option.map_some, Answer.ordered, fold_eq_landed, landed_ordered, landing_ordered,
        leaveRefresh_ordered, Move.ordered, List.map_append]
    all_goals rfl

theorem move_ordered : c.ordered.move t = (c.move t).ordered := by
  cases hs : t.stage
  case start        => exact move_start_ordered hs
  case fetching k n => exact move_fetching_ordered hs
  case creating n =>
    simp only [move, hs, answer?_ordered]
    cases c.answer? n
    case none => rfl
    case some a =>
      cases a
      case created r => simp only [Option.map_some, Answer.ordered, take_ordered, endCreate_ordered]
      all_goals rfl
  case cancelling n shown =>
    simp only [move, hs, answer?_ordered]
    cases c.answer? n
    case none => rfl
    case some a =>
      cases a
      case cancelled r =>
        simp only [Option.map_some, Answer.ordered, take_ordered, endCancel_ordered]
      all_goals rfl
  case idle =>
    have hb := beginRefresh_ordered (t := t) (k := .interval)
      (c := { c with timer := nextTick c.timer c.settings.pollInterval c.now })
    simp only [move, hs]
    exact ite_ordered rfl (ite_ordered (cons_ordered rfl hb) rfl)
  case awaiting =>
    simp only [move, hs]
    exact ite_ordered rfl rfl

theorem step_ordered : c.ordered.step e.ordered = (c.step e).ordered := by
  cases e
  case run id =>
    have ht : c.ordered.task? id = c.task? id := rfl
    simp only [step, Event.ordered, ht]
    cases c.task? id
    case none   => rfl
    case some t => exact move_ordered
  case answer n a =>
    simp only [step, Event.ordered, answer?_ordered, Option.isNone_map]
    exact ite_ordered (by simp [Move.ordered, ordered]) rfl
  case elapse ms => rfl
  case request h => exact ite_ordered rfl rfl
  case abandon id =>
    have ht : c.ordered.task? id = c.task? id := rfl
    simp only [step, Event.ordered, ht]
    cases c.task? id
    case none   => rfl
    case some t => exact ite_ordered rfl rfl
  case dispose => exact ite_ordered rfl rfl
  case cancelTasks announced =>
    cases announced <;> exact ite_ordered rfl rfl

theorem run_ordered : c.ordered.run (es.map Event.ordered) = (c.run es).ordered := by
  induction es generalizing c
  case nil => rfl
  case cons e es hi =>
    simp only [List.map_cons, run, step_ordered]
    simp only [Move.ordered, hi, List.map_append]

theorem Event.ordered_eq_of_rows {n : Nat} {l₁ l₂ : List Job}
    (h : ∀ t, Job.createdAt t l₁ = Job.createdAt t l₂) :
    Event.ordered (.answer n (.fetched (.ok l₁))) =
      Event.ordered (.answer n (.fetched (.ok l₂))) := by
  simp only [Event.ordered, Answer.ordered, Except.map, Job.order_eq_iff.2 h]

-- Where the events are the same with their lists in order, the stores are the same.
theorem life_store_eq {settings : StatusSettings} {analytics : Analytics Unit} {fs : List Event}
    (h : es.map Event.ordered = fs.map Event.ordered) :
    (life settings analytics es).1.store = (life settings analytics fs).1.store := by
  have hm : (mount settings analytics).1.ordered = (mount settings analytics).1 := rfl
  have hr (gs : List Event) : (life settings analytics gs).1.ordered =
      ((mount settings analytics).1.run (gs.map Event.ordered)).1 := by
    rw [← hm, run_ordered]
    rfl
  have he : (life settings analytics es).1.ordered = (life settings analytics fs).1.ordered := by
    rw [hr, hr, h]
  have hs := congrArg Controller.store he
  exact hs

-- The order of a list tells apart exactly the lists in which the jobs of some time do not stand in
-- the same row. Whichever of two lists with the same rows is answered at some point of a life, the
-- store is the same from there on, with the jobs that it holds, the job shown and the view.
theorem order_told_by_rows (l₁ l₂ : List Job) :
    (Job.order l₁ = Job.order l₂ ↔ ∀ t, Job.createdAt t l₁ = Job.createdAt t l₂) ∧
    (Job.order l₁).Perm l₁ ∧
    (Job.order l₁).Pairwise (·.createAt ≤ ·.createAt) ∧
    (l₁.Perm l₂ → (l₁.map (·.createAt)).Nodup →
      ∀ t, Job.createdAt t l₁ = Job.createdAt t l₂) ∧
    ((∀ t, Job.createdAt t l₁ = Job.createdAt t l₂) → ∀ settings analytics before n after,
      (life settings analytics (before ++ .answer n (.fetched (.ok l₁)) :: after)).1.store =
        (life settings analytics (before ++ .answer n (.fetched (.ok l₂)) :: after)).1.store) := by
  refine ⟨Job.order_eq_iff, Job.order_perm, Job.pairwise_order, fun hp hn t => ?_,
    fun h settings analytics before n after => life_store_eq ?_⟩
  case refine_1 => exact Job.createdAt_eq_of_nodup hp hn
  case refine_2 =>
    rw [List.map_append, List.map_append, List.map_cons, List.map_cons, Event.ordered_eq_of_rows h]

-- A job that was created at a time, and of which nothing else matters.
def jobOf (id : String) (time : Int64) : Job :=
  (Job.new id .postIndexing .pending).withCreateAt time

-- The least and the greatest time, and two jobs of one time between them.
theorem order_told_by_rows_of_tie :
    let a := jobOf "a" 5
    let b := jobOf "b" 5
    let early := jobOf "early" Int64.minValue
    let late := jobOf "late" Int64.maxValue
    Job.order [late, a, early, b] = Job.order [a, b, early, late] ∧
      Job.order [a, b] ≠ Job.order [b, a] ∧
      Job.createdAt 5 [late, a, early] = Job.createdAt 5 [early, late, a] ∧
      (life {} .disabled [.run 0, .answer 1 (.fetched (.ok [late, a, early, b])), .run 0]).1.store =
        (life {} .disabled
          [.run 0, .answer 1 (.fetched (.ok [a, b, early, late])), .run 0]).1.store := by
  intro a b early late
  have rows (t : Int64) :
      Job.createdAt t [late, a, early, b] = Job.createdAt t [a, b, early, late] := by
    by_cases h : late.createAt = t
    case pos =>
      subst h
      rfl
    case neg =>
      rw [Job.createdAt_cons_of_ne h]
      by_cases h' : early.createAt = t
      case pos =>
        subst h'
        rfl
      case neg => simp [Job.createdAt, List.filter_cons, h, h']
  have distinct : ([late, a] ++ [early]).Perm ([early] ++ [late, a]) := List.perm_append_comm
  have h := order_told_by_rows [late, a, early, b] [a, b, early, late]
  have hn := order_told_by_rows [a, b] [b, a]
  have hd := order_told_by_rows [late, a, early] [early, late, a]
  refine ⟨h.1.2 rows, fun he => ?_, ?_, ?_⟩
  case refine_1 =>
    have h5 := hn.1.1 he 5
    simp [Job.createdAt, a, b, jobOf, Job.withCreateAt, Job.new] at h5
  case refine_2 => exact hd.2.2.2.1 distinct (by decide) 5
  case refine_3 => exact h.2.2.2.2 rows {} .disabled [.run 0] 1 [.run 0]

end Controller

end IndexWatch
