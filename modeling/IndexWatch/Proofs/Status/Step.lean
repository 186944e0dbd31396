import Mathlib.Data.List.Nodup
import Mathlib.Tactic.ByContra
import IndexWatch.Status.Controller

namespace IndexWatch

namespace StatusStore

variable {s : StatusStore} {f : StatusState → StatusState}

theorem modify_of_isDisposed (h : s.isDisposed = true) : s.modify f = (s, false) := by
  simp_all [modify, update, isDisposed]

theorem modify_of_live (h : s.isDisposed = false) :
    s.modify f = ({ s with
      kept := f s.kept
      published := (f s.kept).snapshot s.isConfigured
      publications := s.publications + 1 }, true) := by
  simp_all [modify, update, isDisposed]

theorem modify_applied : (s.modify f).2 = !s.isDisposed := by
  cases h : s.isDisposed
  case false => rw [modify_of_live h]; rfl
  case true  => rw [modify_of_isDisposed h]; rfl

theorem modify_preserves_isDisposed : (s.modify f).1.isDisposed = s.isDisposed := by
  cases h : s.isDisposed
  case false => rw [modify_of_live h]; exact h
  case true  => rw [modify_of_isDisposed h]; exact h

end StatusStore

namespace Controller

variable {c : Controller} {t : Task}

@[simp]
theorem Work.isOwn_pollLoop : Work.pollLoop.isOwn = true := rfl

@[simp]
theorem Work.isOwn_refresh {t : Trigger} : (Work.refresh t).isOwn = true := rfl

@[simp]
theorem Work.isOwn_call {h : HandleCall} : (Work.call h).isOwn = false := rfl

-- The stages that work of a kind goes through.
@[simp]
def Work.Reaches : Work → Stage → Prop
  | .pollLoop, .start => True
  | .pollLoop, .idle => True
  | .pollLoop, .fetching t _ => t = .mount ∨ t = .interval
  | .refresh t, .start => t = .create ∨ t = .cancel
  | .refresh t, .fetching u _ => u = t ∧ (t = .create ∨ t = .cancel)
  | .call _, .start => True
  | .call .reload, .fetching t _ => t = .manual
  | .call .create, .creating _ => True
  | .call .cancel, .cancelling _ _ => True
  | .call .ready, .awaiting => True
  | _, _ => False

-- The store never breaks, since no change to it fails midway. It is disposed only when the user has
-- no call running, and the tasks are told to end only behind that.
structure Sound (c : Controller) : Prop where
  reaches    : ∀ t ∈ c.tasks, t.work.Reaches t.stage
  nodup      : (c.tasks.map (·.id)).Nodup
  fresh      : ∀ t ∈ c.tasks, t.id < c.nextTask
  whole      : c.store.poisoned = false
  published  : c.store.published = c.store.kept.snapshot c.store.isConfigured
  configured : c.store.isConfigured = c.settings.isConfigured
  own        : c.store.disposed = true → ∀ t ∈ c.tasks, t.work.isOwn = true
  disposed   : c.cancelled = true → c.store.disposed = true

-- An answer that is taken up by the task that waits for it, with the number of the request.
inductive Taken where
  | fetched (number : Nat) (t : Trigger) (r : Fetched)
  | created (number : Nat) (r : Except ClientError Job)
  | cancelled (number : Nat) (shown : Job) (r : Except ClientError Unit)

-- The answer that a task takes up if it moves.
def taken? (c : Controller) (t : Task) : Option Taken :=
  match t.stage with
  | .fetching trigger n =>
    match c.answer? n with
    | some (.fetched r) => if c.cancelled then none else some (.fetched n trigger r)
    | _ => none
  | .creating n =>
    match c.answer? n with
    | some (.created r) => some (.created n r)
    | _ => none
  | .cancelling n shown =>
    match c.answer? n with
    | some (.cancelled r) => some (.cancelled n shown r)
    | _ => none
  | _ => none

-- The controller once the answer to a fetch has been taken up and folded into the store.
def landed (c : Controller) (n : Nat) (r : Fetched) : Controller :=
  { c.take n with store := (c.store.modify (·.fetched r ⟨c.now⟩)).1 }

-- What is told of a fetch that is answered. A disposed store takes nothing in.
def landing (c : Controller) (trigger : Trigger) (n : Nat) (r : Fetched) : List Occurrence :=
  (Report.refresh c.settings trigger r).map .did ++
    if c.store.isDisposed then [.did (.log (Report.dropped trigger))] else [.applied n r c.now]

theorem fold_eq_landed {trigger : Trigger} {n : Nat} {r : Fetched} :
    (c.take n).fold trigger n r = (c.landed n r, c.landing trigger n r) := by
  have h := StatusStore.modify_applied (s := c.store) (f := (·.fetched r ⟨c.now⟩))
  cases hd : c.store.isDisposed <;> simp_all [fold, landed, landing, take]

-- The refresh that a task calls off if it ends.
def Task.refresh? (t : Task) : Option Trigger :=
  match t.stage, t.work with
  | .fetching trigger _, _ => some trigger
  | .start, .pollLoop => some .mount
  | .start, .refresh trigger => some trigger
  | _, _ => none

-- What is told of a task of the controller that ends because it has been told to.
def parting (c : Controller) (t : Task) : List Effect :=
  (t.refresh?.map fun trigger => .log (Report.abandoned trigger)).toList ++
    if t.work = .pollLoop then [.log (Report.stopped c.settings)] else []

-- The moves of a task.
inductive Moved (c : Controller) (t : Task) : Controller → List Occurrence → Prop
  | waits (h : c.taken? t = none) (hs : t.stage ≠ .start)
      (live : t.work.isOwn = true → c.cancelled = false) :
      Moved c t c []
  -- The controller's own tasks end once they are told to.
  | ends (own : t.work.isOwn = true) (h : c.cancelled = true) :
      Moved c t (c.remove t.id) ((c.parting t).map .did)
  -- A poll loop that can set no timer breaks off before its first fetch.
  | breaks (hs : t.stage = .start) (hw : t.work = .pollLoop) (h : c.canStart = false) :
      Moved c t (c.remove t.id) []
  | mounts (live : c.cancelled = false) (hs : t.stage = .start) (hw : t.work = .pollLoop)
      (h : c.canStart = true) :
      Moved c t
        { c.place t.id (.fetching .mount c.nextCall) with
          timer := c.now + c.settings.pollInterval
          nextCall := c.nextCall + 1 }
        [.called c.nextCall (.fetch .mount) c.now]
  | ticks (live : c.cancelled = false) (hs : t.stage = .idle) (hw : t.work = .pollLoop)
      (h : c.timer ≤ c.now) :
      Moved c t
        { c.place t.id (.fetching .interval c.nextCall) with
          timer := nextTick c.timer c.settings.pollInterval c.now
          nextCall := c.nextCall + 1 }
        [.ticked c.timer (nextTick c.timer c.settings.pollInterval c.now) c.now,
          .called c.nextCall (.fetch .interval) c.now]
  | refreshes {trigger : Trigger} (live : c.cancelled = false) (hs : t.stage = .start)
      (hw : t.work = .refresh trigger) :
      Moved c t
        { c.place t.id (.fetching trigger c.nextCall) with nextCall := c.nextCall + 1 }
        [.called c.nextCall (.fetch trigger) c.now]
  | reloads (live : c.cancelled = false) (hs : t.stage = .start) (hw : t.work = .call .reload) :
      Moved c t
        { c.place t.id (.fetching .manual c.nextCall) with nextCall := c.nextCall + 1 }
        [.called c.nextCall (.fetch .manual) c.now]
  | resumes {trigger : Trigger} {n : Nat} {r : Fetched} (live : c.cancelled = false)
      (hs : t.stage = .fetching trigger n) (ha : c.answer? n = some (.fetched r))
      (hw : t.work = .pollLoop) :
      Moved c t ((c.landed n r).place t.id .idle) (c.landing trigger n r)
  | completes {trigger : Trigger} {n : Nat} {r : Fetched} (live : c.cancelled = false)
      (hs : t.stage = .fetching trigger n) (ha : c.answer? n = some (.fetched r))
      (hw : t.work = .refresh trigger) :
      Moved c t ((c.landed n r).remove t.id) (c.landing trigger n r)
  | reloaded {trigger : Trigger} {n : Nat} {r : Fetched} (live : c.cancelled = false)
      (hs : t.stage = .fetching trigger n) (ha : c.answer? n = some (.fetched r))
      (hw : t.work = .call .reload) :
      Moved c t ((c.landed n r).remove t.id) (c.landing trigger n r ++ [.finished t.id .reloaded])
  | creates (hs : t.stage = .start) (hw : t.work = .call .create) :
      Moved c t
        { c.place t.id (.creating c.nextCall) with nextCall := c.nextCall + 1 }
        [.called c.nextCall (.create (.ofType c.settings.jobType)) c.now]
  | finds (hs : t.stage = .start) (hw : t.work = .call .cancel) (h : c.store.chosen = none) :
      Moved c t (c.remove t.id) [.finished t.id (.cancelled none)]
  | marks {shown : Job} (hs : t.stage = .start) (hw : t.work = .call .cancel)
      (h : c.store.chosen = some shown) :
      Moved c t
        { c.place t.id (.cancelling c.nextCall shown) with
          store := (c.store.modify (·.cancelling)).1
          nextCall := c.nextCall + 1 }
        [.marked shown, .called c.nextCall (.cancel shown.id) c.now]
  | awaits (hs : t.stage = .start) (hw : t.work = .call .ready)
      (h : c.store.snapshot.loading = true) :
      Moved c t (c.place t.id .awaiting) []
  | informs (hw : t.work = .call .ready) (hs : t.stage = .start ∨ t.stage = .awaiting)
      (h : c.store.snapshot.loading = false) :
      Moved c t (c.remove t.id) [.finished t.id (.ready c.store.snapshot)]
  | created {n : Nat} {job : Job} (hs : t.stage = .creating n) (hw : t.work = .call .create)
      (ha : c.answer? n = some (.created (.ok job))) :
      Moved c t (((c.take n).spawn (.refresh .create)).remove t.id)
        ((Report.create c.analytics c.settings.jobType (.ok job)).map .did ++
          [.spawned .create, .finished t.id (.created job)])
  | refused {n : Nat} {e : ClientError} (hs : t.stage = .creating n) (hw : t.work = .call .create)
      (ha : c.answer? n = some (.created (.error e))) :
      Moved c t ((c.take n).remove t.id)
        ((Report.create c.analytics c.settings.jobType (.error e)).map .did ++
          [.finished t.id (.failed e)])
  | cancels {n : Nat} {shown : Job} {r : Except ClientError Unit}
      (hs : t.stage = .cancelling n shown) (hw : t.work = .call .cancel)
      (ha : c.answer? n = some (.cancelled r)) :
      Moved c t (((c.take n).spawn (.refresh .cancel)).remove t.id)
        ((Report.cancel c.analytics shown.id r).map .did ++
          [.spawned .cancel, .finished t.id (.cancelled (some shown))])

-- A refresh of the controller that is called off ends its task.
theorem moved_of_abandon {trigger : Trigger} (own : t.work.isOwn = true)
    (hr : t.refresh? = some trigger) (hc : c.cancelled = true) :
    Moved c t (c.abandonRefresh t trigger).1 (c.abandonRefresh t trigger).2 := by
  have h := Moved.ends own hc
  cases hw : t.work
  case pollLoop     => simpa [parting, hr, hw, abandonRefresh, leaveRefresh, hc, stopLoop] using h
  case refresh k    => simpa [parting, hr, hw, abandonRefresh, leaveRefresh] using h
  case call         => simp [hw] at own

namespace Sound

theorem isDisposed_eq (s : Sound c) : c.store.isDisposed = c.store.disposed := by
  simp [StatusStore.isDisposed, s.whole]

theorem state_eq (s : Sound c) : c.store.state = c.store.kept := by
  simp [StatusStore.state, s.whole]

-- The tasks are not told to end before the store is disposed.
theorem not_cancelled (s : Sound c) (h : c.store.isDisposed = false) : c.cancelled = false := by
  by_contra hc
  have hd := s.disposed (by simpa using hc)
  simp [s.isDisposed_eq, hd] at h

theorem live_of_call (s : Sound c) (ht : t ∈ c.tasks) (hw : t.work.isOwn = false) :
    c.store.isDisposed = false ∧ c.cancelled = false := by
  have hd : c.store.isDisposed = false := by
    by_contra h
    have hd : c.store.disposed = true := by simpa [s.isDisposed_eq] using h
    have := s.own hd t ht
    simp_all
  exact ⟨hd, s.not_cancelled hd⟩

theorem moved_of_start (s : Sound c) (ht : t ∈ c.tasks) (hs : t.stage = .start) :
    Moved c t (c.move t).1 (c.move t).2 := by
  simp only [move, hs]
  cases hw : t.work
  case pollLoop =>
    cases h : c.canStart
    case false => exact .breaks hs hw h
    case true  =>
      cases hc : c.cancelled
      case true  =>
        have hr : t.refresh? = some .mount := by simp only [Task.refresh?, hs, hw]
        exact moved_of_abandon (by simp [hw]) hr hc
      case false => simpa [beginRefresh, send, place, hc] using Moved.mounts hc hs hw h
  case refresh trigger =>
    cases hc : c.cancelled
    case true  =>
      have hr : t.refresh? = some trigger := by simp only [Task.refresh?, hs, hw]
      simp only [beginRefresh, hc, ↓reduceIte]
      exact moved_of_abandon (by simp [hw]) hr hc
    case false => simpa [beginRefresh, send, hc] using Moved.refreshes hc hs hw
  case call h =>
    have ⟨hd, hc⟩ := s.live_of_call ht (by simp [hw])
    simp only [hd, Bool.false_eq_true, ↓reduceIte]
    cases h
    case reload => simpa [beginCall, beginRefresh, send, hc] using Moved.reloads hc hs hw
    case create => exact .creates hs hw
    case cancel =>
      simp only [beginCall]
      split
      case h_1 h => exact .finds hs hw h
      case h_2 h => exact .marks hs hw h
    case ready =>
      simp only [beginCall]
      split
      case isTrue h  => exact .awaits hs hw h
      case isFalse h => exact .informs hw (.inl hs) (by simpa using h)

theorem moved_of_fetching {trigger : Trigger} {n : Nat} (s : Sound c) (ht : t ∈ c.tasks)
    (hs : t.stage = .fetching trigger n) : Moved c t (c.move t).1 (c.move t).2 := by
  simp only [move, hs]
  cases hc : c.cancelled
  case true =>
    have own : t.work.isOwn = true := by
      by_contra h
      have := (s.live_of_call ht (by simpa using h)).2
      simp_all
    have hr : t.refresh? = some trigger := by simp only [Task.refresh?, hs]
    exact moved_of_abandon own hr hc
  case false =>
    simp only [Bool.false_eq_true, ↓reduceIte]
    split
    case h_1 r ha =>
      simp only [fold_eq_landed]
      have hl : (c.landed n r).cancelled = false := hc
      have hr := hs ▸ s.reaches t ht
      cases hw : t.work
      case pollLoop       => simpa [leaveRefresh, hw, hl] using Moved.resumes hc hs ha hw
      case refresh u      =>
        obtain ⟨rfl, -⟩ : trigger = u ∧ _ := by simpa [hw] using hr
        simpa [leaveRefresh, hw] using Moved.completes hc hs ha hw
      case call h         =>
        cases h <;> simp [hw] at hr
        simpa [leaveRefresh, hw, finish] using Moved.reloaded hc hs ha hw
    case h_2 ha => exact .waits (by simp only [taken?, hs]) (by simp [hs]) fun _ => hc

theorem moved_of_creating {n : Nat} (s : Sound c) (ht : t ∈ c.tasks) (hs : t.stage = .creating n) :
    Moved c t (c.move t).1 (c.move t).2 := by
  have hw : t.work = .call .create := by
    have hr := hs ▸ s.reaches t ht
    cases hw : t.work <;> simp [hw] at hr ⊢
    case call h => cases h <;> simp at hr ⊢
  simp only [move, hs]
  split
  case h_1 r ha =>
    cases r
    case ok job  => exact .created hs hw ha
    case error e => exact .refused hs hw ha
  case h_2 ha => exact .waits (by simp only [taken?, hs]) (by simp [hs]) (by simp [hw])

theorem work_of_cancelling {n : Nat} {shown : Job} (s : Sound c) (ht : t ∈ c.tasks)
    (hs : t.stage = .cancelling n shown) : t.work = .call .cancel := by
  have hr := hs ▸ s.reaches t ht
  cases hw : t.work <;> simp [hw] at hr ⊢
  case call h => cases h <;> simp at hr ⊢

theorem moved_of_cancelling {n : Nat} {shown : Job} (s : Sound c) (ht : t ∈ c.tasks)
    (hs : t.stage = .cancelling n shown) : Moved c t (c.move t).1 (c.move t).2 := by
  have hw := s.work_of_cancelling ht hs
  simp only [move, hs]
  split
  case h_1 r ha => exact .cancels hs hw ha
  case h_2 ha   => exact .waits (by simp only [taken?, hs]) (by simp [hs]) (by simp [hw])

theorem moved_of_idle (s : Sound c) (ht : t ∈ c.tasks) (hs : t.stage = .idle) :
    Moved c t (c.move t).1 (c.move t).2 := by
  have hw : t.work = .pollLoop := by
    have hr := hs ▸ s.reaches t ht
    cases hw : t.work <;> simp [hw] at hr ⊢
  simp only [move, hs]
  cases hc : c.cancelled
  case true =>
    have hp : c.parting t = [.log (Report.stopped c.settings)] := by
      simp [parting, Task.refresh?, hs, hw]
    have h := Moved.ends (c := c) (t := t) (by simp [hw]) hc
    rwa [hp] at h
  case false =>
    by_cases h : c.timer ≤ c.now
    case pos => simpa [beginRefresh, send, place, hc, h] using Moved.ticks hc hs hw h
    case neg => simpa [h] using Moved.waits (by simp [taken?, hs]) (by simp [hs]) fun _ => hc

theorem moved_of_awaiting (s : Sound c) (ht : t ∈ c.tasks) (hs : t.stage = .awaiting) :
    Moved c t (c.move t).1 (c.move t).2 := by
  have hw : t.work = .call .ready := by
    have hr := hs ▸ s.reaches t ht
    cases hw : t.work <;> simp [hw] at hr ⊢
    case call h => cases h <;> simp at hr ⊢
  simp only [move, hs]
  split
  case isTrue h  => exact .waits (by simp [taken?, hs]) (by simp [hs]) (by simp [hw])
  case isFalse h => exact .informs hw (.inr hs) (by simpa using h)

theorem moved (s : Sound c) (ht : t ∈ c.tasks) : Moved c t (c.move t).1 (c.move t).2 := by
  cases hs : t.stage
  case start              => exact s.moved_of_start ht hs
  case fetching trigger n => exact s.moved_of_fetching ht hs
  case creating n         => exact s.moved_of_creating ht hs
  case cancelling n shown => exact s.moved_of_cancelling ht hs
  case idle               => exact s.moved_of_idle ht hs
  case awaiting           => exact s.moved_of_awaiting ht hs

end Sound

-- What an event does to a sound controller.
inductive Stepped (c : Controller) : Event → Controller → List Occurrence → Prop
  -- Nothing moves. A request of the user is refused only behind the disposal.
  | still {e : Event} (hr : ∀ h, e = .request h → c.store.disposed = true)
      (ht : ∀ id t, e = .run id → c.task? id ≠ some t) : Stepped c e c []
  | moved {t : Task} {d : Controller} {trace : List Occurrence} (ht : t ∈ c.tasks)
      (hf : c.task? t.id = some t) (m : Moved c t d trace) : Stepped c (.run t.id) d trace
  | answered {n : Nat} {a : Answer} (he : c.isExpected n = true) (ha : c.answer? n = none) :
      Stepped c (.answer n a) { c with answers := c.answers ++ [(n, a)] } []
  | elapsed {ms : Nat} : Stepped c (.elapse ms) { c with now := c.now + ms } []
  | requested {h : HandleCall} (live : c.store.disposed = false) :
      Stepped c (.request h) (c.spawn (.call h)) []
  | abandoned {t : Task} (ht : t ∈ c.tasks) (hw : t.work.isOwn = false) :
      Stepped c (.abandon t.id) (c.remove t.id) []
  | disposed (quiet : ∀ t ∈ c.tasks, t.work.isOwn = true) :
      Stepped c .dispose { c with store := { c.store with disposed := true } } []
  | told {announced : Bool} (hd : c.store.disposed = true) (live : c.cancelled = false) :
      Stepped c (.cancelTasks announced) { c with cancelled := true }
        (if announced then [.did (.log (Report.unmounted c.settings))] else [])

theorem task?_of_mem (h : (c.tasks.map (·.id)).Nodup) (ht : t ∈ c.tasks) :
    c.task? t.id = some t := by
  cases hf : c.task? t.id
  case none   => simpa using List.find?_eq_none.1 hf t ht
  case some u =>
    have hu : u.id = t.id := by simpa using List.find?_some hf
    rw [List.inj_on_of_nodup_map h (List.mem_of_find?_eq_some hf) ht hu]

theorem mem_of_task? {id : Nat} (h : c.task? id = some t) : t ∈ c.tasks ∧ t.id = id :=
  ⟨List.mem_of_find?_eq_some h, by simpa using List.find?_some h⟩

namespace Sound

theorem stepped (s : Sound c) (e : Event) : Stepped c e (c.step e).1 (c.step e).2 := by
  cases e
  case run id =>
    cases hf : c.task? id
    case none =>
      have ht : ∀ i t, Event.run id = .run i → c.task? i ≠ some t := by rintro _ _ ⟨⟩; simp [hf]
      simpa [step, hf] using Stepped.still (by simp) ht
    case some t =>
      obtain ⟨ht, rfl⟩ := mem_of_task? hf
      simpa [step, hf] using Stepped.moved ht hf (s.moved ht)
  case answer n a =>
    simp only [step]
    split
    case isTrue h =>
      simp only [Bool.and_eq_true, Option.isNone_iff_eq_none] at h
      exact .answered h.1 h.2
    case isFalse => exact .still (by simp) (by simp)
  case elapse ms => exact .elapsed
  case request h =>
    simp only [step, s.isDisposed_eq]
    cases hd : c.store.disposed
    case false => exact .requested hd
    case true  => exact .still (fun _ _ => hd) (by simp)
  case abandon id =>
    cases hf : c.task? id
    case none   => simpa [step, hf] using Stepped.still (e := .abandon id) (by simp) (by simp)
    case some t =>
      obtain ⟨ht, rfl⟩ := mem_of_task? hf
      cases hw : t.work.isOwn
      case false => simpa [step, hf, hw] using Stepped.abandoned ht hw
      case true  =>
        simpa [step, hf, hw] using Stepped.still (e := .abandon t.id) (by simp) (by simp)
  case dispose =>
    cases hb : c.isBusy
    case true  => simpa [step, hb] using Stepped.still (e := .dispose) (by simp) (by simp)
    case false =>
      have quiet : ∀ t ∈ c.tasks, t.work.isOwn = true := by simpa [isBusy] using hb
      simpa [step, hb, StatusStore.dispose, s.whole] using Stepped.disposed quiet
  case cancelTasks announced =>
    simp only [step, s.isDisposed_eq]
    split
    case isTrue h =>
      simp only [Bool.and_eq_true, Bool.not_eq_true'] at h
      exact .told h.1 h.2
    case isFalse => exact .still (by simp) (by simp)

end Sound

theorem mem_place {id : Nat} {stage : Stage} {u : Task} (h : u ∈ (c.place id stage).tasks) :
    u ∈ c.tasks ∨ ∃ t ∈ c.tasks, t.id = id ∧ u = { t with stage := stage } := by
  obtain ⟨t, ht, rfl⟩ := List.mem_map.1 h
  by_cases hi : t.id = id
  case pos => exact .inr ⟨t, ht, hi, by simp [hi]⟩
  case neg => exact .inl (by simpa [hi] using ht)

theorem mem_place_of_ne {id : Nat} {stage : Stage} {u : Task} (hu : u ∈ c.tasks) (h : u.id ≠ id) :
    u ∈ (c.place id stage).tasks :=
  List.mem_map.2 ⟨u, hu, if_neg h⟩

theorem mem_place_self {stage : Stage} (ht : t ∈ c.tasks) :
    { t with stage := stage } ∈ (c.place t.id stage).tasks :=
  List.mem_map.2 ⟨t, ht, if_pos rfl⟩

theorem mem_remove {id : Nat} {u : Task} : u ∈ (c.remove id).tasks ↔ u ∈ c.tasks ∧ u.id ≠ id := by
  simp [remove]

namespace Sound

-- Only the tasks and the store bear on soundness.
theorem frame (s : Sound c) (now timer nextCall : Nat) (answers : List (Nat × Answer)) :
    Sound { c with now := now, timer := timer, nextCall := nextCall, answers := answers } where
  reaches    := s.reaches
  nodup      := s.nodup
  fresh      := s.fresh
  whole      := s.whole
  published  := s.published
  configured := s.configured
  own        := s.own
  disposed   := s.disposed

theorem eq_of_id_eq (s : Sound c) {t u : Task} (ht : t ∈ c.tasks) (hu : u ∈ c.tasks)
    (h : t.id = u.id) : t = u :=
  List.inj_on_of_nodup_map s.nodup ht hu h

theorem place (s : Sound c) {stage : Stage} (ht : t ∈ c.tasks) (hw : t.work.Reaches stage) :
    Sound (c.place t.id stage) where
  reaches u hu := by
    rcases mem_place hu with hu | ⟨v, hv, hi, rfl⟩
    · exact s.reaches u hu
    · cases s.eq_of_id_eq hv ht hi
      exact hw
  nodup := by
    have h : (c.place t.id stage).tasks.map (·.id) = c.tasks.map (·.id) := by
      simp only [Controller.place, List.map_map]
      exact List.map_congr_left fun u _ => by simp only [Function.comp]; split <;> rfl
    exact h ▸ s.nodup
  fresh u hu := by
    rcases mem_place hu with hu | ⟨v, hv, hi, rfl⟩
    · exact s.fresh u hu
    · exact s.fresh v hv
  whole      := s.whole
  published  := s.published
  configured := s.configured
  own hd u hu := by
    rcases mem_place hu with hu | ⟨v, hv, hi, rfl⟩
    · exact s.own hd u hu
    · exact s.own hd v hv
  disposed   := s.disposed

theorem remove (s : Sound c) (id : Nat) : Sound (c.remove id) where
  reaches u hu := s.reaches u (mem_remove.1 hu).1
  nodup        := s.nodup.sublist (List.filter_sublist.map _)
  fresh u hu   := s.fresh u (mem_remove.1 hu).1
  whole        := s.whole
  published    := s.published
  configured   := s.configured
  own hd u hu  := s.own hd u (mem_remove.1 hu).1
  disposed     := s.disposed

theorem spawn (s : Sound c) (work : Work) (hr : work.Reaches .start)
    (hw : c.store.disposed = true → work.isOwn = true) : Sound (c.spawn work) where
  reaches u hu := by
    cases List.mem_append.1 hu
    case inl hu => exact s.reaches u hu
    case inr hu =>
      cases List.mem_singleton.1 hu
      exact hr
  nodup := by
    simp only [Controller.spawn, List.map_append, List.map_cons, List.map_nil]
    refine List.nodup_append.2 ⟨s.nodup, List.nodup_singleton _, fun i hi j hj => ?_⟩
    obtain ⟨u, hu, rfl⟩ := List.mem_map.1 hi
    cases List.mem_singleton.1 hj
    exact Nat.ne_of_lt (s.fresh u hu)
  fresh u hu := by
    cases List.mem_append.1 hu
    case inl hu => exact Nat.lt_succ_of_lt (s.fresh u hu)
    case inr hu =>
      cases List.mem_singleton.1 hu
      exact Nat.lt_succ_self _
  whole      := s.whole
  published  := s.published
  configured := s.configured
  own hd u hu := by
    cases List.mem_append.1 hu
    case inl hu => exact s.own hd u hu
    case inr hu =>
      cases List.mem_singleton.1 hu
      exact hw hd
  disposed   := s.disposed

theorem spawn_refresh (s : Sound c) {k : Trigger} (hk : k = .create ∨ k = .cancel) :
    Sound (c.spawn (.refresh k)) :=
  s.spawn (.refresh k) hk fun _ => rfl

theorem modify (s : Sound c) (f : StatusState → StatusState) :
    Sound { c with store := (c.store.modify f).1 } := by
  cases hd : c.store.isDisposed
  case true  => simpa [StatusStore.modify_of_isDisposed hd] using s
  case false =>
    simp only [StatusStore.modify_of_live hd]
    exact { s with published := rfl, whole := s.whole }

theorem take (s : Sound c) (n : Nat) : Sound (c.take n) :=
  s.frame c.now c.timer c.nextCall _

theorem landed (s : Sound c) (n : Nat) (r : Fetched) : Sound (c.landed n r) :=
  (s.modify _).frame c.now c.timer c.nextCall _

variable {d : Controller} {trace : List Occurrence} {e : Event}

theorem of_moved (s : Sound c) (ht : t ∈ c.tasks) (m : Moved c t d trace) : Sound d := by
  cases m
  case waits                 => exact s
  case ends | breaks         => exact s.remove t.id
  case mounts hw _           => exact (s.place ht (by simp [hw])).frame c.now _ _ _
  case ticks hw _            => exact (s.place ht (by simp [hw])).frame c.now _ _ _
  case refreshes hs hw       =>
    have hr := s.reaches t ht
    rw [hs, hw] at hr
    exact (s.place ht (by rw [hw]; exact ⟨rfl, hr⟩)).frame c.now c.timer _ _
  case reloads hw            => exact (s.place ht (by simp [hw])).frame c.now c.timer _ _
  case resumes hw            => exact (s.landed _ _).place ht (by simp [hw])
  case completes             => exact (s.landed _ _).remove t.id
  case reloaded              => exact (s.landed _ _).remove t.id
  case creates hw            => exact (s.place ht (by simp [hw])).frame c.now c.timer _ _
  case finds                 => exact s.remove t.id
  case marks hw _            =>
    exact ((s.modify _).place ht (by simp [hw])).frame c.now c.timer _ _
  case awaits hw _           => exact s.place ht (by simp [hw])
  case informs               => exact s.remove t.id
  case created n _ _ _ _     => exact ((s.take n).spawn_refresh (.inl rfl)).remove t.id
  case refused n _ _ _ _     => exact (s.take n).remove t.id
  case cancels n _ _ _ _ _   => exact ((s.take n).spawn_refresh (.inr rfl)).remove t.id

theorem of_stepped (s : Sound c) (h : Stepped c e d trace) : Sound d := by
  cases h
  case still            => exact s
  case moved ht _ m     => exact s.of_moved ht m
  case answered         => exact s.frame c.now c.timer c.nextCall _
  case elapsed          => exact s.frame _ c.timer c.nextCall c.answers
  case requested live   => exact s.spawn (.call _) trivial (by simp [live])
  case abandoned t _ _  => exact s.remove t.id
  case disposed quiet   =>
    exact { s with whole := s.whole, own := fun _ => quiet, disposed := fun _ => rfl }
  case told hd _        => exact { s with disposed := fun _ => hd }

end Sound

theorem sound_mount (settings : StatusSettings) (analytics : Analytics Unit) :
    Sound (mount settings analytics).1 where
  reaches    := by simp [mount]
  nodup      := by simp [mount]
  fresh      := by simp [mount]
  whole      := rfl
  published  := rfl
  configured := rfl
  own        := by simp [mount]
  disposed   := by simp [mount]

section

variable {d : Controller} {trace : List Occurrence} {e : Event}

theorem Moved.preserves_setup (m : Moved c t d trace) :
    d.settings = c.settings ∧ d.analytics = c.analytics := by
  cases m <;> exact ⟨rfl, rfl⟩

theorem Stepped.preserves_setup (h : Stepped c e d trace) :
    d.settings = c.settings ∧ d.analytics = c.analytics := by
  cases h
  case moved m => exact m.preserves_setup
  all_goals exact ⟨rfl, rfl⟩

end

-- A run step by step, all of its controllers sound.
inductive Steps : Controller → List Event → Controller → List Occurrence → Prop
  | refl {c : Controller} (s : Sound c) : Steps c [] c []
  | step {c d f : Controller} {e : Event} {es : List Event} {before after : List Occurrence}
      (s : Sound c) (h : Stepped c e d before) (tl : Steps d es f after) :
      Steps c (e :: es) f (before ++ after)

theorem Sound.steps (s : Sound c) (es : List Event) : Steps c es (c.run es).1 (c.run es).2 := by
  induction es generalizing c
  case nil          => exact .refl s
  case cons e es hi => exact .step s (s.stepped e) (hi (s.of_stepped (s.stepped e)))

namespace Steps

variable {d f : Controller} {es fs : List Event} {before after : List Occurrence}

theorem sound_dst (h : Steps c es d before) : Sound d := by
  induction h <;> assumption

theorem preserves_setup (h : Steps c es d before) :
    d.settings = c.settings ∧ d.analytics = c.analytics := by
  induction h
  case refl          => exact ⟨rfl, rfl⟩
  case step _ h _ hi =>
    have ⟨hs, ha⟩ := h.preserves_setup
    exact ⟨hi.1.trans hs, hi.2.trans ha⟩

end Steps

theorem run_append {es fs : List Event} :
    c.run (es ++ fs) = (((c.run es).1.run fs).1, (c.run es).2 ++ ((c.run es).1.run fs).2) := by
  induction es generalizing c
  case nil          => simp [run]
  case cons e es hi => simp [run, hi]

-- A controller from its mount on, with everything that has happened since.
def life (settings : StatusSettings) (analytics : Analytics Unit) (es : List Event) : Move :=
  let (c, mounted) := mount settings analytics
  let (d, trace) := c.run es
  (d, mounted ++ trace)

section

variable {settings : StatusSettings} {analytics : Analytics Unit} {es fs : List Event}

theorem life_steps : Steps (mount settings analytics).1 es (life settings analytics es).1
    ((mount settings analytics).1.run es).2 :=
  (sound_mount settings analytics).steps es

theorem sound_life : Sound (life settings analytics es).1 :=
  life_steps.sound_dst

theorem life_setup : (life settings analytics es).1.settings = settings ∧
    (life settings analytics es).1.analytics = analytics :=
  life_steps.preserves_setup

theorem life_append : life settings analytics (es ++ fs) =
    (((life settings analytics es).1.run fs).1,
      (life settings analytics es).2 ++ ((life settings analytics es).1.run fs).2) := by
  simp [life, run_append]

end

end Controller

end IndexWatch
