import IndexWatch.Status.Controller

namespace IndexWatch

namespace Analytics

variable {Port : Type} {a b : Analytics Port}

theorem events_eq (hp : a.port.isSome = b.port.isSome) (hk : a.key.isSome = b.key.isSome) :
    a.events = b.events := by
  funext c
  rw [events, events, hp, hk]

end Analytics

namespace Report

variable {Port : Type} {a b : Analytics Port}

theorem create_congr (h : a.events = b.events) : create a = create b := by
  funext type r
  cases r <;> simp only [create, usage, h]

theorem cancel_congr (h : a.events = b.events) : cancel a = cancel b := by
  funext id r
  cases r <;> simp only [cancel, usage, h]

end Report

namespace Controller

-- Two controllers that differ only in where their usage events go.
def Alike (c d : Controller) : Prop :=
  ∃ a : Analytics Unit, c.analytics.events = a.events ∧ d = { c with analytics := a }

-- Two moves with the same trace, to controllers that are alike.
structure Move.Alike (m n : Move) : Prop where
  controller : m.1.Alike n.1
  trace      : m.2 = n.2

theorem Move.Alike.ite {p : Prop} [Decidable p] {x y x' y' : Move} (hx : x.Alike x')
    (hy : y.Alike y') : Move.Alike (if p then x else y) (if p then x' else y') := by
  split
  case isTrue  => exact hx
  case isFalse => exact hy

theorem Move.Alike.cons {m n : Move} (h : m.Alike n) (o : Occurrence) :
    Move.Alike (m.1, o :: m.2) (n.1, o :: n.2) :=
  ⟨h.controller, congrArg (o :: ·) h.trace⟩

-- Two moves, each with the one before it.
theorem Move.Alike.append {m n x y : Move} (h : x.Alike y) (before : m.2 = n.2) :
    Move.Alike (x.1, m.2 ++ x.2) (y.1, n.2 ++ y.2) :=
  ⟨h.controller, by rw [before, h.trace]⟩

-- Two mounts are told apart by nothing.
theorem alike_mount {settings : StatusSettings} {a b : Analytics Unit} (h : a.events = b.events) :
    (mount settings a).Alike (mount settings b) :=
  ⟨⟨b, h, rfl⟩, rfl⟩

namespace Alike

variable {c d : Controller} {t : Task} {e : Event} {es : List Event} {id n : Nat}

theorem settings_eq (h : c.Alike d) : c.settings = d.settings := by
  obtain ⟨a, _, rfl⟩ := h
  rfl

theorem tasks_eq (h : c.Alike d) : c.tasks = d.tasks := by
  obtain ⟨a, _, rfl⟩ := h
  rfl

theorem nextTask_eq (h : c.Alike d) : c.nextTask = d.nextTask := by
  obtain ⟨a, _, rfl⟩ := h
  rfl

theorem task?_eq (h : c.Alike d) : c.task? id = d.task? id := by
  obtain ⟨a, _, rfl⟩ := h
  rfl

theorem answer?_eq (h : c.Alike d) : c.answer? n = d.answer? n := by
  obtain ⟨a, _, rfl⟩ := h
  rfl

theorem leaveRefresh (h : c.Alike d) : (c.leaveRefresh t).Alike (d.leaveRefresh t) := by
  obtain ⟨a, ha, rfl⟩ := h
  simp only [Controller.leaveRefresh]
  cases t.work
  case pollLoop => exact .ite ⟨⟨a, ha, rfl⟩, rfl⟩ ⟨⟨a, ha, rfl⟩, rfl⟩
  case refresh  => exact ⟨⟨a, ha, rfl⟩, rfl⟩
  case call h   => cases h <;> exact ⟨⟨a, ha, rfl⟩, rfl⟩

theorem abandonRefresh (h : c.Alike d) (k : Trigger) :
    (c.abandonRefresh t k).Alike (d.abandonRefresh t k) :=
  h.leaveRefresh.cons _

theorem beginRefresh {k : Trigger} (h : c.Alike d) :
    (c.beginRefresh t k).Alike (d.beginRefresh t k) := by
  have hl := h.abandonRefresh (t := t) k
  obtain ⟨a, ha, rfl⟩ := h
  exact .ite hl ⟨⟨a, ha, rfl⟩, rfl⟩

theorem take (h : c.Alike d) : (c.take n).Alike (d.take n) := by
  obtain ⟨a, ha, rfl⟩ := h
  exact ⟨a, ha, rfl⟩

theorem timed (h : c.Alike d) (next : Nat) :
    Alike { c with timer := next } { d with timer := next } := by
  obtain ⟨a, ha, rfl⟩ := h
  exact ⟨a, ha, rfl⟩

theorem fold {k : Trigger} {r : Fetched} (h : c.Alike d) :
    (c.fold k n r).Alike (d.fold k n r) := by
  obtain ⟨a, ha, rfl⟩ := h
  exact ⟨⟨a, ha, rfl⟩, rfl⟩

theorem beginCall {k : HandleCall} (h : c.Alike d) (id : Nat) :
    (c.beginCall id t k).Alike (d.beginCall id t k) := by
  have hr := h.beginRefresh (t := t) (k := .manual)
  obtain ⟨a, ha, rfl⟩ := h
  cases k
  case reload => exact hr
  case create => exact ⟨⟨a, ha, rfl⟩, rfl⟩
  case cancel =>
    simp only [Controller.beginCall]
    cases c.store.chosen <;> exact ⟨⟨a, ha, rfl⟩, rfl⟩
  case ready => exact .ite ⟨⟨a, ha, rfl⟩, rfl⟩ ⟨⟨a, ha, rfl⟩, rfl⟩

-- Usage is reported only where an action of the user is answered, here and for a cancel.
theorem endCreate {r : Except ClientError Job} (h : c.Alike d) :
    (c.endCreate id r).Alike (d.endCreate id r) := by
  obtain ⟨a, ha, rfl⟩ := h
  simp only [Controller.endCreate, Report.create_congr ha]
  cases r <;> exact ⟨⟨a, ha, rfl⟩, rfl⟩

theorem endCancel {shown : Job} {r : Except ClientError Unit} (h : c.Alike d) :
    (c.endCancel id shown r).Alike (d.endCancel id shown r) := by
  obtain ⟨a, ha, rfl⟩ := h
  simp only [Controller.endCancel, Report.cancel_congr ha]
  exact ⟨⟨a, ha, rfl⟩, rfl⟩

theorem move_start (h : c.Alike d) (hs : t.stage = .start) : (c.move t).Alike (d.move t) := by
  simp only [Controller.move, hs]
  cases t.work
  case pollLoop =>
    have hb := (h.timed (c.now + c.settings.pollInterval)).beginRefresh (t := t) (k := .mount)
    have ha := h.abandonRefresh (t := t) .mount
    obtain ⟨a, he, rfl⟩ := h
    exact .ite ⟨⟨a, he, rfl⟩, rfl⟩ (.ite ha hb)
  case refresh k => exact h.beginRefresh
  case call k =>
    have hb := h.beginCall t.id (t := t) (k := k)
    obtain ⟨a, ha, rfl⟩ := h
    exact .ite ⟨⟨a, ha, rfl⟩, rfl⟩ hb

theorem move_fetching {k : Trigger} (h : c.Alike d) (hs : t.stage = .fetching k n) :
    (c.move t).Alike (d.move t) := by
  have hl := h.abandonRefresh (t := t) k
  have hc : c.cancelled = d.cancelled := by
    obtain ⟨a, _, rfl⟩ := h
    rfl
  simp only [Controller.move, hs, hc, h.answer?_eq]
  refine .ite hl ?_
  split
  case h_1 r _ =>
    have hf := (h.take (n := n)).fold (n := n) (k := k) (r := r)
    exact hf.controller.leaveRefresh.append hf.trace
  case h_2 => exact ⟨h, rfl⟩

theorem move (h : c.Alike d) : (c.move t).Alike (d.move t) := by
  cases hs : t.stage
  case start        => exact h.move_start hs
  case fetching k n => exact h.move_fetching hs
  case creating n =>
    simp only [Controller.move, hs, h.answer?_eq]
    split
    case h_1 => exact h.take.endCreate
    case h_2 => exact ⟨h, rfl⟩
  case cancelling n shown =>
    simp only [Controller.move, hs, h.answer?_eq]
    split
    case h_1 => exact h.take.endCancel
    case h_2 => exact ⟨h, rfl⟩
  case idle =>
    have hb := (h.timed (nextTick c.timer c.settings.pollInterval c.now)).beginRefresh
      (t := t) (k := .interval)
    simp only [Controller.move, hs]
    obtain ⟨a, ha, rfl⟩ := h
    exact .ite ⟨⟨a, ha, rfl⟩, rfl⟩ (.ite (hb.cons _) ⟨⟨a, ha, rfl⟩, rfl⟩)
  case awaiting =>
    simp only [Controller.move, hs]
    obtain ⟨a, ha, rfl⟩ := h
    exact .ite ⟨⟨a, ha, rfl⟩, rfl⟩ ⟨⟨a, ha, rfl⟩, rfl⟩

theorem step (h : c.Alike d) : (c.step e).Alike (d.step e) := by
  cases e
  case run id =>
    simp only [Controller.step, h.task?_eq]
    cases d.task? id
    case none   => exact ⟨h, rfl⟩
    case some t => exact h.move
  case abandon id =>
    simp only [Controller.step, h.task?_eq]
    cases d.task? id
    case none   => exact ⟨h, rfl⟩
    case some t =>
      obtain ⟨a, ha, rfl⟩ := h
      exact .ite ⟨⟨a, ha, rfl⟩, rfl⟩ ⟨⟨a, ha, rfl⟩, rfl⟩
  case elapse ms =>
    obtain ⟨a, ha, rfl⟩ := h
    exact ⟨⟨a, ha, rfl⟩, rfl⟩
  all_goals
    obtain ⟨a, ha, rfl⟩ := h
    exact .ite ⟨⟨a, ha, rfl⟩, rfl⟩ ⟨⟨a, ha, rfl⟩, rfl⟩

theorem run (h : c.Alike d) : (c.run es).Alike (d.run es) := by
  induction es generalizing c d
  case nil => exact ⟨h, rfl⟩
  case cons e es hi => exact (hi h.step.controller).append h.step.trace

theorem unmount (h : c.Alike d) (announced : Bool) :
    (c.unmount announced).Alike (d.unmount announced) := by
  rw [Controller.unmount, Controller.unmount, h.tasks_eq]
  exact h.run

end Alike

end Controller

end IndexWatch
