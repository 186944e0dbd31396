import IndexWatch.Proofs.Status.History
import IndexWatch.Simulation.Basic

namespace IndexWatch.Simulation

open Controller (Occurrence Event)

variable {s t : Simulation} {trace later : List Occurrence} {e : Event}

-- A move of a simulation, as far as it concerns the controller, is a run of it.
def Runs (s t : Simulation) (trace : List Occurrence) : Prop :=
  ∃ es, s.controller.run es = (t.controller, trace)

namespace Runs

variable {u : Simulation}

theorem of_controller_eq (h : t.controller = s.controller) : Runs s t [] :=
  ⟨[], by rw [h]; rfl⟩

theorem trans (h : Runs s t trace) (h' : Runs t u later) : Runs s u (trace ++ later) := by
  obtain ⟨es, he⟩ := h
  obtain ⟨fs, hf⟩ := h'
  exact ⟨es ++ fs, by rw [Controller.run_append, he, hf]⟩

-- The queue of tasks, the service and the requests held back are no part of the controller.
theorem ends (h : Runs s t trace) (hu : u.controller = t.controller) : Runs s u trace := by
  obtain ⟨es, he⟩ := h
  exact ⟨es, by rw [he, hu]⟩

theorem begins (h : Runs s t trace) (hu : u.controller = s.controller) : Runs u t trace := by
  obtain ⟨es, he⟩ := h
  exact ⟨es, by rw [hu, he]⟩

end Runs

@[simp]
theorem wake_controller {id : Nat} : (s.wake id).controller = s.controller := by
  rw [wake]
  split <;> rfl

@[simp]
theorem wakeAll_controller {ids : List Nat} : (s.wakeAll ids).controller = s.controller := by
  induction ids generalizing s
  case nil            => rfl
  case cons id ids hi => exact hi.trans wake_controller

@[simp]
theorem wakePoller_controller : s.wakePoller.controller = s.controller := by
  rw [wakePoller]
  split
  case h_1 => split <;> simp
  case h_2 => rfl

theorem runs_pass : Runs s (s.pass e).1 (s.pass e).2 :=
  ⟨[e], by simp [pass, Controller.run]⟩

-- Nothing is told of an answer until it is taken up, and nothing of the passing of time.
theorem runs_answer {number : Nat} {a : Answer} :
    Runs s (s.pass (.answer number a)).1 [] := by
  have h : (s.pass (.answer number a)).2 = [] := by
    simp only [pass, Controller.step]
    split <;> rfl
  exact h ▸ runs_pass

theorem runs_elapse {ms : Nat} : Runs s (s.pass (.elapse ms)).1 [] :=
  runs_pass

theorem runs_serve : Runs s (s.serve trace) [] := by
  induction trace generalizing s
  case nil => exact .of_controller_eq rfl
  case cons o trace hi =>
    have first : Runs s (s.serve [o]) [] := by
      cases o
      case called number call time =>
        simp only [serve, List.foldl_cons, List.foldl_nil]
        split
        case isTrue  => exact .of_controller_eq rfl
        case isFalse => exact runs_answer.begins rfl
      all_goals exact .of_controller_eq rfl
    exact first.trans hi

theorem runs_settle {bound : Nat} : Runs s (settle bound s).1 (settle bound s).2 := by
  induction bound generalizing s
  case zero => exact .of_controller_eq rfl
  case succ bound hi =>
    rw [settle]
    split
    case h_1 => exact .of_controller_eq rfl
    case h_2 id rest _ =>
      split
      case isTrue  => exact runs_pass.trans (runs_serve.trans hi)
      case isFalse => exact hi.begins rfl

theorem runs_settled : Runs s s.settled.1 s.settled.2 :=
  runs_settle

theorem runs_passSettled : Runs s (s.passSettled e).1 (s.passSettled e).2 := by
  simp only [passSettled]
  exact runs_pass.trans runs_settled

theorem runs_wakePoller_settled :
    Runs s s.wakePoller.settled.1 s.wakePoller.settled.2 :=
  runs_settled.begins wakePoller_controller.symm

theorem runs_sleepUntil {target bound : Nat} :
    Runs s (sleepUntil target bound s).1 (sleepUntil target bound s).2 := by
  induction bound generalizing s
  case zero => exact runs_passSettled
  case succ bound hi =>
    rw [sleepUntil]
    split
    case isTrue  => exact runs_elapse.trans (runs_wakePoller_settled.trans hi)
    case isFalse => exact runs_passSettled

theorem runs_sleep {ms : Nat} : Runs s (s.sleep ms).1 (s.sleep ms).2 := by
  simp only [sleep]
  exact runs_settled.trans runs_sleepUntil

theorem runs_jump {ms : Nat} : Runs s (s.jump ms).1 (s.jump ms).2 := by
  simp only [jump]
  exact runs_pass.trans runs_wakePoller_settled

theorem runs_release {number : Nat} : Runs s (s.release number).1.1 (s.release number).1.2 := by
  cases hc : s.held.lookup number
  case none => simpa only [release, hc] using Runs.of_controller_eq rfl
  case some call =>
    cases ht : s.controller.tasks.find? (·.stage.call? = some number)
    case none   => simpa only [release, hc, ht] using Runs.of_controller_eq rfl
    case some t =>
      let released : Simulation := { s with
        service := (s.service.answer call).1
        held    := s.held.filter (·.1 ≠ number) }
      have passed (e : Event) : Runs s (released.pass e).1 (released.pass e).2 :=
        runs_pass.begins rfl
      simp only [release, hc, ht]
      exact (passed _).trans (runs_settled.begins wake_controller.symm)

theorem runs_unmount {announced : Bool} :
    Runs s (s.unmount announced).1 (s.unmount announced).2 := by
  simp only [unmount]
  exact (runs_pass.trans runs_pass).trans (runs_settled.begins wakeAll_controller.symm)

-- What a simulation can come to from the mount of its controller on. In between its service can
-- change in any way.
inductive Reached (settings : StatusSettings) (analytics : Analytics Unit) :
    Simulation → List Occurrence → Prop
  | mounted {service : Service} :
      Reached settings analytics (mount settings analytics service).1
        (mount settings analytics service).2
  | changed {s : Simulation} {trace : List Occurrence} {service : Service}
      (h : Reached settings analytics s trace) :
      Reached settings analytics { s with service := service } trace
  | moved {s t : Simulation} {trace later : List Occurrence} (h : Reached settings analytics s trace)
      (hr : Runs s t later) : Reached settings analytics t (trace ++ later)

section

variable {settings : StatusSettings} {analytics : Analytics Unit}

-- A simulation shows nothing but lives of a controller.
theorem life_of_reached (h : Reached settings analytics s trace) :
    ∃ es, Controller.life settings analytics es = (s.controller, trace) := by
  induction h
  case mounted      => exact ⟨[], rfl⟩
  case changed hi   => exact hi
  case moved hr hi  =>
    obtain ⟨es, he⟩ := hi
    obtain ⟨fs, hf⟩ := hr
    exact ⟨es ++ fs, by rw [Controller.life_append, he, hf]⟩

-- So its state is told by its trace, too.
theorem recounts_of_reached (h : Reached settings analytics s trace) :
    Controller.Recounts trace s.controller.store.state := by
  obtain ⟨es, he⟩ := life_of_reached h
  have hr := @Controller.life_recounts es settings analytics
  rwa [he] at hr

end

end IndexWatch.Simulation
