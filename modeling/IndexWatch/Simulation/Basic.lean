import IndexWatch.Simulation.Service

namespace IndexWatch

open Controller (Occurrence Event)
open Simulation (Service Kind)

-- A controller and its service in virtual time, on one thread: of the tasks that can move the one
-- that has waited longest moves first.
structure Simulation where
  controller : Controller
  service : Service
  queue : List Nat
  held : List (Nat × ServiceCall)

namespace Simulation

abbrev Move := Simulation × List Occurrence

def mount (settings : StatusSettings) (analytics : Analytics Unit) (service : Service) : Move :=
  let (c, trace) := Controller.mount settings analytics
  ({ controller := c, service := service, queue := [0], held := [] }, trace)

def wake (s : Simulation) (id : Nat) : Simulation :=
  if s.queue.contains id then s else { s with queue := s.queue ++ [id] }

def wakeAll (s : Simulation) (ids : List Nat) : Simulation := ids.foldl wake s

def awaiting (c : Controller) : List Nat :=
  (c.tasks.filter fun t => match t.stage with
    | .awaiting => true
    | _ => false).map (·.id)

-- Pass an event to the controller, and wake the tasks that it concerns: new ones, and those that
-- wait for a snapshot, if one is published.
def pass (s : Simulation) (e : Event) : Move :=
  let (c, trace) := s.controller.step e
  let new := (c.tasks.filter fun t => s.controller.nextTask ≤ t.id).map (·.id)
  let waiting := if c.store.publications = s.controller.store.publications then [] else awaiting c
  ({ s with controller := c }.wakeAll (new ++ waiting), trace)

-- Let the service deal with the requests in a trace: each is answered at once or held back.
def serve (s : Simulation) (trace : List Occurrence) : Simulation :=
  trace.foldl (fun s o =>
    match o with
    | .called number call _ =>
      if s.service.hold.contains (.of call) then { s with held := s.held ++ [(number, call)] }
      else
        let (service, a) := s.service.answer call
        ({ s with service := service }.pass (.answer number a)).1
    | _ => s) s

def settle : Nat → Simulation → Move
  | 0, s => (s, [])
  | bound + 1, s =>
    match s.queue with
    | [] => (s, [])
    | id :: rest =>
      if (s.controller.task? id).any s.controller.isRunnable then
        let (s, trace) := s.pass (.run id)
        let (s, later) := settle bound (s.serve trace)
        (s, trace ++ later)
      else settle bound { s with queue := rest }

-- Let everything move that can move at this time. A task moves a few times at most before it has to
-- wait, the poll loop most often: after a late tick it can be due again until it has caught up.
def settled (s : Simulation) : Move :=
  settle (32 * (s.controller.tasks.length + s.queue.length + 1)) s

def passSettled (s : Simulation) (e : Event) : Move :=
  let (s, trace) := s.pass e
  let (s, later) := s.settled
  (s, trace ++ later)

def poller? (s : Simulation) : Option Nat :=
  (s.controller.tasks.find? fun t => match t.stage with
    | .idle => true
    | _ => false).map (·.id)

def wakePoller (s : Simulation) : Simulation :=
  match s.poller? with
  | some id => if s.controller.timer ≤ s.controller.now then s.wake id else s
  | none => s

-- Let time pass until `target`, and let the poll loop move whenever it is due, at most `bound`
-- times.
def sleepUntil (target : Nat) : Nat → Simulation → Move
  | 0, s => s.passSettled (.elapse (target - s.controller.now))
  | bound + 1, s =>
    if s.poller?.isSome && s.controller.timer ≤ target then
      let (s, _) := s.pass (.elapse (s.controller.timer - s.controller.now))
      let (s, trace) := s.wakePoller.settled
      let (s, later) := sleepUntil target bound s
      (s, trace ++ later)
    else s.passSettled (.elapse (target - s.controller.now))

def sleep (s : Simulation) (ms : Nat) : Move :=
  let (s, trace) := s.settled
  let ticks := ms / max 1 s.controller.settings.pollInterval + 1
  let (s, later) := sleepUntil (s.controller.now + ms) ticks s
  (s, trace ++ later)

def jump (s : Simulation) (ms : Nat) : Move :=
  let (s, trace) := s.pass (.elapse ms)
  let (s, later) := s.wakePoller.settled
  (s, trace ++ later)

def release (s : Simulation) (number : Nat) : Move × Bool :=
  match s.held.lookup number, s.controller.tasks.find? (·.stage.call? = some number) with
  | some call, some t =>
    let (service, a) := s.service.answer call
    let s := { s with service := service, held := s.held.filter (·.1 ≠ number) }
    let (s, trace) := s.pass (.answer number a)
    let (s, later) := (s.wake t.id).settled
    ((s, trace ++ later), true)
  | _, _ => ((s, []), false)

def unmount (s : Simulation) (announced : Bool) : Move :=
  let (s, first) := s.pass .dispose
  let (s, second) := s.pass (.cancelTasks announced)
  let (s, later) := (s.wakeAll (s.controller.tasks.map (·.id))).settled
  (s, first ++ second ++ later)

end Simulation

end IndexWatch
