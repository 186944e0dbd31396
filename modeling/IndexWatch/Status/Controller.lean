import IndexWatch.Status.Report

namespace IndexWatch

inductive ServiceCall where
  | fetch (t : Trigger)
  | create (job : NewJob)
  | cancel (id : String)
  deriving DecidableEq

inductive Answer where
  | fetched (r : Fetched)
  | created (r : Except ClientError Job)
  | cancelled (r : Except ClientError Unit)

inductive HandleCall where
  | reload
  | create
  | cancel
  | ready
  deriving DecidableEq, Repr

inductive CallResult where
  | reloaded
  | created (job : Job)
  -- The job that was shown, and for which a cancel has been requested, if any was shown.
  | cancelled (shown : Option Job)
  | ready (s : StatusSnapshot)
  | failed (e : ClientError)

namespace Controller

inductive Work where
  | pollLoop
  | refresh (t : Trigger)
  | call (h : HandleCall)
  deriving DecidableEq

def Work.isOwn : Work → Bool
  | .call _ => false
  | _ => true

inductive Stage where
  | start
  | fetching (t : Trigger) (call : Nat)
  | creating (call : Nat)
  | cancelling (call : Nat) (shown : Job)
  | idle
  | awaiting

def Stage.call? : Stage → Option Nat
  | .fetching _ n => some n
  | .creating n => some n
  | .cancelling n _ => some n
  | _ => none

structure Task where
  id : Nat
  work : Work
  stage : Stage

-- What happens in a run. Requests are numbered from one.
inductive Occurrence where
  | called (number : Nat) (call : ServiceCall) (time : Nat)
  | applied (number : Nat) (r : Fetched) (time : Nat)
  | ticked (deadline next time : Nat)
  | marked (shown : Job)
  | spawned (t : Trigger)
  | did (e : Effect)
  | finished (task : Nat) (r : CallResult)

inductive Event where
  | run (task : Nat)
  | answer (call : Nat) (a : Answer)
  | elapse (ms : Nat)
  | request (h : HandleCall)
  -- The user gives up a call that is still running.
  | abandon (task : Nat)
  -- The store is disposed. This takes place only when no call of the user is running.
  | dispose
  -- The tasks are told to end, behind the disposal of the store.
  | cancelTasks (announced : Bool)

end Controller

open Controller in
-- A controller in the course of its life. Times are in milliseconds.
structure Controller where
  settings : StatusSettings
  analytics : Analytics Unit
  store : StatusStore
  cancelled : Bool
  now : Nat
  timer : Nat
  tasks : List Task
  nextTask : Nat
  nextCall : Nat
  -- Answers that no task has taken up yet.
  answers : List (Nat × Answer)

namespace Controller

abbrev Move := Controller × List Occurrence

def mount (settings : StatusSettings) (analytics : Analytics Unit) : Move :=
  ({ settings := settings
     analytics := analytics
     store := .new settings.isConfigured
     cancelled := false
     now := 0
     timer := 0
     tasks := [⟨0, .pollLoop, .start⟩]
     nextTask := 1
     nextCall := 1
     answers := [] },
    [.did (.log (Report.mounted settings))])

def task? (c : Controller) (id : Nat) : Option Task := c.tasks.find? (·.id = id)

def remove (c : Controller) (id : Nat) : Controller :=
  { c with tasks := c.tasks.filter (·.id ≠ id) }

def place (c : Controller) (id : Nat) (stage : Stage) : Controller :=
  { c with tasks := c.tasks.map fun t => if t.id = id then { t with stage := stage } else t }

def spawn (c : Controller) (work : Work) : Controller :=
  { c with tasks := c.tasks ++ [⟨c.nextTask, work, .start⟩], nextTask := c.nextTask + 1 }

def isBusy (c : Controller) : Bool := c.tasks.any fun t => !t.work.isOwn

def finish (c : Controller) (id : Nat) (r : CallResult) : Move := (c.remove id, [.finished id r])

def send (c : Controller) (id : Nat) (call : ServiceCall) (stage : Nat → Stage) : Move :=
  ({ c.place id (stage c.nextCall) with nextCall := c.nextCall + 1 },
    [.called c.nextCall call c.now])

def tolerance : Nat := 5

-- When the poll loop is due next after a tick. A tick that comes too late moves the schedule.
def nextTick (deadline period now : Nat) : Nat :=
  if deadline + tolerance < now then now + period else deadline + period

-- Points of time behind this one cannot be represented.
def endOfTime : Nat := 0x8000000000000000 * 1000

-- Whether the poll loop can set its timer. Without a period, or with one that leads behind the end
-- of time, it breaks off at its start.
def canStart (c : Controller) : Bool :=
  c.settings.pollInterval != 0 && c.now + c.settings.pollInterval < endOfTime

def stopLoop (c : Controller) (id : Nat) : Move :=
  (c.remove id, [.did (.log (Report.stopped c.settings))])

def leaveRefresh (c : Controller) (t : Task) : Move :=
  match t.work with
  | .pollLoop => if c.cancelled then c.stopLoop t.id else (c.place t.id .idle, [])
  | .call .reload => c.finish t.id .reloaded
  | _ => (c.remove t.id, [])

def abandonRefresh (c : Controller) (t : Task) (trigger : Trigger) : Move :=
  let (c, left) := c.leaveRefresh t
  (c, .did (.log (Report.abandoned trigger)) :: left)

def beginRefresh (c : Controller) (t : Task) (trigger : Trigger) : Move :=
  if c.cancelled then c.abandonRefresh t trigger
  else c.send t.id (.fetch trigger) (.fetching trigger)

def fold (c : Controller) (trigger : Trigger) (number : Nat) (r : Fetched) : Move :=
  let (store, applied) := c.store.modify fun s => s.fetched r ⟨c.now⟩
  ({ c with store := store },
    (Report.refresh c.settings trigger r).map .did ++
      if applied then [.applied number r c.now] else [.did (.log (Report.dropped trigger))])

def take (c : Controller) (number : Nat) : Controller :=
  { c with answers := c.answers.filter (·.1 ≠ number) }

def answer? (c : Controller) (number : Nat) : Option Answer := c.answers.lookup number

def beginCall (c : Controller) (id : Nat) (t : Task) : HandleCall → Move
  | .reload => c.beginRefresh t .manual
  | .create =>
    c.send id (.create (.ofType c.settings.jobType)) .creating
  | .cancel =>
    match c.store.chosen with
    | none => c.finish id (.cancelled none)
    | some shown =>
      let c := { c with store := (c.store.modify (·.cancelling)).1 }
      let (c, sent) := c.send id (.cancel shown.id) (.cancelling · shown)
      (c, .marked shown :: sent)
  | .ready =>
    if c.store.snapshot.loading then (c.place id .awaiting, [])
    else c.finish id (.ready c.store.snapshot)

-- The answer to a request for a new job. Where there is one it is followed by a refresh.
def endCreate (c : Controller) (id : Nat) (r : Except ClientError Job) : Move :=
  let report := (Report.create c.analytics c.settings.jobType r).map .did
  match r with
  | .ok job =>
    let (d, ended) := (c.spawn (.refresh .create)).finish id (.created job)
    (d, report ++ .spawned .create :: ended)
  | .error e =>
    let (d, ended) := c.finish id (.failed e)
    (d, report ++ ended)

-- The answer to a request to cancel a job. Whatever it is, it is followed by a refresh.
def endCancel (c : Controller) (id : Nat) (shown : Job) (r : Except ClientError Unit) : Move :=
  let (d, ended) := (c.spawn (.refresh .cancel)).finish id (.cancelled shown)
  (d, (Report.cancel c.analytics shown.id r).map .did ++ .spawned .cancel :: ended)

-- Let a task move up to the point where it has to wait. A task that still has to wait stays.
def move (c : Controller) (t : Task) : Move :=
  match t.stage with
  | .start =>
    match t.work with
    | .pollLoop =>
      if !c.canStart then (c.remove t.id, [])
      else if c.cancelled then c.abandonRefresh t .mount
      else { c with timer := c.now + c.settings.pollInterval }.beginRefresh t .mount
    | .refresh trigger => c.beginRefresh t trigger
    | .call h =>
      if c.store.isDisposed then c.finish t.id (.failed .disposed) else c.beginCall t.id t h
  | .fetching trigger n =>
    if c.cancelled then c.abandonRefresh t trigger
    else match c.answer? n with
      | some (.fetched r) =>
        let (c, folded) := (c.take n).fold trigger n r
        let (c, left) := c.leaveRefresh t
        (c, folded ++ left)
      | _ => (c, [])
  | .creating n =>
    match c.answer? n with
    | some (.created r) => (c.take n).endCreate t.id r
    | _ => (c, [])
  | .cancelling n shown =>
    match c.answer? n with
    | some (.cancelled r) => (c.take n).endCancel t.id shown r
    | _ => (c, [])
  | .idle =>
    if c.cancelled then c.stopLoop t.id
    else if c.timer ≤ c.now then
      let next := nextTick c.timer c.settings.pollInterval c.now
      let (d, sent) := { c with timer := next }.beginRefresh t .interval
      (d, .ticked c.timer next c.now :: sent)
    else (c, [])
  | .awaiting =>
    if c.store.snapshot.loading then (c, [])
    else c.finish t.id (.ready c.store.snapshot)

def isRunnable (c : Controller) (t : Task) : Bool :=
  match t.stage with
  | .start => true
  | .fetching _ n => c.cancelled || (c.answer? n).isSome
  | .creating n => (c.answer? n).isSome
  | .cancelling n _ => (c.answer? n).isSome
  | .idle => c.cancelled || c.timer ≤ c.now
  | .awaiting => !c.store.snapshot.loading

def isExpected (c : Controller) (number : Nat) : Bool :=
  c.tasks.any fun t => t.stage.call? == some number

def step (c : Controller) : Event → Move
  | .run id =>
    match c.task? id with
    | some t => c.move t
    | none => (c, [])
  | .answer number a =>
    if c.isExpected number && (c.answer? number).isNone then
      ({ c with answers := c.answers ++ [(number, a)] }, [])
    else (c, [])
  | .elapse ms => ({ c with now := c.now + ms }, [])
  | .request h => if c.store.isDisposed then (c, []) else (c.spawn (.call h), [])
  | .abandon id =>
    match c.task? id with
    | some t => if t.work.isOwn then (c, []) else (c.remove id, [])
    | none => (c, [])
  | .dispose => if c.isBusy then (c, []) else ({ c with store := c.store.dispose.1 }, [])
  | .cancelTasks announced =>
    if c.store.isDisposed && !c.cancelled then
      ({ c with cancelled := true },
        if announced then [.did (.log (Report.unmounted c.settings))] else [])
    else (c, [])

def run (c : Controller) : List Event → Move
  | [] => (c, [])
  | e :: rest =>
    let (d, before) := c.step e
    let (d, behind) := d.run rest
    (d, before ++ behind)

def unmount (c : Controller) (announced : Bool) : Move :=
  c.run (.dispose :: .cancelTasks announced :: c.tasks.map fun t => .run t.id)

end Controller

end IndexWatch
