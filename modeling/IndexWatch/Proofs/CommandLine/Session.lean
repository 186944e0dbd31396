import IndexWatch.CommandLine.Run
import IndexWatch.Proofs.Status.Step

namespace IndexWatch

namespace Controller

variable {c : Controller} {work : Work} {stage : Stage} {n : Nat}

-- A controller behind the first refresh of its poll loop, with what this has fetched.
def firstRefreshed (settings : StatusSettings) (analytics : Analytics Unit) (r : Fetched) :
    Controller :=
  { (mount settings analytics).1 with
    store := ((mount settings analytics).1.store.modify (·.fetched r ⟨0⟩)).1
    timer := settings.pollInterval
    tasks := [⟨0, .pollLoop, .idle⟩]
    nextCall := 2 }

section

variable {settings : StatusSettings} {analytics : Analytics Unit} {r : Fetched}

theorem sound_firstRefreshed : Sound (firstRefreshed settings analytics r) where
  reaches    := List.forall_mem_singleton.2 trivial
  nodup      := List.nodup_singleton _
  fresh      := List.forall_mem_singleton.2 Nat.one_pos
  whole      := rfl
  published  := rfl
  configured := rfl
  own        := nofun
  disposed   := nofun

theorem step_mount (h : (mount settings analytics).1.canStart) :
    (mount settings analytics).1.step (.run 0)
      = ({ (mount settings analytics).1 with
          timer := settings.pollInterval
          tasks := [⟨0, .pollLoop, .fetching .mount 1⟩]
          nextCall := 2 },
        [.called 1 (.fetch .mount) 0]) := by
  let started : Move := { (mount settings analytics).1 with
    timer := 0 + settings.pollInterval }.beginRefresh ⟨0, .pollLoop, .start⟩ .mount
  have hstep : (mount settings analytics).1.step (.run 0)
      = if !(mount settings analytics).1.canStart then ((mount settings analytics).1.remove 0, [])
        else started := rfl
  rw [hstep, h, Bool.not_true, if_neg Bool.false_ne_true]
  have ht : 0 + settings.pollInterval = settings.pollInterval := Nat.zero_add _
  simp only [started, ht]
  rfl

theorem step_landing :
    ({ (mount settings analytics).1 with
      timer := settings.pollInterval
      tasks := [⟨0, .pollLoop, .fetching .mount 1⟩]
      nextCall := 2
      answers := [(1, .fetched r)] } : Controller).step (.run 0)
      = (firstRefreshed settings analytics r,
        (Report.refresh settings .mount r).map .did ++ [.applied 1 r 0] ++ []) := rfl

end

def beside (c : Controller) (work : Work) (stage : Stage) : Controller :=
  { c with tasks := c.tasks ++ [⟨c.nextTask, work, stage⟩], nextTask := c.nextTask + 1 }

theorem task?_beside (s : Sound c) :
    (c.beside work stage).task? c.nextTask = some ⟨c.nextTask, work, stage⟩ := by
  have hnone : c.tasks.find? (·.id = c.nextTask) = none := by
    rw [List.find?_eq_none]
    intro t ht he
    exact absurd (s.fresh t ht) (Nat.not_lt.2 (Nat.le_of_eq (of_decide_eq_true he).symm))
  simp [task?, beside, List.find?_append, hnone]

theorem place_beside (s : Sound c) (later : Stage) :
    (c.beside work stage).place c.nextTask later = c.beside work later := by
  have hsame : c.tasks.map (fun t => if t.id = c.nextTask then { t with stage := later } else t)
      = c.tasks.map id :=
    List.map_congr_left fun t ht => if_neg (Nat.ne_of_lt (s.fresh t ht))
  rw [List.map_id] at hsame
  simp [place, beside, hsame]

theorem step_request {h : HandleCall} (live : c.store.isDisposed = false) :
    c.step (.request h) = (c.beside (.call h) .start, []) := by
  rw [step, live]
  rfl

-- The task is given the answer that it waits for.
theorem step_answer {a : Answer} (hs : stage.call? = some n) (ha : c.answer? n = none) :
    (c.beside work stage).step (.answer n a)
      = ({ c with answers := c.answers ++ [(n, a)] }.beside work stage, []) := by
  have he : (c.beside work stage).isExpected n := by simp [isExpected, beside, hs]
  have hn : (c.beside work stage).answer? n = none := ha
  rw [step, he, hn]
  rfl

theorem answer?_concat {a : Answer} (h : c.answer? n = none) :
    { c with answers := c.answers ++ [(n, a)] }.answer? n = some a := by
  have h : c.answers.lookup n = none := h
  simp [answer?, List.lookup_append, h]

theorem send_beside (s : Sound c) (call : ServiceCall) (later : Nat → Stage) :
    (c.beside work stage).send c.nextTask call later
      = ({ c with nextCall := c.nextCall + 1 }.beside work (later c.nextCall),
        [.called c.nextCall call c.now]) := by
  rw [send, place_beside s]
  rfl

theorem step_start {h : HandleCall} (s : Sound c) (live : c.store.isDisposed = false) :
    (c.beside (.call h) .start).step (.run c.nextTask)
      = (c.beside (.call h) .start).beginCall c.nextTask ⟨c.nextTask, .call h, .start⟩ h := by
  have live : (c.beside (.call h) .start).store.isDisposed = false := live
  rw [step, task?_beside s]
  simp only [move, live, Bool.false_eq_true, ↓reduceIte]

theorem step_create (s : Sound c) (live : c.store.isDisposed = false) :
    (c.beside (.call .create) .start).step (.run c.nextTask)
      = ({ c with nextCall := c.nextCall + 1 }.beside (.call .create) (.creating c.nextCall),
        [.called c.nextCall (.create (.ofType c.settings.jobType)) c.now]) := by
  rw [step_start s live]
  exact send_beside s _ _

-- The store is told of the cancel before the request is sent.
def marked (c : Controller) : Controller := { c with store := (c.store.modify (·.cancelling)).1 }

theorem step_cancel {shown : Job} (s : Sound c) (live : c.store.isDisposed = false)
    (h : c.store.chosen = some shown) :
    (c.beside (.call .cancel) .start).step (.run c.nextTask)
      = ({ c.marked with nextCall := c.nextCall + 1 }.beside (.call .cancel)
          (.cancelling c.nextCall shown),
        [.marked shown, .called c.nextCall (.cancel shown.id) c.now]) := by
  have h : (c.beside (.call .cancel) .start).store.chosen = some shown := h
  have hsend : (c.marked.beside (.call .cancel) .start).send c.nextTask (.cancel shown.id)
      (.cancelling · shown) = _ := send_beside (s.modify _) _ _
  rw [step_start s live, beginCall]
  simp only [h]
  exact congrArg (fun m : Move => (m.1, .marked shown :: m.2)) hsend

theorem step_cancel_nothing (s : Sound c) (live : c.store.isDisposed = false)
    (h : c.store.chosen = none) :
    ((c.beside (.call .cancel) .start).step (.run c.nextTask)).2
      = [.finished c.nextTask (.cancelled none)] := by
  have h : (c.beside (.call .cancel) .start).store.chosen = none := h
  rw [step_start s live, beginCall]
  simp only [h]
  rfl

theorem step_creating {r : Except ClientError Job} (s : Sound c)
    (ha : c.answer? n = some (.created r)) :
    (c.beside work (.creating n)).step (.run c.nextTask)
      = ((c.beside work (.creating n)).take n).endCreate c.nextTask r := by
  have ha : (c.beside work (.creating n)).answer? n = some (.created r) := ha
  rw [step, task?_beside s]
  simp only [move, ha]

theorem step_cancelling {shown : Job} {r : Except ClientError Unit} (s : Sound c)
    (ha : c.answer? n = some (.cancelled r)) :
    (c.beside work (.cancelling n shown)).step (.run c.nextTask)
      = ((c.beside work (.cancelling n shown)).take n).endCancel c.nextTask shown r := by
  have ha : (c.beside work (.cancelling n shown)).answer? n = some (.cancelled r) := ha
  rw [step, task?_beside s]
  simp only [move, ha]

def created (r : Except ClientError Job) : CallResult :=
  match r with
  | .ok job => .created job
  | .error e => .failed e

end Controller

namespace CommandLine.Session

open Controller (Occurrence Event Sound Stage)

variable {s : Session} {task n : Nat} {request : ServiceCall} {reply : Reply}

theorem pass_eq {e : Event} {c : Controller} {trace : List Occurrence}
    (h : s.controller.step e = (c, trace)) :
    s.pass e = { s with controller := c, trace := s.trace ++ trace } := by
  rw [pass, h]

section

variable {α : Type} {e : Exchange α} {a : Answer} {b c c' d : Controller}
  {before after : List Occurrence}

-- A task sends a request and moves on with the answer to it.
theorem move_eq (e : Exchange α) (hsend : s.controller.step (.run task) = (c, before))
    (hlast : lastCall? before = some (n, request))
    (hserve : let t : Session := { s with controller := c, trace := s.trace ++ before }
      t.serve n reply request = (t.exchanged e).pass (.answer n a))
    (hanswer : c.step (.answer n a) = (c', [])) (hend : c'.step (.run task) = (d, after)) :
    s.move task reply = {
      controller := d
      service := { s.service with client := e.client }
      requests := s.requests ++ e.request.toList
      trace := s.trace ++ before ++ e.effects.map .did ++ after } := by
  let t : Session := { s with controller := c, trace := s.trace ++ before }
  have hserve : t.serve n reply request = (t.exchanged e).pass (.answer n a) := hserve
  have hanswer : (t.exchanged e).pass (.answer n a) = { t.exchanged e with controller := c' } := by
    rw [pass_eq (s := t.exchanged e) hanswer, List.append_nil]
  unfold move
  rw [hsend]
  simp only [hlast]
  rw [hserve, hanswer]
  exact pass_eq hend

-- What the user is answered by what happens.
def answered? (task : Nat) : Occurrence → Option CallResult
  | .finished id r => if id = task then some r else none
  | _ => none

theorem result?_eq : s.result? task = s.trace.findSome? (answered? task) := by
  have hf : (fun | .finished id r => if id = task then some r else none | _ => none)
      = answered? task := by
    funext o
    cases o <;> rfl
  rw [← hf]
  rfl

theorem findSome?_did (effects : List Effect) :
    (effects.map Occurrence.did).findSome? (answered? task) = none := by
  rw [List.findSome?_eq_none_iff]
  exact List.forall_mem_map.2 fun _ _ => rfl

theorem answered?_spawned {t : Trigger} : answered? task (.spawned t) = none := rfl

@[simp]
theorem answered?_finished {r : CallResult} : answered? task (.finished task r) = some r := if_pos rfl

theorem answered_endCreate (c : Controller) (r : Except ClientError Job) :
    (c.endCreate task r).2.findSome? (answered? task) = some (Controller.created r) := by
  cases r
  case ok job =>
    have hf : (c.endCreate task (.ok job)).2
        = (Report.create c.analytics c.settings.jobType (.ok job)).map .did ++
          [.spawned .create, .finished task (.created job)] := rfl
    simp [hf, List.findSome?_append, List.findSome?_cons, findSome?_did, answered?_spawned,
      Controller.created]
  case error e =>
    have hf : (c.endCreate task (.error e)).2
        = (Report.create c.analytics c.settings.jobType (.error e)).map .did ++
          [.finished task (.failed e)] := rfl
    simp [hf, List.findSome?_append, findSome?_did, Controller.created]

theorem answered_endCancel (c : Controller) (shown : Job) (r : Except ClientError Unit) :
    (c.endCancel task shown r).2.findSome? (answered? task) = some (.cancelled shown) := by
  have hf : (c.endCancel task shown r).2
      = (Report.cancel c.analytics shown.id r).map .did ++
        [.spawned .cancel, .finished task (.cancelled shown)] := rfl
  simp [hf, List.findSome?_append, List.findSome?_cons, findSome?_did, answered?_spawned]

-- A session between two calls of its user.
structure AtRest (s : Session) : Prop where
  sound : Sound s.controller
  live : s.controller.store.isDisposed = false
  unanswered : s.controller.answer? s.controller.nextCall = none
  unfinished : s.result? s.controller.nextTask = none

theorem call_of_move (after : List Occurrence) {h : HandleCall} {t : Session} (hs : s.AtRest)
    (hbegin : s.controller.step (.request h) = (b, []))
    (hmove : ({ s with controller := b } : Session).move s.controller.nextTask reply = t)
    (ht : t.trace = s.trace ++ after) :
    s.call h reply = (t, after.findSome? (answered? s.controller.nextTask)) := by
  have hpass : s.pass (.request h) = { s with controller := b } := by
    rw [pass_eq hbegin, List.append_nil]
  have hcall : s.call h reply = (((s.pass (.request h)).move s.controller.nextTask reply),
      ((s.pass (.request h)).move s.controller.nextTask reply).result? s.controller.nextTask) := rfl
  have hs := hs.unfinished
  rw [result?_eq] at hs
  rw [hcall, hpass, hmove, result?_eq, ht, List.findSome?_append, hs, Option.none_or]

-- A call of the user that sends a request is answered by what happens behind the request.
theorem call_eq (reply : Reply) (e : Exchange α) {h : HandleCall} (hs : s.AtRest)
    (hbegin : s.controller.step (.request h) = (b, []))
    (hsend : b.step (.run s.controller.nextTask) = (c, before))
    (hlast : lastCall? before = some (n, request))
    (hquiet : before.findSome? (answered? s.controller.nextTask) = none)
    (hserve : let t : Session := { s with controller := c, trace := s.trace ++ before }
      t.serve n reply request = (t.exchanged e).pass (.answer n a))
    (hanswer : c.step (.answer n a) = (c', []))
    {m : Controller.Move} (hend : c'.step (.run s.controller.nextTask) = m) :
    ∃ t : Session, s.call h reply = (t, m.2.findSome? (answered? s.controller.nextTask)) ∧
      t.requests = s.requests ++ e.request.toList := by
  let rest := before ++ e.effects.map .did ++ m.2
  have hmove : ({ s with controller := b } : Session).move s.controller.nextTask reply = _ :=
    move_eq e hsend hlast hserve hanswer hend
  have hcall := call_of_move rest hs hbegin hmove (by simp only [rest, List.append_assoc])
  have hrest : rest.findSome? (answered? s.controller.nextTask)
      = m.2.findSome? (answered? s.controller.nextTask) := by
    simp only [rest, List.findSome?_append, hquiet, findSome?_did, Option.none_or]
  rw [hrest] at hcall
  exact ⟨_, hcall, rfl⟩

end

section

variable {settings : StatusSettings} {analytics : Analytics Unit} {service : JobService}
  {trace : List Occurrence}

-- The session behind the first refresh.
def refreshed (settings : StatusSettings) (analytics : Analytics Unit) (trace : List Occurrence)
    (service : JobService) (e : Exchange (List Job)) : Session where
  controller := .firstRefreshed settings analytics e.result
  service := { service with client := e.client }
  requests := e.request.toList
  trace := trace ++ [.called 1 (.fetch .mount) 0] ++ e.effects.map .did ++
    ((Report.refresh settings .mount e.result).map .did ++ [.applied 1 e.result 0])

-- The first refresh is one request for the list, and its outcome is folded into the store.
theorem move_mount (h : (Controller.mount settings analytics).1.canStart) :
    let s : Session := ⟨(Controller.mount settings analytics).1, service, [], trace⟩
    s.move 0 reply
      = refreshed settings analytics trace service (service.fetch settings.jobType reply) := by
  intro s
  let e := service.fetch settings.jobType reply
  have hmove : s.move 0 reply = _ :=
    move_eq e (Controller.step_mount h) rfl rfl rfl Controller.step_landing
  rw [hmove, refreshed, List.append_nil]
  rfl

theorem atRest_refreshed {e : Exchange (List Job)}
    (h : trace.findSome? (answered? 1) = none) :
    (refreshed settings analytics trace service e).AtRest where
  sound := Controller.sound_firstRefreshed
  live := rfl
  unanswered := rfl
  unfinished := by
    have hc : answered? 1 (.called 1 (.fetch .mount) 0) = none := rfl
    have ha : answered? 1 (.applied 1 e.result 0) = none := rfl
    rw [result?_eq]
    simp only [refreshed, List.findSome?_append, h, findSome?_did, Option.none_or,
      Controller.firstRefreshed, Controller.mount, List.findSome?_cons, hc, ha, List.findSome?_nil]

end

-- A call for a new job is one request, and is answered as the request is.
theorem call_create (reply : Reply) (hs : s.AtRest) :
    let e := s.service.create (.ofType s.controller.settings.jobType) reply
    ∃ t, s.call .create reply = (t, some (Controller.created e.result)) ∧
      t.requests = s.requests ++ e.request.toList := by
  intro e
  let c := s.controller
  let sent : Controller := { c with nextCall := c.nextCall + 1 }
  let answered : Controller := { sent with answers := c.answers ++ [(c.nextCall, .created e.result)] }
  let creating : Stage := .creating c.nextCall
  have hanswer : (sent.beside (.call .create) creating).step (.answer c.nextCall (.created e.result))
      = (answered.beside (.call .create) creating, []) :=
    Controller.step_answer rfl hs.unanswered
  have hend : (answered.beside (.call .create) creating).step (.run c.nextTask)
      = ((answered.beside (.call .create) creating).take c.nextCall).endCreate c.nextTask e.result :=
    Controller.step_creating (hs.sound.frame c.now c.timer _ _)
      (Controller.answer?_concat hs.unanswered)
  have ⟨t, ht, hr⟩ := call_eq reply e hs (Controller.step_request hs.live)
    (Controller.step_create hs.sound hs.live) rfl rfl rfl hanswer hend
  exact ⟨t, ht.trans (congrArg (Prod.mk t) (answered_endCreate _ _)), hr⟩

-- The cancel of the job that is shown is one request, and is answered alike whatever comes of it.
theorem call_cancel {shown : Job} (reply : Reply) (hs : s.AtRest)
    (h : s.controller.store.chosen = some shown) :
    let e := s.service.cancel shown.id reply
    ∃ t, s.call .cancel reply = (t, some (.cancelled shown)) ∧
      t.requests = s.requests ++ e.request.toList := by
  intro e
  let c := s.controller
  let sent : Controller := { c.marked with nextCall := c.nextCall + 1 }
  let answered : Controller :=
    { sent with answers := c.answers ++ [(c.nextCall, .cancelled e.result)] }
  let cancelling : Stage := .cancelling c.nextCall shown
  have hanswer : (sent.beside (.call .cancel) cancelling).step
      (.answer c.nextCall (.cancelled e.result))
      = (answered.beside (.call .cancel) cancelling, []) :=
    Controller.step_answer rfl hs.unanswered
  have hend : (answered.beside (.call .cancel) cancelling).step (.run c.nextTask)
      = ((answered.beside (.call .cancel) cancelling).take c.nextCall).endCancel c.nextTask shown
        e.result :=
    Controller.step_cancelling ((hs.sound.modify _).frame c.now c.timer _ _)
      (Controller.answer?_concat hs.unanswered)
  have ⟨t, ht, hr⟩ := call_eq reply e hs (Controller.step_request hs.live)
    (Controller.step_cancel hs.sound hs.live h) rfl rfl rfl hanswer hend
  exact ⟨t, ht.trans (congrArg (Prod.mk t) (answered_endCancel _ _ _)), hr⟩

-- Where no job is shown nothing is sent.
theorem call_cancel_nothing (reply : Reply) (hs : s.AtRest)
    (h : s.controller.store.chosen = none) :
    ∃ t, s.call .cancel reply = (t, some (.cancelled none)) ∧ t.requests = s.requests := by
  let b := s.controller.beside (.call .cancel) .start
  let m := b.step (.run s.controller.nextTask)
  have htrace : m.2 = [.finished s.controller.nextTask (.cancelled none)] :=
    Controller.step_cancel_nothing hs.sound hs.live h
  have hmove : ({ s with controller := b } : Session).move s.controller.nextTask reply
      = { s with controller := m.1, trace := s.trace ++ m.2 } := by
    have hm : b.step (.run s.controller.nextTask) = (m.1, m.2) := rfl
    unfold move
    rw [hm, htrace]
    rfl
  have hcall := call_of_move m.2 hs (Controller.step_request hs.live) hmove rfl
  rw [htrace, List.findSome?_cons, answered?_finished] at hcall
  exact ⟨_, hcall, rfl⟩

end CommandLine.Session

end IndexWatch
