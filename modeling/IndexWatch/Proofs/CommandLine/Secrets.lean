import IndexWatch.CommandLine.Run
import IndexWatch.Proofs.Client.Token
import IndexWatch.Proofs.Status.Reporting

namespace IndexWatch

namespace JobService

structure Alike (s t : JobService) : Prop where
  client  : s.client.Alike t.client
  perPage : s.perPage = t.perPage

namespace Alike

variable {s t : JobService} {reply : Reply}

theorem fetch {type : JobType} (h : s.Alike t) :
    (s.fetch type reply).Alike (t.fetch type reply) := by
  rw [JobService.fetch, JobService.fetch, h.perPage]
  exact h.client.get

theorem create {job : NewJob} (h : s.Alike t) : (s.create job reply).Alike (t.create job reply) :=
  h.client.post

theorem cancel {id : String} (h : s.Alike t) : (s.cancel id reply).Alike (t.cancel id reply) :=
  h.client.postEmpty

end Alike

end JobService

namespace CommandLine

open Controller (Occurrence Event)

namespace Session

-- Two sessions that nobody but the server can tell apart.
structure Alike (s t : Session) : Prop where
  controller : s.controller.Alike t.controller
  service    : s.service.Alike t.service
  requests   : s.requests.map Request.unsigned = t.requests.map Request.unsigned
  trace      : s.trace = t.trace

-- What is to be seen of a session: what has happened, the requests without the headers that show
-- who sends them, and what is shown.
def seen (s : Session) : List Occurrence × List Request × StatusSnapshot :=
  (s.trace, s.requests.map Request.unsigned, s.controller.store.snapshot)

namespace Alike

variable {s t : Session} {e : Event} {task : Nat} {reply : Reply}

theorem pass (h : s.Alike t) : (s.pass e).Alike (t.pass e) :=
  have hm := h.controller.step (e := e)
  ⟨hm.controller, h.service, h.requests, by simp only [Session.pass, h.trace, hm.trace]⟩

theorem exchanged {α : Type} {x y : Exchange α} (h : s.Alike t) (he : x.Alike y) :
    (s.exchanged x).Alike (t.exchanged y) where
  controller := h.controller
  service    := ⟨he.client, h.service.perPage⟩
  requests   := by
    have hr := congrArg Option.toList he.request
    simp only [Option.toList_map] at hr
    simp only [Session.exchanged, List.map_append, h.requests, hr]
  trace      := by
    simp only [Session.exchanged, h.trace, he.effects]

-- An exchange is taken in, and its result answers a request of the controller.
theorem answered {α : Type} {x y : Exchange α} {number : Nat} {answer : Except ClientError α → Answer}
    (h : s.Alike t) (he : x.Alike y) :
    ((s.exchanged x).pass (.answer number (answer x.result))).Alike
      ((t.exchanged y).pass (.answer number (answer y.result))) := by
  rw [he.result]
  exact (h.exchanged he).pass

theorem serve {number : Nat} {call : ServiceCall} (h : s.Alike t) :
    (s.serve number reply call).Alike (t.serve number reply call) := by
  cases call
  case fetch k =>
    simp only [Session.serve, h.controller.settings_eq]
    exact h.answered h.service.fetch
  case create job => exact h.answered h.service.create
  case cancel id  => exact h.answered h.service.cancel

theorem move (h : s.Alike t) (task : Nat) (reply : Reply) :
    (s.move task reply).Alike (t.move task reply) := by
  have hm := h.controller.step (e := .run task)
  have hp : (s.pass (.run task)).Alike (t.pass (.run task)) := h.pass
  simp only [Session.pass, hm.trace] at hp
  simp only [Session.move, hm.trace]
  cases lastCall? (t.controller.step (.run task)).2
  case none   => exact hp
  case some r => exact hp.serve.pass

theorem result?_eq (h : s.Alike t) : s.result? task = t.result? task := by
  rw [Session.result?, Session.result?, h.trace]

theorem call (h : s.Alike t) (k : HandleCall) (reply : Reply) :
    ∃ s' t' r, s.call k reply = (s', r) ∧ t.call k reply = (t', r) ∧ s'.Alike t' := by
  have hm := (h.pass (e := .request k)).move t.controller.nextTask reply
  refine ⟨_, _, _, ?_, rfl, hm⟩
  simp only [Session.call, h.controller.nextTask_eq, hm.result?_eq]

end Alike

end Session

-- Two sessions that are alike, in which a command has come to the same.
def AlikeWith (p q : Session × Result) : Prop := p.1.Alike q.1 ∧ p.2 = q.2

section

variable {s t s' t' : Session} {server : Server}

theorem AlikeWith.ite {p : Prop} [Decidable p] {x y x' y' : Session × Result}
    (hx : AlikeWith x x') (hy : AlikeWith y y') :
    AlikeWith (if p then x else y) (if p then x' else y') := by
  split
  case isTrue  => exact hx
  case isFalse => exact hy

end

def Session.opened (config : Config) (client : ApiClient) : Session :=
  let analytics : Analytics Unit := .new (some ()) config.key
  let page := (analytics.events .legacyPage).map fun e => Occurrence.did (.usage e)
  let (controller, mounted) := Controller.mount config.statusSettings analytics
  ⟨controller, ⟨client, config.perPage.toNat⟩, [], page ++ mounted⟩

-- An outcome without the headers that show who sends a request.
def Outcome.unsigned (o : Outcome) : Outcome :=
  { o with requests := o.requests.map Request.unsigned }

section

variable {a b : Config} {client client' : ApiClient} {server : Server} {c : Command}

end

def withSecrets (c : CommandLine) (token key : Option String) : CommandLine :=
  { c with config := { c.config with token := token, segmentKey := key } }

-- A token that a header can hold.
def IsToken (token : Option String) : Prop := ∃ t, token = some t ∧ t ≠ "" ∧ isHeaderValue t

def IsKey (key : Option String) : Prop := ∃ k, key = some k ∧ k ≠ ""

structure SameButSecrets (c d : CommandLine) : Prop where
  rest  : c.withSecrets none none = d.withSecrets none none
  token : c.config.token = d.config.token ∨ IsToken c.config.token ∧ IsToken d.config.token
  key   : c.config.segmentKey = d.config.segmentKey ∨
    IsKey c.config.segmentKey ∧ IsKey d.config.segmentKey

section

variable {c d : CommandLine} {token key : Option String} {filter : Option String} {server : Server}

-- What a run is told of its secrets: whether they are there, and whether a header can hold the
-- token.
structure Tells (c : CommandLine) (token key : Option String) : Prop where
  token : (c.config.token.filter (!·.isEmpty)).map isHeaderValue =
    (token.filter (!·.isEmpty)).map isHeaderValue
  key : c.config.key.isSome = (key.filter (!·.isEmpty)).isSome

theorem filter_key {c : Config} : c.key.filter (!·.isEmpty) = c.key := by
  simp [Config.key, Option.filter_filter]

theorem Tells.opened (h : c.Tells token key) (base : List Char) :
    (Session.opened c.config ⟨base, c.config.token.filter (!·.isEmpty), true⟩).Alike
      (Session.opened (c.withSecrets token key).config
        ⟨base, token.filter (!·.isEmpty), true⟩) := by
  have hk : c.config.key.isSome = (c.withSecrets token key).config.key.isSome := h.key
  have he : (Analytics.new (some ()) c.config.key).events =
      (Analytics.new (some ()) (c.withSecrets token key).config.key).events := by
    -- The settings have let no empty key pass, so the second test for one changes nothing.
    refine Analytics.events_eq rfl ?_
    rw [Analytics.new, Analytics.new, filter_key, filter_key, hk]
  simp only [Session.opened, he]
  exact ⟨(Controller.alike_mount he).controller, ⟨⟨rfl, h.token, rfl⟩, rfl⟩, rfl, rfl⟩

theorem SameButSecrets.eq (h : SameButSecrets c d) :
    d = c.withSecrets d.config.token d.config.segmentKey :=
  (congrArg (withSecrets · d.config.token d.config.segmentKey) h.rest).symm

end

end CommandLine

end IndexWatch
