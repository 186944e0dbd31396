import IndexWatch.Proofs.CommandLine.Listing
import IndexWatch.Proofs.Job.NewJob
import IndexWatch.Proofs.Status.Request

namespace IndexWatch

-- Whether a request for a new job is read from the body of a request, byte by byte as it is sent.
def Request.Carries (r : Request) (job : NewJob) : Prop :=
  ∃ body, r.body = some body ∧ NewJob.decode (.ofBytes (utf8Bytes body)) = .ok job

-- Whether a request carries no request for a job of another kind.
def Request.IsAbout (r : Request) (type : JobType) : Prop :=
  r.body ≠ none → r.Carries (.ofType type)

theorem Request.isAbout_of_bodyless {client : ApiClient} {method : Method} {path : String}
    {query : Option (List (String × String))} {r : Request}
    (hr : client.request method path query none = .ok r) (type : JobType) : r.IsAbout type :=
  fun h => absurd (ApiClient.body_of_request hr) h

theorem JobService.carries_of_create {s : JobService} {job : NewJob} {reply : Reply} {r : Request}
    (hr : (s.create job reply).request = some r) : r.Carries job :=
  ⟨job.encode, ApiClient.body_of_request (ApiClient.request_receive_iff.1 hr),
    job.decode_utf8Bytes⟩

namespace CommandLine

open Controller (Sound Event Occurrence)

-- A session of a controller that watches a kind of job, and that has asked for new ones of this
-- kind only.
structure Session.IsAbout (s : Session) (type : JobType) : Prop where
  sound    : Sound s.controller
  watched  : s.controller.settings.jobType = type
  requests : ∀ r ∈ s.requests, r.IsAbout type

namespace Session

variable {s : Session} {type : JobType} {reply : Reply} {n : Nat} {request : ServiceCall}

theorem mem_requests_of_lastCall? {trace : List Occurrence}
    (h : lastCall? trace = some (n, request)) : (n, request) ∈ Controller.requests trace := by
  unfold lastCall? at h
  split at h
  case h_1 time hlast =>
    cases h
    exact List.mem_filterMap.2 ⟨_, List.mem_of_getLast? hlast, rfl⟩
  case h_2 => nomatch h

namespace IsAbout

theorem pass (h : s.IsAbout type) (e : Event) : (s.pass e).IsAbout type :=
  have hs := h.sound.stepped e
  ⟨h.sound.of_stepped hs, hs.preserves_setup.1 ▸ h.watched, h.requests⟩

theorem exchanged {α : Type} {x : Exchange α} (h : s.IsAbout type)
    (hx : ∀ r, x.request = some r → r.IsAbout type) : (s.exchanged x).IsAbout type where
  sound    := h.sound
  watched  := h.watched
  requests := List.forall_mem_append.2 ⟨h.requests, fun r hr => hx r (Option.mem_toList.1 hr)⟩

theorem serve (h : s.IsAbout type) (hc : ∀ job, request = .create job → job = .ofType type) :
    (s.serve n reply request).IsAbout type := by
  cases request
  case fetch k =>
    have he : (s.exchanged (s.service.fetch s.controller.settings.jobType reply)).IsAbout type :=
      h.exchanged fun r hr => Request.isAbout_of_bodyless (ApiClient.request_receive_iff.1 hr) type
    exact he.pass (.answer n (.fetched _))
  case create job =>
    have he : (s.exchanged (s.service.create job reply)).IsAbout type :=
      h.exchanged fun r hr _ => hc job rfl ▸ JobService.carries_of_create hr
    exact he.pass (.answer n (.created _))
  case cancel id =>
    have he : (s.exchanged (s.service.cancel id reply)).IsAbout type :=
      h.exchanged fun r hr => Request.isAbout_of_bodyless (ApiClient.request_receive_iff.1 hr) type
    exact he.pass (.answer n (.cancelled _))

theorem move (h : s.IsAbout type) (task : Nat) (reply : Reply) :
    (s.move task reply).IsAbout type := by
  have hstep := h.sound.stepped (.run task)
  have hp := h.pass (.run task)
  simp only [Session.move]
  cases hl : lastCall? (s.controller.step (.run task)).2
  case none      => exact hp
  case some sent =>
    have hcreate : ∀ job, sent.2 = .create job → job = .ofType type := by
      intro job hj
      have hsent : (sent.1, sent.2) ∈ Controller.requests _ := mem_requests_of_lastCall? hl
      rw [hj] at hsent
      rw [hstep.creates_watched hsent, h.watched]
    exact (hp.serve hcreate).pass _

theorem call (h : s.IsAbout type) (k : HandleCall) (reply : Reply) :
    (s.call k reply).1.IsAbout type := (h.pass (.request k)).move _ reply

end IsAbout

end Session

variable {s : Session} {server : Server} {type : JobType}

-- What has come of the call settles only what is shown.
theorem fst_runCreate : (runCreate s server).1 = (s.call .create server.create).1 := by
  unfold runCreate
  split <;> simp only [*]

theorem fst_runCancel : (runCancel s server).1 = (s.call .cancel server.cancel).1 := by
  unfold runCancel
  split <;> simp only [*]

theorem isAbout_runRefreshed (h : s.IsAbout type) (command : Command) :
    (runRefreshed s server command).1.IsAbout type := by
  simp only [runRefreshed]
  cases s.controller.store.state.lastError
  case some e => exact h
  case none   =>
    cases command
    case create => exact fst_runCreate ▸ h.call .create server.create
    case cancel => exact fst_runCancel ▸ h.call .cancel server.cancel
    all_goals exact h

theorem isAbout_runCommand (h : s.IsAbout type) (command : Command) :
    (runCommand s server command).1.IsAbout type := by
  unfold runCommand
  cases server.jobs
  case none       => exact h
  case some reply =>
    have hm := h.move 0 reply
    dsimp only
    split
    case isTrue  => exact h
    case isFalse =>
      split
      case isTrue  => exact hm
      case isFalse =>
        cases command
        case watch => exact hm
        all_goals exact isAbout_runRefreshed hm _

theorem isAbout_mounted {config : Config} {client : ApiClient} :
    (mounted config client).IsAbout config.watched where
  sound    := Controller.sound_mount _ _
  watched  := rfl
  requests := List.forall_mem_nil _

theorem requests_isAbout (c : CommandLine) (filter : Option String) (server : Server) :
    ∀ r ∈ (c.run filter server).requests, r.IsAbout c.config.watched := by
  have hwith (client : ApiClient) :
      ∀ r ∈ (runWith c.config client server c.command).requests, r.IsAbout c.config.watched :=
    (isAbout_runCommand isAbout_mounted c.command).requests
  unfold run
  split
  case h_2 => exact List.forall_mem_nil _
  case h_3 => exact List.forall_mem_nil _
  case h_1 =>
    unfold runLogged
    split
    case h_1 => exact List.forall_mem_nil _
    case h_2 =>
      split
      case h_1          => exact List.forall_mem_nil _
      case h_2 client _ => exact hwith client

-- Behind a list the request for a new job is among those of the run.
theorem exists_created {c : CommandLine} {filter : Option String} {logging : Logging}
    {client : ApiClient} {reply : Reply} {jobs : List Job} (ho : c.openLog filter = .ok logging)
    (hv : c.config.validate = .ok ())
    (ht : c.config.pollIntervalSecs.toNat * 1000 < Controller.endOfTime)
    (hr : server.jobs = some reply) (hc : c.command = .create)
    (hn : ApiClient.new c.config.serverUrl c.config.token = .ok client)
    (hl : (serviceOf c.config client).Lists c.config.watched reply jobs) :
    ∃ r ∈ (c.run filter server).requests, r.method = .post ∧
      ((serviceOf c.config client).create (.ofType c.config.watched) server.create).request
        = some r := by
  obtain ⟨_, _, -, -, hnew, hup, hat, hshows⟩ :=
    shows_runLogged hv ht hr (by rw [hc]; rfl) (by rw [hc]; nofun)
  cases hn.symm.trans hnew
  rw [hc] at hshows
  obtain ⟨⟨r, hrequest, hposts⟩, -⟩ := fulfills_of_lists hup hat hl hshows
  have hmem : r ∈ (c.runLogged server).posts := hposts ▸ List.mem_singleton_self r
  obtain ⟨hsent, hmethod⟩ := List.mem_filter.1 hmem
  rw [run_eq_of_openLog ho]
  exact ⟨r, hsent, of_decide_eq_true hmethod, hrequest⟩

-- Every request for a new job comes back from its text, and no other one has the same text. So a
-- controller, which asks for jobs of the watched kind only, has a service send this kind, and so
-- does every run of a command line.
theorem created_as_watched :
    (∀ job : NewJob, NewJob.decode (.ofString job.encode) = .ok job) ∧
    (∀ job job' : NewJob, job.encode = job'.encode → job = job') ∧
    (∀ (settings : StatusSettings) (analytics : Analytics Unit) (es : List Event) (n : Nat)
        (job : NewJob),
      (n, .create job) ∈ Controller.requests (Controller.life settings analytics es).2 →
        ∀ (s : JobService) (reply : Reply) (r : Request),
          (s.create job reply).request = some r → r.Carries (.ofType settings.jobType)) ∧
    ∀ (c : CommandLine) (filter : Option String) (server : Server),
      ∀ r ∈ (c.run filter server).requests, r.body ≠ none →
        r.Carries (.ofType c.config.watched) := by
  refine ⟨NewJob.decode_encode, fun _ _ => NewJob.encode_inj, ?_, requests_isAbout⟩
  intro settings analytics es n job h s reply r hr
  cases Controller.life_creates_watched h
  exact JobService.carries_of_create hr

-- A kind of job whose name has a quote, a backslash, a control character and one of four bytes.
theorem created_as_watched_of_escaped :
    let type : JobType := ⟨"\"\\\x01𝄞"⟩
    let job : NewJob := ⟨type, .ofList [("", "\n"), ("\\", "\"")]⟩
    let c : CommandLine := ⟨.create, { jobType := type.name }, .compact, none⟩
    let server : Server := ⟨some (JobService.listing [plainJob "a"]), .unanswered, .unanswered⟩
    NewJob.decode (.ofString job.encode) = .ok job ∧
      (∃ r, (localService.create (.ofType type) .unanswered).request = some r ∧
        r.Carries (.ofType type)) ∧
      ∃ r ∈ (c.run none server).requests, r.method = .post ∧ r.Carries (.ofType type) := by
  intro type job c server
  obtain ⟨hdecode, -, hlife, hruns⟩ := created_as_watched
  have hwatched : c.config.watched = type := by decide +kernel
  have hopen : c.openLog none = .ok ⟨none, .default⟩ := by
    rw [CommandLine.openLog, openLogFile]
    rfl
  have hlists : localService.Lists c.config.watched (JobService.listing [plainJob "a"])
      [plainJob "a"] := lists_of_isOk (by rw [hwatched]; decide +kernel)
  have hserver : server.jobs = some (JobService.listing [plainJob "a"]) := rfl
  have hv : c.config.validate = .ok () := by decide +kernel
  obtain ⟨r, hmem, hmethod, hr⟩ :=
    exists_created hopen hv (by decide) hserver rfl new_default hlists
  rw [hwatched] at hr
  have hr : (localService.create (.ofType type) .unanswered).request = some r := hr
  have hasked : (1, .create (.ofType type)) ∈ Controller.requests
      (Controller.life { jobType := type } .disabled [.request .create, .run 1]).2 := by
    decide +kernel
  obtain ⟨_, hbody, -⟩ := JobService.carries_of_create hr
  have hcarries := hruns c none server r hmem (Option.ne_none_iff_exists'.2 ⟨_, hbody⟩)
  rw [hwatched] at hcarries
  exact ⟨hdecode job, ⟨r, hr, hlife _ _ _ _ _ hasked _ _ _ hr⟩, r, hmem, hmethod, hcarries⟩

end CommandLine

end IndexWatch
