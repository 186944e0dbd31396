import IndexWatch.Proofs.Client.Address
import IndexWatch.Proofs.Client.Listing
import IndexWatch.Proofs.Client.Reach
import IndexWatch.Proofs.CommandLine.Session
import IndexWatch.Proofs.Selection

namespace IndexWatch

namespace CommandLine

open Controller (Occurrence)

def Outcome.posts (o : Outcome) : List Request := o.requests.filter (·.method = .post)

def mounted (config : Config) (client : ApiClient) : Session :=
  let analytics : Analytics Unit := .new (some ()) config.key
  ⟨(Controller.mount config.statusSettings analytics).1, ⟨client, config.perPage.toNat⟩, [],
    ((analytics.events .legacyPage).map fun e => .did (.usage e)) ++
      (Controller.mount config.statusSettings analytics).2⟩

-- What a run shows of what its command has come to.
structure Shows (o : Outcome) (s : Session) (r : Result) : Prop where
  ending : o.ending = if r.succeeded then .success else .failure
  stdout : o.stdout = r.stdout
  stderr : o.stderr = r.stderr ++ (r.error.map ("error: " ++ ·)).toList
  requests : o.requests = s.requests

variable {config : Config} {client : ApiClient} {server : Server} {command : Command} {s : Session}
  {r : Result}

theorem shows_runWith : Shows (runWith config client server command)
    (runCommand (mounted config client) server command).1
    (runCommand (mounted config client) server command).2 :=
  ⟨rfl, rfl, rfl, rfl⟩

section

variable {reply : Reply} {jobs : List Job} {e : ClientError}

def serviceOf (config : Config) (client : ApiClient) : JobService := ⟨client, config.perPage.toNat⟩

def refreshed (config : Config) (client : ApiClient) (reply : Reply) : Session :=
  .refreshed config.statusSettings (.new (some ()) config.key) (mounted config client).trace
    (serviceOf config client) ((serviceOf config client).fetch config.watched reply)

theorem canStart_mounted (hp : config.pollIntervalSecs ≠ 0)
    (ht : config.pollIntervalSecs.toNat * 1000 < Controller.endOfTime) :
    (mounted config client).controller.canStart := by
  have hne : config.pollIntervalSecs.toNat ≠ 0 := fun h => hp (UInt64.toNat_inj.1 h)
  have hpos : config.statusSettings.pollInterval ≠ 0 := by
    simp only [Config.statusSettings]
    omega
  have hlt : 0 + config.statusSettings.pollInterval < Controller.endOfTime := by
    simp only [Config.statusSettings]
    omega
  exact Bool.and_eq_true_iff.2 ⟨bne_iff_ne.2 hpos, decide_eq_true hlt⟩

theorem atRest_refreshed : (refreshed config client reply).AtRest := by
  apply Session.atRest_refreshed
  have hm : (mounted config client).trace
      = ((Analytics.new (some ()) config.key).events .legacyPage).map (fun e => .did (.usage e)) ++
        [.did (.log (Report.mounted config.statusSettings))] := rfl
  have hpage : (((Analytics.new (some ()) config.key).events .legacyPage).map fun e =>
      Occurrence.did (.usage e)).findSome? (Session.answered? 1) = none := by
    rw [List.findSome?_eq_none_iff]
    exact List.forall_mem_map.2 fun _ _ => rfl
  rw [hm, List.findSome?_append, hpage]
  rfl

-- Once the first refresh has ended nothing is awaited any more.
theorem not_loading_refreshed :
    (refreshed config client reply).controller.store.snapshot.loading = false := by
  have hs : (refreshed config client reply).controller.store.snapshot.loading
      = (StatusState.fetched {} ((serviceOf config client).fetch config.watched reply).result
          ⟨0⟩).loading := rfl
  rw [hs]
  cases ((serviceOf config client).fetch config.watched reply).result <;> rfl

theorem runCommand_eq (hr : server.jobs = some reply) (hw : command.waits)
    (hc : command ≠ .watch) (hs : (mounted config client).controller.canStart) :
    runCommand (mounted config client) server command
      = runRefreshed (refreshed config client reply) server command := by
  have hmove : (mounted config client).move 0 reply = refreshed config client reply :=
    Session.move_mount hs
  unfold runCommand
  rw [hr]
  simp only [hw, hmove, not_loading_refreshed, Bool.not_true, Bool.false_eq_true, ↓reduceIte]

theorem lastError_refreshed
    (h : ((serviceOf config client).fetch config.watched reply).result = .error e) :
    (refreshed config client reply).controller.store.state.lastError = some e.message := by
  have hs : (refreshed config client reply).controller.store.state.lastError
      = (StatusState.fetched {} ((serviceOf config client).fetch config.watched reply).result
          ⟨0⟩).lastError := rfl
  rw [hs, h]
  rfl

theorem store_refreshed
    (h : ((serviceOf config client).fetch config.watched reply).result = .ok jobs) :
    let store := (refreshed config client reply).controller.store
    store.state.lastError = none ∧ store.chosen = Job.choose (Job.order jobs) ∧
      store.snapshot.view.line = "Status: " ++ statusMessage (Job.choose (Job.order jobs)) false := by
  intro store
  have hs : store = ((StatusStore.new config.configured).modify (·.fetched
      ((serviceOf config client).fetch config.watched reply).result ⟨0⟩)).1 := rfl
  rw [hs, h]
  exact ⟨rfl, rfl, rfl⟩

theorem filter_posts {o : Option Request} {method : Method} (h : ∀ r, o = some r → r.method = method) :
    o.toList.filter (·.method = .post) = if method = .post then o.toList else [] := by
  cases o
  case none => split <;> rfl
  case some r =>
    rw [Option.toList_some, List.filter_singleton, h r rfl]
    cases method <;> rfl

theorem posts_refreshed {o : Outcome} (more : Option Request)
    (h : o.requests = (refreshed config client reply).requests ++ more.toList)
    (hm : ∀ r, more = some r → r.method = .post) : o.posts = more.toList := by
  have hget : ∀ r, ((serviceOf config client).fetch config.watched reply).request = some r →
      r.method = .get := fun r hr =>
    ApiClient.method_of_request (ApiClient.request_receive_iff.1 hr)
  have hs : (refreshed config client reply).requests
      = ((serviceOf config client).fetch config.watched reply).request.toList := rfl
  rw [Outcome.posts, h, hs, List.filter_append, filter_posts hget, filter_posts hm]
  rfl

theorem posts_nothing {o : Outcome} (h : o.requests = (refreshed config client reply).requests) :
    o.posts = [] := by
  rw [← List.append_nil (refreshed config client reply).requests] at h
  exact posts_refreshed none h nofun

structure Outcome.FailsToFetch (o : Outcome) (e : ClientError) : Prop where
  posts : o.posts = []
  stdout : o.stdout = []
  ending : o.ending = .failure
  stderr : o.stderr = ["error: " ++ ("failed to fetch jobs: " ++ e.message)]

-- A run that shows what has come of the request for a new job.
structure Outcome.Creates (o : Outcome) (made : Exchange Job) : Prop where
  posts : o.posts = made.request.toList
  ok : ∀ job, made.result = .ok job → o.ending = .success ∧ o.stdout = [job.id] ∧ o.stderr = []
  error : ∀ e, made.result = .error e →
    o.ending = .failure ∧ o.stdout = [] ∧ o.stderr = [createErrorMessage e.message]

-- A run that asks for the cancel of the job that is shown, as far as the URL for it can be sent.
structure Outcome.Cancels (o : Outcome) (s : JobService) (reply : Reply) (jobs : List Job) : Prop where
  ending : o.ending = .success
  nothing : jobs = [] → o.posts = []
  shown : jobs ≠ [] → ∃ shown, Job.choose (Job.order jobs) = some shown ∧
    (s.FitsCancel shown.id → ∃ r, (s.cancel shown.id reply).request = some r ∧ o.posts = [r]) ∧
    (¬s.FitsCancel shown.id → o.posts = [])

def Outcome.Fulfills (o : Outcome) (s : JobService) (type : JobType) (server : Server)
    (jobs : List Job) : Command → Prop
  | .status _ => o.posts = [] ∧ o.ending = .success ∧
      o.stdout = ["Status: " ++ statusMessage (Job.choose (Job.order jobs)) false]
  | .jobs => o.posts = [] ∧ o.ending = .success
  | .create => (∃ r, (s.create (.ofType type) server.create).request = some r ∧ o.posts = [r]) ∧
      o.Creates (s.create (.ofType type) server.create)
  | .cancel => o.Cancels s server.cancel jobs
  | .watch => True

variable {o : Outcome}

abbrev ShowsRefreshed (o : Outcome) (config : Config) (client : ApiClient) (reply : Reply)
    (server : Server) (command : Command) : Prop :=
  Shows o (runRefreshed (refreshed config client reply) server command).1
    (runRefreshed (refreshed config client reply) server command).2

-- Without a list nothing is done.
theorem outcome_of_error (h : ShowsRefreshed o config client reply server command)
    (he : ((serviceOf config client).fetch config.watched reply).result = .error e) :
    o.FailsToFetch e := by
  have hrun : runRefreshed (refreshed config client reply) server command
      = (refreshed config client reply, .failure (fetchMessage e.message)) := by
    unfold runRefreshed
    simp only [lastError_refreshed he]
  rw [ShowsRefreshed, hrun] at h
  exact ⟨posts_nothing h.requests, h.stdout, h.ending, h.stderr⟩

section

variable (hl : ((serviceOf config client).fetch config.watched reply).result = .ok jobs)

include hl

theorem outcome_of_status {seconds : UInt64}
    (h : ShowsRefreshed o config client reply server (.status seconds)) :
    o.posts = [] ∧ o.ending = .success ∧
      o.stdout = ["Status: " ++ statusMessage (Job.choose (Job.order jobs)) false] := by
  have ⟨hnone, _, hline⟩ := store_refreshed hl
  have hrun : runRefreshed (refreshed config client reply) server (.status seconds)
      = (refreshed config client reply,
        .success ["Status: " ++ statusMessage (Job.choose (Job.order jobs)) false]) := by
    unfold runRefreshed
    simp only [hnone, hline]
  rw [ShowsRefreshed, hrun] at h
  exact ⟨posts_nothing h.requests, h.ending, h.stdout⟩

theorem outcome_of_jobs (h : ShowsRefreshed o config client reply server .jobs) :
    o.posts = [] ∧ o.ending = .success := by
  have hrun : runRefreshed (refreshed config client reply) server .jobs
      = (refreshed config client reply,
        .success [Job.prettyList (refreshed config client reply).controller.store.state.jobs]) := by
    unfold runRefreshed
    simp only [(store_refreshed hl).1]
  rw [ShowsRefreshed, hrun] at h
  exact ⟨posts_nothing h.requests, h.ending⟩

theorem service_refreshed (hc : client.connected) :
    (refreshed config client reply).service = serviceOf config client := by
  have hclient := JobService.client_of_fetch hl hc
  have hs : (refreshed config client reply).service = { serviceOf config client with
      client := ((serviceOf config client).fetch config.watched reply).client } := rfl
  rw [hs, hclient]

theorem outcome_of_create (hc : client.connected)
    (h : ShowsRefreshed o config client reply server .create) :
    o.Creates ((serviceOf config client).create (.ofType config.watched) server.create) := by
  let behind := refreshed config client reply
  let made := (serviceOf config client).create (.ofType config.watched) server.create
  have ⟨t, ht, hr⟩ : ∃ t, behind.call .create server.create
      = (t, some (Controller.created made.result)) ∧
      t.requests = behind.requests ++ made.request.toList := by
    have hcall := Session.call_create (s := behind) server.create atRest_refreshed
    rwa [service_refreshed hl hc] at hcall
  have hpost : ∀ r, made.request = some r → r.method = .post := fun r hr =>
    ApiClient.method_of_request (ApiClient.request_receive_iff.1 hr)
  have hrun : runRefreshed behind server .create = runCreate behind server := by
    unfold runRefreshed
    simp only [behind, (store_refreshed hl).1]
  rw [ShowsRefreshed, hrun] at h
  cases hm : made.result
  case ok job =>
    have hcreate : runCreate behind server = (t, .success [job.id]) := by
      rw [hm] at ht
      rw [runCreate, ht]
      rfl
    rw [hcreate] at h
    refine ⟨posts_refreshed _ (h.requests.trans hr) hpost, ?_, ?_⟩
    · intro job' hj
      cases hm.symm.trans hj
      exact ⟨h.ending, h.stdout, h.stderr⟩
    · intro e he
      cases hm.symm.trans he
  case error e =>
    have hcreate : runCreate behind server
        = (t, ⟨false, [], [createErrorMessage e.message], none, []⟩) := by
      rw [hm] at ht
      rw [runCreate, ht]
      rfl
    rw [hcreate] at h
    refine ⟨posts_refreshed _ (h.requests.trans hr) hpost, ?_, ?_⟩
    · intro job hj
      cases hm.symm.trans hj
    · intro e' he
      cases hm.symm.trans he
      exact ⟨h.ending, h.stdout, h.stderr⟩

theorem outcome_of_cancel {shown : Job} (hc : client.connected)
    (hshown : Job.choose (Job.order jobs) = some shown)
    (h : ShowsRefreshed o config client reply server .cancel) :
    o.posts = ((serviceOf config client).cancel shown.id server.cancel).request.toList ∧
      o.ending = .success := by
  let behind := refreshed config client reply
  let cancelled := (serviceOf config client).cancel shown.id server.cancel
  have ⟨t, ht, hr⟩ : ∃ t, behind.call .cancel server.cancel = (t, some (.cancelled shown)) ∧
      t.requests = behind.requests ++ cancelled.request.toList := by
    have hcall := Session.call_cancel (s := behind) server.cancel atRest_refreshed
      ((store_refreshed hl).2.1.trans hshown)
    rwa [service_refreshed hl hc] at hcall
  have hpost : ∀ r, cancelled.request = some r → r.method = .post := fun r hr =>
    ApiClient.method_of_request (ApiClient.request_receive_iff.1 hr)
  have hrun : runRefreshed behind server .cancel
      = (t, .success ["Cancel requested for job " ++ shown.id]) := by
    unfold runRefreshed
    simp only [behind, (store_refreshed hl).1]
    rw [runCancel, ht]
  rw [ShowsRefreshed, hrun] at h
  exact ⟨posts_refreshed _ (h.requests.trans hr) hpost, h.ending⟩

theorem outcome_of_cancel_nothing (hnone : Job.choose (Job.order jobs) = none)
    (h : ShowsRefreshed o config client reply server .cancel) :
    o.posts = [] ∧ o.ending = .success := by
  let behind := refreshed config client reply
  have ⟨t, ht, hr⟩ : ∃ t, behind.call .cancel server.cancel = (t, some (.cancelled none)) ∧
      t.requests = behind.requests :=
    Session.call_cancel_nothing server.cancel atRest_refreshed ((store_refreshed hl).2.1.trans hnone)
  have hrun : runRefreshed behind server .cancel = (t, .success ["No job to cancel"]) := by
    unfold runRefreshed
    simp only [behind, (store_refreshed hl).1]
    rw [runCancel, ht]
  rw [ShowsRefreshed, hrun] at h
  exact ⟨posts_nothing (h.requests.trans hr), h.ending⟩

end

end

section

def localService : JobService := ⟨⟨"http://localhost:8065".toList, none, true⟩, 100⟩

def plainJob (id : String) : Job := .new id .postIndexing .inProgress

def plainCancel : CommandLine := ⟨.cancel, {}, .compact, none⟩

variable {id : String}

theorem parse_default : Url.parse "http://localhost:8065" = .ok
    ⟨"http".toList, [], [], some (.domain "localhost".toList), some ⟨8065, by decide⟩,
      .segments [[]], none, none⟩ := by
  decide +kernel

theorem new_default : ApiClient.new plainCancel.config.serverUrl plainCancel.config.token
    = .ok localService.client := by
  have hu : Url.parse plainCancel.config.serverUrl = _ := parse_default
  exact ApiClient.new_of_parse hu

theorem isFaithful_plainJob : (plainJob id).IsFaithful := ⟨nofun, nofun⟩

theorem lists_of_isOk {type : JobType}
    (h : (localService.client.request .get (JobService.jobsPath type)
      (some [("page", "0"), ("per_page", toString localService.perPage)]) none).isOk) :
    localService.Lists type (JobService.listing [plainJob id]) [plainJob id] := by
  cases hr : localService.client.request .get (JobService.jobsPath type)
      (some [("page", "0"), ("per_page", toString localService.perPage)]) none
  case error => rw [hr] at h; nomatch h
  case ok r =>
    apply JobService.lists_listing _ _ _ hr
    · exact List.forall_mem_singleton.2 isFaithful_plainJob
    · exact List.forall_mem_singleton.2 nofun
    · exact Json.Tree.depth_array_le_iff.2 (List.forall_mem_singleton.2 (Job.depth_le_iff.2 nofun))

theorem lists_plainJob :
    localService.Lists plainCancel.config.watched (JobService.listing [plainJob id]) [plainJob id] :=
  lists_of_isOk (by decide +kernel)

theorem choose_plainJob : Job.choose (Job.order [plainJob id]) = some (plainJob id) := by
  rw [Job.order, List.mergeSort_singleton]
  rfl

theorem length_segment_replicate {n : Nat} :
    (Percent.segment (String.ofList (List.replicate n 'a'))).length = n := by
  have hkept : ∀ c ∈ List.replicate n 'a', Percent.inSegment c = false := by
    intro c hc
    rw [List.eq_of_mem_replicate hc]
    rfl
  rw [Percent.segment, String.toList_ofList, Percent.encode_eq_self hkept, List.length_replicate]

end

-- Behind accepted settings a client is made, and what comes of the command shows what the first
-- refresh has led to.
theorem shows_runLogged {c : CommandLine} {reply : Reply} (hv : c.config.validate = .ok ())
    (ht : c.config.pollIntervalSecs.toNat * 1000 < Controller.endOfTime)
    (hr : server.jobs = some reply) (hw : c.command.waits) (hc : c.command ≠ .watch) :
    ∃ u client, Url.parse c.config.serverUrl = .ok u ∧ u.isHttp ∧
      ApiClient.new c.config.serverUrl c.config.token = .ok client ∧ client.connected ∧
      client.IsAt u ∧ ShowsRefreshed (c.runLogged server) c.config client reply server c.command := by
  have ⟨⟨u, hu, hweb⟩, hp⟩ := Config.of_validate hv
  let client : ApiClient :=
    ⟨ApiClient.trimSlashes u.text, c.config.token.filter (!·.isEmpty), true⟩
  have hnew : ApiClient.new c.config.serverUrl c.config.token = .ok client :=
    ApiClient.new_of_parse hu
  refine ⟨u, client, hu, hweb, hnew, rfl, ⟨Url.isWeb_of_read hu hweb, rfl⟩, ?_⟩
  have hrun : c.runLogged server = runWith c.config client server c.command := by
    unfold runLogged
    rw [hv, hnew]
  rw [hrun, ShowsRefreshed, ← runCommand_eq hr hw hc (canStart_mounted hp ht)]
  exact shows_runWith

-- Behind a list each command does what it is for. That the list was asked for has shown that a new
-- job can be asked for, and that only the length of a job's id can keep its cancel from being sent.
theorem fulfills_of_lists {o : Outcome} {reply : Reply} {jobs : List Job} {u : Url}
    (hup : client.connected) (hat : client.IsAt u)
    (hl : (serviceOf config client).Lists config.watched reply jobs)
    (h : ShowsRefreshed o config client reply server command) :
    o.Fulfills (serviceOf config client) config.watched server jobs command := by
  have hfetch := JobService.fetch_ok_iff.2 hl
  have ⟨first, hfirst⟩ : ∃ r,
      ((serviceOf config client).fetch config.watched reply).request = some r := by
    have ⟨r, _, _, hr, _⟩ := hl
    exact ⟨r, ApiClient.request_receive_iff.2 hr⟩
  cases command
  case status => exact outcome_of_status hfetch h
  case jobs   => exact outcome_of_jobs hfetch h
  case watch  => exact trivial
  case create =>
    have hmade := outcome_of_create hfetch hup h
    have ⟨r, hr⟩ := JobService.exists_create (.ofType config.watched) server.create hat hfirst
    exact ⟨⟨r, hr, by rw [hmade.posts, hr]; rfl⟩, hmade⟩
  case cancel =>
    by_cases hjobs : jobs = []
    case pos =>
      have hnone : Job.choose (Job.order jobs) = none := by
        rw [hjobs, Job.order, List.mergeSort_nil]
        rfl
      have ⟨hposts, hend⟩ := outcome_of_cancel_nothing hfetch hnone h
      exact ⟨hend, fun _ => hposts, fun hne => absurd hjobs hne⟩
    case neg =>
      have ⟨shown, hshown⟩ := Job.exists_shown hjobs
      have ⟨hposts, hend⟩ := outcome_of_cancel hfetch hup hshown h
      have hiff : (∃ r, ((serviceOf config client).cancel shown.id server.cancel).request = some r)
          ↔ (serviceOf config client).FitsCancel shown.id :=
        JobService.exists_cancel_iff hat hfirst
      refine ⟨hend, fun he => absurd he hjobs, fun _ => ⟨shown, hshown, ?_, ?_⟩⟩
      · intro hfits
        have ⟨r, hr⟩ := hiff.2 hfits
        exact ⟨r, hr, by rw [hposts, hr]; rfl⟩
      · intro hlong
        have hnone := Option.eq_none_iff_forall_ne_some.2 fun r hr => hlong (hiff.1 ⟨r, hr⟩)
        rw [hposts, hnone]
        rfl

-- What comes of a command that waits for the first refresh. Unless an answer with success holds a
-- list nothing is sent but the request for it, nothing is printed, and the command fails with the
-- reason. Behind a list the command does what it is for.
theorem outcome_behind_first_refresh {c : CommandLine} {reply : Reply}
    (hv : c.config.validate = .ok ())
    (ht : c.config.pollIntervalSecs.toNat * 1000 < Controller.endOfTime)
    (hr : server.jobs = some reply) (hw : c.command.waits) (hc : c.command ≠ .watch) :
    ∃ client, ApiClient.new c.config.serverUrl c.config.token = .ok client ∧
      let s := serviceOf c.config client
      let o := c.runLogged server
      ((¬∃ jobs, s.Lists c.config.watched reply jobs) →
        ∃ e, (s.fetch c.config.watched reply).result = .error e ∧ o.FailsToFetch e) ∧
      ∀ jobs, s.Lists c.config.watched reply jobs →
        o.Fulfills s c.config.watched server jobs c.command := by
  have ⟨u, client, _, _, hnew, hup, hat, hshows⟩ := shows_runLogged hv ht hr hw hc
  refine ⟨client, hnew, ?_, fun jobs hl => fulfills_of_lists hup hat hl hshows⟩
  intro hnone
  cases he : ((serviceOf c.config client).fetch c.config.watched reply).result
  case ok jobs => exact absurd ⟨jobs, JobService.fetch_ok_iff.1 he⟩ hnone
  case error e => exact ⟨e, rfl, outcome_of_error hshows he⟩

-- A job that is cancelled, though the answer to the request is a failure.
theorem cancel_of_short_id :
    let server : Server := ⟨some (JobService.listing [plainJob "a"]), .unanswered, .answer 500 []⟩
    (plainCancel.runLogged server).ending = .success ∧
      (plainCancel.runLogged server).posts.map Request.target = ["/api/v4/jobs/a/cancel"] := by
  intro server
  have hserver : server.jobs = some (JobService.listing [plainJob "a"]) := rfl
  have hv : plainCancel.config.validate = .ok () := by decide +kernel
  have ⟨client, hnew, _, hlist⟩ :=
    outcome_behind_first_refresh hv (by decide) hserver rfl (by decide)
  cases new_default.symm.trans hnew
  have ⟨hend, _, hsome⟩ : Outcome.Cancels _ _ _ _ := hlist [plainJob "a"] lists_plainJob
  have ⟨shown, hshown, hfits, _⟩ := hsome (List.cons_ne_nil _ _)
  cases choose_plainJob.symm.trans hshown
  have htarget : (localService.cancel "a" (.answer 500 [])).request.map Request.target
      = some "/api/v4/jobs/a/cancel" := by decide +kernel
  have ⟨sent, hsent, htarget⟩ := Option.map_eq_some_iff.1 htarget
  have ⟨r, hr, hposts⟩ := hfits (JobService.fitsCancel_of_request hsent)
  have hr : (localService.cancel "a" (.answer 500 [])).request = some r := hr
  cases hsent.symm.trans hr
  rw [hposts]
  exact ⟨hend, congrArg (· :: []) htarget⟩

-- The id of a job can be so long that its cancel is not sent. The run ends as if it had been.
theorem cancel_of_long_id :
    let job := plainJob (String.ofList (List.replicate 65535 'a'))
    let server : Server := ⟨some (JobService.listing [job]), .unanswered, .answer 200 []⟩
    plainCancel.config.validate = .ok () ∧
      plainCancel.config.pollIntervalSecs.toNat * 1000 < Controller.endOfTime ∧
      ApiClient.new plainCancel.config.serverUrl plainCancel.config.token = .ok localService.client ∧
      localService.Lists plainCancel.config.watched (JobService.listing [job]) [job] ∧
      Job.choose (Job.order [job]) = some job ∧
      (plainCancel.runLogged server).ending = .success ∧
      (plainCancel.runLogged server).posts = [] := by
  intro job server
  have hserver : server.jobs = some (JobService.listing [job]) := rfl
  have hv : plainCancel.config.validate = .ok () := by decide +kernel
  have hlists : localService.Lists plainCancel.config.watched (JobService.listing [job]) [job] :=
    lists_plainJob
  refine ⟨hv, by decide, new_default, hlists, choose_plainJob, ?_⟩
  have ⟨u, client, hu, hweb, hnew, hup, hat, hshows⟩ :=
    shows_runLogged hv (by decide) hserver rfl (by decide)
  cases new_default.symm.trans hnew
  cases parse_default.symm.trans hu
  have ⟨hposts, hend⟩ :=
    outcome_of_cancel (JobService.fetch_ok_iff.2 hlists) hup choose_plainJob hshows
  have hlong : maxUrlSize < (Percent.segment job.id).length := by
    have hlength : (Percent.segment job.id).length = 65535 := length_segment_replicate
    rw [hlength]
    decide
  have hnone : (localService.cancel job.id server.cancel).request = none :=
    JobService.cancel_of_long ⟨hat.web, rfl, rfl, hat.base⟩ hlong
  exact ⟨hend, hposts.trans (congrArg Option.toList hnone)⟩

end CommandLine

end IndexWatch
