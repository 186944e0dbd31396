import IndexWatch.Proofs.CommandLine.FirstRefresh
import IndexWatch.Proofs.Job.Listing

namespace IndexWatch.CommandLine

open Json (IsValue Spells)

variable {config : Config} {client : ApiClient} {server : Server} {command : Command}
  {reply : Reply} {jobs : List Job} {o : Outcome}

def Outcome.printed (o : Outcome) : String := String.join (o.stdout.map (· ++ "\n"))

-- Where the poll loop cannot start nothing is ever asked for.
theorem requests_of_not_canStart (h : (mounted config client).controller.canStart = false) :
    (runCommand (mounted config client) server command).1.requests = [] := by
  have hstep : (mounted config client).controller.step (.run 0)
      = ((mounted config client).controller.remove 0, []) := by
    let started : Controller.Move := { (mounted config client).controller with
      timer := 0 + config.statusSettings.pollInterval }.beginRefresh ⟨0, .pollLoop, .start⟩ .mount
    have hif : (mounted config client).controller.step (.run 0)
        = if !(mounted config client).controller.canStart then
            ((mounted config client).controller.remove 0, [])
          else started := rfl
    rw [hif, h, Bool.not_false, if_pos rfl]
  have hmove (reply : Reply) : (mounted config client).move 0 reply
      = { mounted config client with
          controller := (mounted config client).controller.remove 0
          trace := (mounted config client).trace ++ [] } := by
    rw [Session.move, hstep]
    rfl
  have hloading (reply : Reply) :
      ((mounted config client).move 0 reply).controller.store.snapshot.loading = true := by
    rw [hmove]
    rfl
  unfold runCommand
  split
  case h_1 => rfl
  case h_2 reply _ =>
    split
    case isTrue => rfl
    case isFalse =>
      simp only [hloading, if_true]
      rw [hmove]
      rfl

section

variable {c : CommandLine} {filter : Option String}

theorem run_eq_of_openLog {logging : Logging} (h : c.openLog filter = .ok logging) :
    c.run filter server = c.runLogged server := by
  rw [run, h]

-- A run that has sent anything has an open log.
theorem run_eq_of_requests (h : (c.run filter server).requests ≠ []) :
    c.run filter server = c.runLogged server := by
  revert h
  unfold run
  split
  case h_1 => exact fun _ => rfl
  case h_2 => exact fun h => absurd rfl h
  case h_3 => exact fun h => absurd rfl h

theorem runLogged_eq_of_requests (h : (c.runLogged server).requests ≠ []) :
    ∃ client, c.runLogged server = runWith c.config client server c.command := by
  revert h
  unfold runLogged
  split
  case h_1 => exact fun h => absurd rfl h
  case h_2 =>
    split
    case h_1 => exact fun h => absurd rfl h
    case h_2 => exact fun _ => ⟨_, rfl⟩

theorem shows_of_requests (hr : server.jobs = some reply) (hw : c.command.waits)
    (hc : c.command ≠ .watch) (h : (c.run filter server).requests ≠ []) :
    ∃ client, ShowsRefreshed (c.run filter server) c.config client reply server c.command := by
  have hrun := run_eq_of_requests h
  rw [hrun] at h ⊢
  have ⟨client, hrun⟩ := runLogged_eq_of_requests h
  rw [hrun] at h ⊢
  refine ⟨client, ?_⟩
  have hshows : Shows (runWith c.config client server c.command) _ _ := shows_runWith
  by_cases hs : (mounted c.config client).controller.canStart
  case pos =>
    rw [ShowsRefreshed, ← runCommand_eq hr hw hc hs]
    exact hshows
  case neg =>
    rw [hshows.requests, requests_of_not_canStart (Bool.eq_false_iff.2 hs)] at h
    exact absurd rfl h

end

theorem exists_request_of_lists {s : JobService} {type : JobType} (hl : s.Lists type reply jobs) :
    ∃ r, (s.fetch type reply).request = some r :=
  have ⟨r, _, _, hr, _⟩ := hl
  ⟨r, ApiClient.request_receive_iff.2 hr⟩

theorem shows_jobs (h : ShowsRefreshed o config client reply server .jobs)
    (hl : ((serviceOf config client).fetch config.watched reply).result = .ok jobs) :
    o.ending = .success ∧ o.stdout = [Job.prettyList (Job.order jobs)] := by
  have hjobs : (refreshed config client reply).controller.store.state.jobs = Job.order jobs := by
    have hs : (refreshed config client reply).controller.store.state.jobs
        = (StatusState.fetched {} ((serviceOf config client).fetch config.watched reply).result
            ⟨0⟩).jobs := rfl
    rw [hs, hl]
    rfl
  have hrun : runRefreshed (refreshed config client reply) server .jobs
      = (refreshed config client reply, .success [Job.prettyList (Job.order jobs)]) := by
    unfold runRefreshed
    simp only [(store_refreshed hl).1, hjobs]
  rw [ShowsRefreshed, hrun] at h
  exact ⟨h.ending, h.stdout⟩

theorem requests_jobs (h : ShowsRefreshed o config client reply server .jobs) :
    o.requests = ((serviceOf config client).fetch config.watched reply).request.toList := by
  have hrun : (runRefreshed (refreshed config client reply) server .jobs).1
      = refreshed config client reply := by
    simp only [runRefreshed]
    cases (refreshed config client reply).controller.store.state.lastError <;> rfl
  rw [ShowsRefreshed, hrun] at h
  exact h.requests

-- Where a run has asked for the jobs and is answered with success, by a body that holds a list
-- without floating values, it prints a text that is a value of the grammar, and from which exactly
-- the ordered list is read.
theorem printed_jobs {c : CommandLine} {filter : Option String} {status : Nat} {body : List UInt8}
    (hc : c.command = .jobs) (hsent : (c.run filter server).requests ≠ [])
    (hr : server.jobs = some (.answer status body)) (hs : ApiClient.isSuccess status)
    (hl : Job.decodeList (.ofBytes (if isBodiless status then [] else body)) = .ok jobs)
    (hi : ∀ j ∈ jobs, j.IsIntegral) :
    let printed := (c.run filter server).printed
    (c.run filter server).ending = .success ∧
      (∃ ts, IsValue ts ∧ Spells ts printed.toList) ∧
      Job.decodeList (.ofBytes (utf8Bytes printed)) = .ok (Job.order jobs) := by
  intro printed
  have ⟨client, hshows⟩ := shows_of_requests hr (hc ▸ rfl) (hc ▸ nofun) hsent
  rw [hc] at hshows
  have hlists : (serviceOf c.config client).Lists c.config.watched (.answer status body) jobs := by
    rw [requests_jobs hshows] at hsent
    have ⟨r, hrequest⟩ := Option.ne_none_iff_exists'.1 fun hn => hsent (congrArg Option.toList hn)
    exact ⟨r, status, body, ApiClient.request_receive_iff.1 hrequest, rfl, hs, hl⟩
  have ⟨hend, hout⟩ := shows_jobs hshows (JobService.fetch_ok_iff.2 hlists)
  have hprinted : printed = Job.prettyList (Job.order jobs) ++ "\n" := by
    simp [printed, Outcome.printed, hout, String.join]
  have hsound := Json.of_decode Job.readList_ensures hl
  have hi : ∀ j ∈ Job.order jobs, j.IsIntegral := fun j hj => hi j (Job.order_perm.mem_iff.1 hj)
  rw [hprinted]
  exact ⟨hend, ⟨_, Json.Tree.isValue_tokens _, Job.spells_prettyList hi⟩,
    Job.decodeList_prettyList hsound.order hi⟩

theorem requests_of_lists {c : CommandLine} (hc : c.command = .jobs) (hfile : c.logFile = none)
    (hv : c.config.validate = .ok ())
    (ht : c.config.pollIntervalSecs.toNat * 1000 < Controller.endOfTime)
    (hr : server.jobs = some reply)
    (hnew : ApiClient.new c.config.serverUrl c.config.token = .ok client)
    (hl : (serviceOf c.config client).Lists c.config.watched reply jobs) :
    (c.run none server).requests ≠ [] := by
  have hopen : c.openLog none = .ok ⟨none, .default⟩ := by
    rw [openLog, openLogFile, hfile]
    rfl
  have ⟨_, _, _, _, hnew', _, _, hshows⟩ := shows_runLogged hv ht hr (hc ▸ rfl) (hc ▸ nofun)
  cases hnew.symm.trans hnew'
  rw [hc] at hshows
  have ⟨r, hrequest⟩ := exists_request_of_lists hl
  rw [run_eq_of_openLog hopen, requests_jobs hshows, hrequest]
  exact List.cons_ne_nil _ _

-- Two jobs that come latest first, one of them with data that are empty, and one with a status
-- without a meaning and a line break in its id.
theorem printed_jobs_oldest_first :
    let c : CommandLine := { plainCancel with command := .jobs }
    let older : Job := { plainJob "a" with data := some ⟨none, .empty⟩ }
    let later : Job := { plainJob "b\n" with status := .unknown "paused", createAt := 1 }
    let server : Server := ⟨some (JobService.listing [later, older]), .unanswered, .unanswered⟩
    (c.run none server).requests ≠ [] ∧ (c.run none server).ending = .success ∧
      Job.decodeList (.ofBytes (utf8Bytes (c.run none server).printed)) = .ok [older, later] := by
  intro c older later server
  have hv : plainCancel.config.validate = .ok () := by decide +kernel
  have ⟨_, _, _, hr, _⟩ : localService.Lists _ _ [plainJob "a"] := lists_plainJob
  have hdata {P : String × Json → Prop} :
      ∀ d, older.data = some d → ∀ e ∈ d.extra.entries, P e := by
    intro d hd
    cases hd
    exact nofun
  have hi : ∀ j ∈ [later, older], j.IsIntegral :=
    List.forall_mem_cons.2 ⟨nofun, List.forall_mem_singleton.2 hdata⟩
  have hf : ∀ j ∈ [later, older], j.IsFaithful :=
    List.forall_mem_cons.2 ⟨⟨by decide, nofun⟩, List.forall_mem_singleton.2 ⟨by decide, hdata⟩⟩
  have hd : (Json.Tree.array ([later, older].map Job.toTree)).depth ≤ Json.maxDepth := by decide
  have hlists := JobService.lists_listing hf hi hd hr
  have hsent : (c.run none server).requests ≠ [] :=
    requests_of_lists rfl rfl hv (by decide) rfl new_default hlists
  have ⟨_, _, _, _, hreply, hs, hl⟩ := hlists
  cases hreply
  have horder : Job.order [later, older] = [older, later] := by
    simp [Job.order, List.mergeSort, older, later, plainJob, Job.new]
  obtain ⟨hend, _, hprinted⟩ := printed_jobs rfl hsent rfl hs hl hi
  exact ⟨hsent, hend, horder ▸ hprinted⟩

end IndexWatch.CommandLine
