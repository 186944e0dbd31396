import IndexWatch.Client.Service
import IndexWatch.CommandLine.Reader
import IndexWatch.Log.File
import IndexWatch.Log.Filter
import IndexWatch.Status.Controller

namespace IndexWatch

namespace CommandLine

open Controller (Occurrence Event)

-- What the server replies to each request of a run. A reply that never comes is none.
structure Server where
  jobs : Option Reply
  create : Reply
  cancel : Reply

inductive Ending where
  | success
  | failure
  | breakOff
  deriving DecidableEq, Repr

def Ending.exitCode : Ending → Nat
  | success => 0
  | failure => 1
  | breakOff => 101

-- What can be seen of a run. Every text that is printed ends its line.
structure Outcome where
  ending : Ending
  stdout : List String
  stderr : List String
  requests : List Request
  effects : List Effect

structure Session where
  controller : Controller
  service : JobService
  requests : List Request
  trace : List Occurrence

namespace Session

def pass (s : Session) (e : Event) : Session :=
  let (c, trace) := s.controller.step e
  { s with controller := c, trace := s.trace ++ trace }

def exchanged {α : Type} (s : Session) (e : Exchange α) : Session :=
  { s with
    service := { s.service with client := e.client }
    requests := s.requests ++ e.request.toList
    trace := s.trace ++ e.effects.map .did }

def serve (s : Session) (number : Nat) (reply : Reply) : ServiceCall → Session
  | .fetch _ =>
    let e := s.service.fetch s.controller.settings.jobType reply
    (s.exchanged e).pass (.answer number (.fetched e.result))
  | .create job =>
    let e := s.service.create job reply
    (s.exchanged e).pass (.answer number (.created e.result))
  | .cancel id =>
    let e := s.service.cancel id reply
    (s.exchanged e).pass (.answer number (.cancelled e.result))

def lastCall? (trace : List Occurrence) : Option (Nat × ServiceCall) :=
  match trace.getLast? with
  | some (.called number call _) => some (number, call)
  | _ => none

-- Let a task move. If it sends a request it moves again with the answer.
def move (s : Session) (task : Nat) (reply : Reply) : Session :=
  let (c, trace) := s.controller.step (.run task)
  let s := { s with controller := c, trace := s.trace ++ trace }
  match lastCall? trace with
  | some (number, call) => (s.serve number reply call).pass (.run task)
  | none => s

def result? (s : Session) (task : Nat) : Option CallResult :=
  s.trace.findSome? fun
    | .finished id r => if id = task then some r else none
    | _ => none

def call (s : Session) (h : HandleCall) (reply : Reply) : Session × Option CallResult :=
  let task := s.controller.nextTask
  let s := (s.pass (.request h)).move task reply
  (s, s.result? task)

end Session

def logTarget : String := "jobwatch_client::cli"

def sessionRecord : SessionEvent.Notice → Log.Record
  | .event .connectionLost => ⟨.warn, logTarget, "lost connection to server", []⟩
  | .event .reconnected => ⟨.info, logTarget, "reconnected to server", []⟩
  | .event (.loggedOut path) =>
    ⟨.warn, logTarget, "session expired, log in again", [("redirect_to", .text path)]⟩
  | .event .reloadRequired => ⟨.warn, logTarget, "server requested a reload", []⟩
  | .lagged n => ⟨.debug, logTarget, "session events lagged", [("skipped", .number n)]⟩

def interruptRecord : Log.Record := ⟨.info, logTarget, "interrupted, stopping watch", []⟩

def errorRecord (message : String) : Log.Record := ⟨.error, "jobwatch", message, []⟩

-- Usage events of a run go to its log.
def logged : Effect → Effect
  | .usage e => .log e.record
  | e => e

def effectsOf (trace : List Occurrence) : List Effect :=
  trace.filterMap fun
    | .did e => some (logged e)
    | _ => none

structure Result where
  succeeded : Bool
  stdout : List String
  stderr : List String
  error : Option String
  records : List Log.Record

namespace Result

def success (lines : List String) : Result := ⟨true, lines, [], none, []⟩

def failure (message : String) : Result := ⟨false, [], [], some message, []⟩

end Result

def timeoutMessage : String := "timed out waiting for job status: deadline has elapsed"

def fetchMessage (error : String) : String := "failed to fetch jobs: " ++ error

def runCreate (s : Session) (server : Server) : Session × Result :=
  match s.call .create server.create with
  | (s, some (.created job)) => (s, .success [job.id])
  | (s, some (.failed e)) => (s, ⟨false, [], [createErrorMessage e.message], none, []⟩)
  | (s, _) => (s, .success [])

def runCancel (s : Session) (server : Server) : Session × Result :=
  match s.call .cancel server.cancel with
  | (s, some (.cancelled (some job))) => (s, .success ["Cancel requested for job " ++ job.id])
  | (s, some (.cancelled none)) => (s, .success ["No job to cancel"])
  | (s, some (.failed e)) => (s, .failure e.message)
  | (s, _) => (s, .success [])

def runRefreshed (s : Session) (server : Server) (c : Command) : Session × Result :=
  let state := s.controller.store.state
  match state.lastError with
  | some e => (s, .failure (fetchMessage e))
  | none =>
    match c with
    | .create => runCreate s server
    | .cancel => runCancel s server
    | .jobs => (s, .success [Job.prettyList state.jobs])
    | _ => (s, .success [s.controller.store.snapshot.view.line])

-- Print a line for every change of the view until the interrupt, which comes behind the first
-- refresh.
def runWatch (before after : Session) : Session × Result :=
  let first := before.controller.store.snapshot.view.line
  let second := after.controller.store.snapshot.view.line
  (after, { Result.success (if first = second then [first] else [first, second]) with
    records := [interruptRecord] })

def Command.waits : Command → Bool
  | .status seconds => seconds != 0
  | _ => true

-- Run a command with a session whose poll loop has not moved yet. A first refresh that does not
-- come is given up in the end.
def runCommand (s : Session) (server : Server) (c : Command) : Session × Result :=
  match server.jobs with
  | none => (s, .failure timeoutMessage)
  | some reply =>
    if !c.waits then (s, .failure timeoutMessage)
    else
      let refreshed := s.move 0 reply
      if refreshed.controller.store.snapshot.loading then (refreshed, .failure timeoutMessage)
      else match c with
        | .watch => runWatch s refreshed
        | c => runRefreshed refreshed server c

def runWith (config : Config) (client : ApiClient) (server : Server) (c : Command) : Outcome :=
  let analytics : Analytics Unit := .new (some ()) config.key
  let page := (analytics.events .legacyPage).map fun e => Occurrence.did (.usage e)
  let (controller, mounted) := Controller.mount config.statusSettings analytics
  let start : Session := ⟨controller, ⟨client, config.perPage.toNat⟩, [], page ++ mounted⟩
  let (s, r) := runCommand start server c
  let effects := effectsOf s.trace
  let (_, unmounted) := s.controller.unmount true
  { ending := if r.succeeded then .success else .failure
    stdout := r.stdout
    stderr := r.stderr ++ (r.error.map ("error: " ++ ·)).toList
    requests := s.requests
    effects := effects ++
      (SessionEvent.notices (Effect.sessionEvents effects)).map (.log ∘ sessionRecord) ++
      r.records.map .log ++ effectsOf unmounted ++ (r.error.map (.log ∘ errorRecord)).toList }

def Outcome.refused (message : String) (effects : List Effect) : Outcome :=
  ⟨.failure, [], ["error: " ++ message], [], effects⟩

def Outcome.brokenOff : Outcome := ⟨.breakOff, [], [], [], []⟩

inductive LogError where
  | noFileName (path : String)
  | impossibleFile
  -- The text of the filter is cut within a character.
  | splitFilter (file : Option Log.File)

structure Logging where
  file : Option Log.File
  filter : Log.Filter

def openLogFile (c : CommandLine) : Except LogError (Option Log.File) :=
  match c.logFile with
  | none => .ok none
  | some path =>
    match Log.File.read? path with
    | none => .error (.noFileName path)
    | some f => if f.canBeMade then .ok (some f) else .error .impossibleFile

-- The log of a run, with a filter that may be given. The file is made before the filter is read.
def openLog (c : CommandLine) (filter : Option String) : Except LogError Logging := do
  let file ← c.openLogFile
  match Log.Filter.ofText? filter with
  | some filter => return ⟨file, filter⟩
  | none => throw (.splitFilter file)

def fileLeft? (c : CommandLine) (filter : Option String) : Option Log.File :=
  match c.openLog filter with
  | .ok logging => logging.file
  | .error (.splitFilter file) => file
  | .error _ => none

def clientMessage (e : ClientError) : String := "building API client: " ++ e.message

def runLogged (c : CommandLine) (server : Server) : Outcome :=
  match c.config.validate with
  | .error e => .refused e.message [.log (errorRecord e.message)]
  | .ok _ =>
    match ApiClient.new c.config.serverUrl c.config.token with
    | .error e => .refused (clientMessage e) [.log (errorRecord (clientMessage e))]
    | .ok client => runWith c.config client server c.command

-- Run a command line against a server, with a filter for the log that may be given. Without a log
-- nothing can be reported there.
def run (c : CommandLine) (filter : Option String) (server : Server) : Outcome :=
  match c.openLog filter with
  | .ok _ => c.runLogged server
  | .error (.noFileName path) => .refused (Log.File.missingMessage path) []
  | .error _ => .brokenOff

def shownRecords (c : CommandLine) (filter : Option String) (server : Server) : List Log.Record :=
  match c.openLog filter with
  | .ok logging =>
    (Effect.records (c.run filter server).effects .debug).filter logging.filter.shows
  | .error _ => []

end CommandLine

end IndexWatch
