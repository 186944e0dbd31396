import IndexWatch.Client.Config
import IndexWatch.Client.Error
import IndexWatch.Effect
import IndexWatch.Status.Store

namespace IndexWatch

inductive Trigger where
  | mount
  | interval
  | manual
  | create
  | cancel
  deriving DecidableEq, Repr

def Trigger.name : Trigger → String
  | mount => "mount"
  | interval => "interval"
  | manual => "manual"
  | create => "create"
  | cancel => "cancel"

abbrev Fetched := Except ClientError (List Job)

def StatusState.fetched (s : StatusState) (r : Fetched) (at_ : Timestamp) : StatusState :=
  match r with
  | .ok jobs => s.refreshed jobs at_
  | .error e => s.failed e.message

namespace Report

def controllerTarget : String := "jobwatch_client::status::controller"

def actionTarget : String := "jobwatch_client::status::actions"

def mounted (s : StatusSettings) : Log.Record :=
  ⟨.info, controllerTarget, "mounting status controller",
    [("job_type", .text s.jobType.name), ("poll_interval_secs", .number s.pollIntervalSecs)]⟩

def unmounted (s : StatusSettings) : Log.Record :=
  ⟨.info, controllerTarget, "status controller unmounted", [("job_type", .text s.jobType.name)]⟩

def stopped (s : StatusSettings) : Log.Record :=
  ⟨.debug, controllerTarget, "poll loop stopped", [("job_type", .text s.jobType.name)]⟩

def abandoned (t : Trigger) : Log.Record :=
  ⟨.debug, controllerTarget, "refresh abandoned: controller unmounted", [("trigger", .text t.name)]⟩

def dropped (t : Trigger) : Log.Record :=
  ⟨.debug, controllerTarget, "refresh result dropped: controller unmounted",
    [("trigger", .text t.name)]⟩

def refresh (s : StatusSettings) (t : Trigger) : Fetched → List Effect
  | .ok jobs => [.poll .success, .log ⟨.debug, controllerTarget, "jobs refreshed",
      [("trigger", .text t.name), ("job_type", .text s.jobType.name),
        ("count", .number jobs.length)]⟩]
  | .error e => [.poll .error, .log ⟨.warn, controllerTarget, "job refresh failed",
      [("trigger", .text t.name), ("job_type", .text s.jobType.name), ("error", .text e.message)]⟩]

-- The usage event for an action on the API, if it is to be reported.
def usage {Port : Type} (a : Analytics Port) (action property value : String) : List Effect :=
  (a.events (.legacyTrack "api" action "" property value)).map .usage

def create {Port : Type} (a : Analytics Port) (type : JobType) :
    Except ClientError Job → List Effect
  | .ok job =>
    .log ⟨.info, actionTarget, "index job scheduled",
      [("job_id", .text job.id), ("job_type", .text job.type.name)]⟩ ::
    .action .create .success :: usage a "api_jobs_create_success" "job_type" type.name
  | .error e =>
    .log ⟨.warn, actionTarget, "failed to schedule index job",
      [("job_type", .text type.name), ("error", .text e.message)]⟩ ::
    .action .create .error :: usage a "api_jobs_create_fail" "job_type" type.name

def cancel {Port : Type} (a : Analytics Port) (id : String) : Except ClientError Unit → List Effect
  | .ok _ =>
    .log ⟨.info, actionTarget, "index job cancel requested", [("job_id", .text id)]⟩ ::
    .action .cancel .success :: usage a "api_jobs_cancel_success" "job_id" id
  | .error e =>
    .log ⟨.warn, actionTarget, "index job cancel failed",
      [("job_id", .text id), ("error", .text e.message)]⟩ ::
    .action .cancel .error :: usage a "api_jobs_cancel_fail" "job_id" id

end Report

end IndexWatch
