import IndexWatch.Job.Basic

namespace IndexWatch

structure ViewFlags where
  loading : Bool := true
  -- A cancel has been requested and no refresh has completed since.
  cancelInProgress : Bool := false
  isConfigured : Bool := true
  deriving DecidableEq, Repr

inductive ButtonLabel where
  | ready
  | inProgress
  deriving DecidableEq, Repr

namespace ButtonLabel

def text : ButtonLabel → String
  | ready => "Build Index"
  | inProgress => "Indexing in progress"

def name : ButtonLabel → String
  | ready => "ready"
  | inProgress => "in_progress"

end ButtonLabel

inductive HelpText where
  | buildIndex
  | cancelIndexing
  deriving DecidableEq, Repr

namespace HelpText

def text : HelpText → String
  | buildIndex =>
    "All posts in the database will be indexed from oldest to newest. " ++
    "Elasticsearch is available during indexing but search results may be incomplete " ++
    "until the indexing job is complete."
  | cancelIndexing =>
    "Cancelling stops the indexing job and removes it from the queue. " ++
    "Posts that have already been indexed will not be deleted."

def name : HelpText → String
  | buildIndex => "build_index"
  | cancelIndexing => "cancel_indexing"

end HelpText

structure IndexButton where
  disabled : Bool
  label : ButtonLabel
  help : HelpText
  deriving DecidableEq, Repr

structure StatusView where
  message : String
  indexButton : IndexButton
  cancelVisible : Bool
  deriving DecidableEq, Repr

-- The status line for the job shown. Without a job it depends on whether one may still come.
def statusMessage (chosen : Option Job) (loading : Bool) : String :=
  match chosen with
  | none => if loading then "Loading..." else "No indexing jobs queued."
  | some j =>
    match j.status with
    | .pending => "Job pending."
    | .inProgress => "Job in progress. " ++ toString j.percent ++ "% complete."
    | .success => "Indexing complete."
    | .error => "Indexing failed: " ++ j.errorMessage
    | .cancelRequested => "Canceling Job..."
    | .canceled => "Indexing job cancelled."
    | .unknown _ => ""

namespace StatusView

def line (v : StatusView) : String := "Status: " ++ v.message

def loading : StatusView where
  message := "Loading..."
  indexButton := ⟨true, .ready, .buildIndex⟩
  cancelVisible := false

def present (chosen : Option Job) (flags : ViewFlags) : StatusView :=
  if flags.loading then loading
  else {
    message := statusMessage chosen false
    indexButton :=
      if chosen.any (·.status.isActive) then ⟨true, .inProgress, .cancelIndexing⟩
      else ⟨!flags.isConfigured, .ready, .buildIndex⟩
    cancelVisible := !flags.cancelInProgress && chosen.any (·.status.isCancellable) }

end StatusView

def createErrorMessage (error : String) : String :=
  "Failed to schedule Bulk Index Job: " ++ error

end IndexWatch
