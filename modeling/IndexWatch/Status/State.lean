import IndexWatch.Selection
import IndexWatch.Timestamp
import IndexWatch.View

namespace IndexWatch

-- What is known about the watched kind of work. Jobs are kept from the oldest to the newest.
structure StatusState where
  jobs : List Job := []
  loading : Bool := true
  cancelInProgress : Bool := false
  lastRefreshed : Option Timestamp := none
  lastError : Option String := none

namespace StatusState

def chosen (s : StatusState) : Option Job := Job.choose s.jobs

def view (s : StatusState) (isConfigured : Bool) : StatusView :=
  .present s.chosen ⟨s.loading, s.cancelInProgress, isConfigured⟩

def refreshed (s : StatusState) (jobs : List Job) (at_ : Timestamp) : StatusState :=
  { s with
    jobs := Job.order jobs
    loading := false
    cancelInProgress := false
    lastRefreshed := some at_
    lastError := none }

-- The state after a fetch that failed. The jobs known before stay.
def failed (s : StatusState) (error : String) : StatusState :=
  { s with loading := false, cancelInProgress := false, lastError := some error }

def cancelling (s : StatusState) : StatusState := { s with cancelInProgress := true }

end StatusState

structure StatusSnapshot where
  view : StatusView
  loading : Bool
  cancelInProgress : Bool
  chosen : Option Job
  refreshedAt : Option Timestamp

def StatusState.snapshot (s : StatusState) (isConfigured : Bool) : StatusSnapshot where
  view := s.view isConfigured
  loading := s.loading
  cancelInProgress := s.cancelInProgress
  chosen := s.chosen
  refreshedAt := s.lastRefreshed

end IndexWatch
