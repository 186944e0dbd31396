import IndexWatch.Json.Basic

namespace IndexWatch

-- How far a job has come. A status that is not known here keeps its name.
inductive JobStatus where
  | pending
  | inProgress
  | success
  | error
  | cancelRequested
  | canceled
  | unknown (name : String)
  deriving DecidableEq, Repr

namespace JobStatus

def name : JobStatus → String
  | pending => "pending"
  | inProgress => "in_progress"
  | success => "success"
  | error => "error"
  | cancelRequested => "cancel_requested"
  | canceled => "canceled"
  | unknown name => name

def ofName : String → JobStatus
  | "pending" => pending
  | "in_progress" => inProgress
  | "success" => success
  | "error" => error
  | "cancel_requested" => cancelRequested
  | "canceled" => canceled
  | name => unknown name

theorem name_ofName (s : String) : (ofName s).name = s := by
  unfold ofName
  split <;> rfl

def isActive : JobStatus → Bool
  | pending => true
  | inProgress => true
  | cancelRequested => true
  | _ => false

def isCancellable : JobStatus → Bool
  | pending => true
  | inProgress => true
  | _ => false

def isRunning : JobStatus → Bool
  | inProgress => true
  | cancelRequested => true
  | _ => false

end JobStatus

structure JobType where
  name : String
  deriving DecidableEq, Repr

def JobType.postIndexing : JobType := ⟨"elasticsearch_post_indexing"⟩

instance : Inhabited JobType := ⟨.postIndexing⟩

-- What a worker noted about its job. Only the error has a meaning here.
structure JobData where
  error : Option String
  extra : KeyMap Json

def JobData.empty : JobData := ⟨none, .empty⟩

-- A job at the moment of the service's answer. Times count milliseconds since 1970.
structure Job where
  id : String
  type : JobType
  priority : Int64
  createAt : Int64
  startAt : Int64
  lastActivityAt : Int64
  status : JobStatus
  progress : Int64
  data : Option JobData

namespace Job

def new (id : String) (type : JobType) (status : JobStatus) : Job where
  id := id
  type := type
  priority := 0
  createAt := 0
  startAt := 0
  lastActivityAt := 0
  status := status
  progress := 0
  data := none

def withProgress (j : Job) (n : Int64) : Job := { j with progress := n }

def withCreateAt (j : Job) (n : Int64) : Job := { j with createAt := n }

def withError (j : Job) (e : String) : Job :=
  { j with data := some { j.data.getD .empty with error := some e } }

def percent (j : Job) : Nat := min j.progress.toInt.toNat 100

def errorMessage (j : Job) : String := (j.data.bind (·.error)).getD ""

end Job

structure NewJob where
  type : JobType
  data : KeyMap String
  deriving DecidableEq

def NewJob.ofType (t : JobType) : NewJob := ⟨t, .empty⟩

end IndexWatch
