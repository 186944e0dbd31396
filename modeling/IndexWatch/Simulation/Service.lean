import IndexWatch.Status.Controller

namespace IndexWatch.Simulation

inductive Kind where
  | fetch
  | create
  | cancel
  deriving DecidableEq, Repr

def Kind.name : Kind → String
  | fetch => "fetch"
  | create => "create"
  | cancel => "cancel"

def Kind.of : ServiceCall → Kind
  | .fetch _ => fetch
  | .create _ => create
  | .cancel _ => cancel

structure Service where
  jobs : List Job := []
  fetchError : Option ClientError := none
  createError : Option ClientError := none
  cancelError : Option ClientError := none
  hold : List Kind := []

namespace Service

-- The point of creation of the next job: behind that of all others, as far as numbers go.
def nextCreateAt (s : Service) : Int64 :=
  match (s.jobs.map (·.createAt.toInt)).max? with
  | none => 1
  | some newest => Int64.ofInt (min (newest + 1) Int64.maxValue.toInt)

def newJob (s : Service) (job : NewJob) : Job :=
  (Job.new ("job-" ++ toString (s.jobs.length + 1)) job.type .pending).withCreateAt s.nextCreateAt

def updateFirst (id : String) (f : Job → Job) : List Job → List Job
  | [] => []
  | j :: rest => if j.id = id then f j :: rest else j :: updateFirst id f rest

def answer (s : Service) : ServiceCall → Service × Answer
  | .fetch _ =>
    match s.fetchError with
    | some e => (s, .fetched (.error e))
    | none => (s, .fetched (.ok s.jobs))
  | .create job =>
    match s.createError with
    | some e => (s, .created (.error e))
    | none => ({ s with jobs := s.jobs ++ [s.newJob job] }, .created (.ok (s.newJob job)))
  | .cancel id =>
    match s.cancelError with
    | some e => (s, .cancelled (.error e))
    | none =>
      ({ s with jobs := updateFirst id (fun j => { j with status := .cancelRequested }) s.jobs },
        .cancelled (.ok ()))

end Service

end IndexWatch.Simulation
