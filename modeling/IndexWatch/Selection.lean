import IndexWatch.Job.Basic

namespace IndexWatch.Job

def chooseBy {α : Type} (status : α → JobStatus) (l : List α) : Option α :=
  match l.find? fun a => (status a).isRunning with
  | some a => some a
  | none =>
    match l.reverse.find? fun a => status a ≠ .pending with
    | some a => some a
    | none => l.getLast?

def choose (jobs : List Job) : Option Job := chooseBy Job.status jobs

def chosenIndex (jobs : List Job) : Option Nat :=
  (chooseBy (fun p => p.1.status) jobs.zipIdx).map (·.2)

-- The jobs from the oldest to the newest. Jobs created at the same time keep their order.
def order (jobs : List Job) : List Job :=
  jobs.mergeSort fun a b => a.createAt.toInt ≤ b.createAt.toInt

end IndexWatch.Job
