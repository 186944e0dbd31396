import IndexWatch.Client.Api
import IndexWatch.Job.Reader

namespace IndexWatch

-- A job service that is reached through a client.
structure JobService where
  client : ApiClient
  perPage : Nat

namespace JobService

def jobsPath (type : JobType) : String :=
  "/api/v4/jobs/type/" ++ String.ofList (Percent.segment type.name)

def createPath : String := "/api/v4/jobs"

def cancelPath (id : String) : String :=
  "/api/v4/jobs/" ++ String.ofList (Percent.segment id) ++ "/cancel"

-- The first page of the jobs of a kind.
def fetch (s : JobService) (type : JobType) (reply : Reply) : Exchange (List Job) :=
  s.client.get (Job.readList Json.maxDepth) (jobsPath type)
    [("page", "0"), ("per_page", toString s.perPage)] reply

def create (s : JobService) (job : NewJob) (reply : Reply) : Exchange Job :=
  s.client.post (Job.read Json.maxDepth) createPath job.encode reply

def cancel (s : JobService) (id : String) (reply : Reply) : Exchange Unit :=
  s.client.postEmpty (cancelPath id) reply

end JobService

end IndexWatch
