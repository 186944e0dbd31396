import IndexWatch.Job.Basic
import IndexWatch.Json.Printer

namespace IndexWatch

open Json (Tree Number)

-- What the worker noted, the error in front and the other members in key order.
def JobData.toTree (d : JobData) : Tree :=
  .object
    ((d.error.map fun e => ("error", Tree.string e)).toList ++ (d.extra.map Json.tree).entries)

namespace Job

-- The members of a job that are always there.
def fixedMembers (j : Job) : List (String × Tree) :=
  [("id", .string j.id),
   ("type", .string j.type.name),
   ("priority", .number (.ofInt64 j.priority)),
   ("create_at", .number (.ofInt64 j.createAt)),
   ("start_at", .number (.ofInt64 j.startAt)),
   ("last_activity_at", .number (.ofInt64 j.lastActivityAt)),
   ("status", .string j.status.name),
   ("progress", .number (.ofInt64 j.progress))]

def toTree (j : Job) : Tree :=
  .object (j.fixedMembers ++ (j.data.map fun d => ("data", d.toTree)).toList)

def encode (j : Job) : String := String.ofList j.toTree.compact

def prettyList (jobs : List Job) : String := String.ofList (Tree.array (jobs.map toTree)).pretty

end Job

namespace NewJob

def toTree (n : NewJob) : Tree :=
  .object (("type", .string n.type.name) ::
    if n.data.isEmpty then []
    else [("data", .object (n.data.map Tree.string).entries)])

def encode (n : NewJob) : String := String.ofList n.toTree.compact

end NewJob

end IndexWatch
