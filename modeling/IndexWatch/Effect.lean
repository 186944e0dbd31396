import IndexWatch.Analytics
import IndexWatch.Client.Session

namespace IndexWatch

inductive Outcome where
  | success
  | error
  deriving DecidableEq, Repr

def Outcome.name : Outcome → String
  | success => "success"
  | error => "error"

inductive JobAction where
  | create
  | cancel
  deriving DecidableEq, Repr

def JobAction.name : JobAction → String
  | create => "create"
  | cancel => "cancel"

inductive Effect where
  | log (r : Log.Record)
  | session (e : SessionEvent)
  | usage (e : Analytics.Event)
  | connection (up : Bool)
  | poll (o : Outcome)
  | action (a : JobAction) (o : Outcome)

namespace Effect

-- The log records that are at least so serious.
def records (effects : List Effect) (least : Log.Level := .info) : List Log.Record :=
  effects.filterMap fun
    | log r => if r.level.rank ≤ least.rank then some r else none
    | _ => none

def sessionEvents (effects : List Effect) : List SessionEvent :=
  effects.filterMap fun
    | session e => some e
    | _ => none

def usageEvents (effects : List Effect) : List Analytics.Event :=
  effects.filterMap fun
    | usage e => some e
    | _ => none

abbrev Metrics := KeyMap Nat

def count (m : Metrics) (name : String) : Metrics := m.insert name ((m.get? name).getD 0 + 1)

def measure (m : Metrics) : Effect → Metrics
  | connection up => m.insert "jobwatch_connection_up" (if up then 1 else 0)
  | poll o => count m ("jobwatch_polls_total\x7boutcome=" ++ o.name ++ "\x7d")
  | action a o =>
    count m ("jobwatch_job_actions_total\x7baction=" ++ a.name ++ ",outcome=" ++ o.name ++ "\x7d")
  | _ => m

def metrics (effects : List Effect) : Metrics := effects.foldl measure .empty

end Effect

end IndexWatch
