namespace IndexWatch

inductive SessionEvent where
  | connectionLost
  | reconnected
  | loggedOut (path : String)
  | reloadRequired
  deriving DecidableEq, Repr

namespace SessionEvent

inductive Notice where
  | event (e : SessionEvent)
  | lagged (count : Nat)
  deriving DecidableEq, Repr

def capacity : Nat := 32

-- What a subscriber reads that has not read any of these events before. The oldest events are lost
-- where there are too many.
def notices (events : List SessionEvent) : List Notice :=
  let lost := events.length - capacity
  (if lost = 0 then [] else [.lagged lost]) ++ (events.drop lost).map .event

end SessionEvent

end IndexWatch
