import IndexWatch.Status.State

namespace IndexWatch

inductive StatusChange where
  | done (s : StatusState)
  | broken (s : StatusState)

structure StatusStore where
  isConfigured : Bool
  kept : StatusState
  published : StatusSnapshot
  publications : Nat
  disposed : Bool
  poisoned : Bool

namespace StatusStore

def new (isConfigured : Bool) : StatusStore where
  isConfigured := isConfigured
  kept := {}
  published := StatusState.snapshot {} isConfigured
  publications := 0
  disposed := false
  poisoned := false

-- Apply a change, and tell whether it was applied. A change that breaks off poisons the store.
def update (s : StatusStore) (change : StatusState → StatusChange) : StatusStore × Bool :=
  if s.poisoned || s.disposed then (s, false)
  else match change s.kept with
    | .done state => ({ s with
        kept := state
        published := state.snapshot s.isConfigured
        publications := s.publications + 1 }, true)
    | .broken state => ({ s with kept := state, poisoned := true }, false)

def breaks (s : StatusStore) (change : StatusState → StatusChange) : Bool :=
  !(s.poisoned || s.disposed) &&
    match change s.kept with
    | .done _ => false
    | .broken _ => true

def modify (s : StatusStore) (f : StatusState → StatusState) : StatusStore × Bool :=
  s.update fun state => .done (f state)

def dispose (s : StatusStore) : StatusStore × Bool :=
  if s.poisoned then (s, false) else ({ s with disposed := true }, !s.disposed)

def isDisposed (s : StatusStore) : Bool := s.poisoned || s.disposed

-- The state as readers see it: that of a new store, where a change has failed midway.
def state (s : StatusStore) : StatusState := if s.poisoned then {} else s.kept

def chosen (s : StatusStore) : Option Job := if s.poisoned then none else s.kept.chosen

def snapshot (s : StatusStore) : StatusSnapshot := s.published

end StatusStore

end IndexWatch
