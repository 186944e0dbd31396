import IndexWatch.Effect
import IndexWatch.Proofs.KeyMap

namespace IndexWatch

def Outcome.of {ε α : Type} : Except ε α → Outcome
  | .ok _ => .success
  | .error _ => .error

namespace Effect

def polls (effects : List Effect) : List Outcome :=
  effects.filterMap fun
    | poll o => some o
    | _ => none

def actions (effects : List Effect) : List (JobAction × Outcome) :=
  effects.filterMap fun
    | action a o => some (a, o)
    | _ => none

end Effect

end IndexWatch
