namespace IndexWatch

def splitBy (isBreak : Char → Bool) : List Char → List (List Char)
  | [] => [[]]
  | c :: rest =>
    if isBreak c then [] :: splitBy isBreak rest
    else match splitBy isBreak rest with
      | [] => [[c]]
      | piece :: pieces => (c :: piece) :: pieces

end IndexWatch
