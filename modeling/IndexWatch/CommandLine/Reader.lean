import IndexWatch.CommandLine.Setting

namespace IndexWatch

namespace CommandLine

inductive Word where
  | dashes
  | long (name : List Char) (value : Option (List Char))
  | short (letter : Char)
  | plain
  deriving DecidableEq, Repr

def attached : List Char → Option (List Char)
  | '=' :: value => some value
  | _ => none

def Word.read (w : String) : Word :=
  match w.toList with
  | ['-', '-'] => .dashes
  | '-' :: '-' :: rest => .long (rest.takeWhile (· ≠ '=')) (attached (rest.dropWhile (· ≠ '=')))
  | '-' :: c :: _ => .short c
  | _ => .plain

-- What has been read of the words at one level: in front of the command or behind it.
structure Scan where
  given : Given
  pending : Option (Setting × Option String)
  trailing : Bool

namespace Scan

def start : Scan := ⟨.none, none, false⟩

def put (s : Scan) (t : Setting) (v : String) : Except UsageError Scan := do
  if s.given.isGiven t then throw .repeated
  return { s with given := s.given.set t (← t.read v) }

def resolve (s : Scan) : Except UsageError Scan :=
  match s.pending with
  | none => .ok s
  | some (_, none) => .error .invalidValue
  | some (t, some v) => { s with pending := none }.put t v

def awaitsValue (s : Scan) : Bool :=
  match s.pending with
  | some (_, none) => !s.trailing
  | _ => false

end Scan

-- The outcome of `help` with words behind it: each has to be a command, and a command has no
-- commands of its own.
def helpFor : List String → UsageError
  | [] => .help
  | [w] => if (CommandName.ofWord? w).isSome || w == "help" then .help else .unknownCommand
  | _ => .unknownCommand

def unexpected (command : Option CommandName) (trailing : Bool) (w : String) : UsageError :=
  match command with
  | some _ => .unknownArgument
  | none =>
    if trailing && ((CommandName.ofWord? w).isSome || w == "help") then .unknownArgument
    else .unknownCommand

def takeLong (command : Option CommandName) (s : Scan) (name : List Char)
    (value : Option (List Char)) : Except UsageError Scan := do
  if name = "help".toList then
    if value.isSome then throw .unwantedValue
    discard s.resolve
    throw .help
  match (Setting.ofName? name).filter (·.isAllowed command) with
  | none => throw .unknownArgument
  | some t =>
    let s ← s.resolve
    match value with
    | some v => s.put t (String.ofList v)
    | none => return { s with pending := some (t, none) }

-- Read the words of one level. In front of the command this stops at the command and gives it back
-- with the words behind it.
def scan (command : Option CommandName) (s : Scan) :
    List String → Except UsageError (Scan × Option (CommandName × List String))
  | [] => return (s, none)
  | w :: rest => do
    if s.trailing then throw (unexpected command true w)
    if command.isNone && !s.awaitsValue then
      if let some c := CommandName.ofWord? w then return (s, some (c, rest))
      if w = "help" then throw (helpFor rest)
    match Word.read w with
    | .dashes => scan command { s with trailing := true } rest
    | .long name value => scan command (← takeLong command s name value) rest
    | .short c =>
      if c = 'h' then
        discard s.resolve
        throw .help
      throw .unknownArgument
    | .plain =>
      match s.pending with
      | some (t, none) => scan command { s with pending := some (t, some w) } rest
      | _ => throw (unexpected command false w)

inductive Command where
  | status (timeoutSecs : UInt64)
  | watch
  | create
  | cancel
  | jobs
  deriving DecidableEq, Repr

abbrev Environment := String → Option String

-- What the environment gives for the settings that `given` leaves open. Only a truth value can be
-- written wrongly there.
def fromEnvironment (env : Environment) (given : Given) : Except UsageError Given := do
  let value (s : Setting) : Option String :=
    if given.isGiven s then none else s.environmentName?.bind env
  let configured ← (value .configured).mapM (Setting.configured.read ·)
  return fun
    | .serverUrl => value .serverUrl
    | .token => value .token
    | .jobType => value .jobType
    | .segmentKey => value .segmentKey
    | .configured => configured
    | _ => none

def configOf (g : Given) : Config :=
  let start : Config := {}
  { serverUrl := (g .serverUrl).getD start.serverUrl
    token := g .token
    jobType := (g .jobType).getD start.jobType
    pollIntervalSecs := (g .pollInterval).getD start.pollIntervalSecs
    requestTimeoutSecs := (g .requestTimeout).getD start.requestTimeoutSecs
    perPage := (g .perPage).getD start.perPage
    segmentKey := g .segmentKey
    configured := (g .configured).getD start.configured }

def defaultTimeout : UInt64 := 30

def commandOf (name : CommandName) (g : Given) : Command :=
  match name with
  | .status => .status ((g .timeout).getD defaultTimeout)
  | .watch => .watch
  | .create => .create
  | .cancel => .cancel
  | .jobs => .jobs

end CommandLine

structure CommandLine where
  command : CommandLine.Command
  config : Config
  logFormat : Log.Format
  logFile : Option String

namespace CommandLine

-- Read a command line. Behind a command its own words are read first, and then what is left open in
-- front of it.
def read (words : List String) (env : Environment) : Except UsageError CommandLine := do
  let (front, rest) ← scan none .start words
  let behind ← rest.mapM fun (name, words) => do
    let (s, _) ← scan (some name) .start words
    return (name, (← s.resolve).given)
  let given := (← front.resolve).given
  let fromEnv ← fromEnvironment env given
  match behind with
  | none => throw (if (given.orElse fromEnv).isEmpty then .nothingGiven else .missingCommand)
  | some (name, own) =>
    let all := own.orElse (given.orElse fromEnv)
    return {
      command := commandOf name own
      config := configOf all
      logFormat := (all .logFormat).getD default
      logFile := all .logFile }

end CommandLine

end IndexWatch
