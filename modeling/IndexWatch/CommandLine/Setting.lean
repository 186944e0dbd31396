import IndexWatch.Client.Config
import IndexWatch.Log.Format

namespace IndexWatch.CommandLine

inductive UsageError where
  | help
  | nothingGiven
  | missingCommand
  | unknownCommand
  | unknownArgument
  -- No value is given, or none of those that are possible.
  | invalidValue
  | malformedValue
  | unwantedValue
  | repeated
  deriving DecidableEq, Repr

inductive CommandName where
  | status
  | watch
  | create
  | cancel
  | jobs
  deriving DecidableEq, Repr

def CommandName.ofWord? : String → Option CommandName
  | "status" => some status
  | "watch" => some watch
  | "create" => some create
  | "cancel" => some cancel
  | "jobs" => some jobs
  | _ => none

inductive Setting where
  | serverUrl
  | token
  | jobType
  | pollInterval
  | requestTimeout
  | perPage
  | segmentKey
  | configured
  | logFormat
  | logFile
  | timeout
  deriving DecidableEq, Repr

namespace Setting

def all : List Setting :=
  [serverUrl, token, jobType, pollInterval, requestTimeout, perPage, segmentKey, configured,
    logFormat, logFile, timeout]

def name : Setting → String
  | serverUrl => "server-url"
  | token => "token"
  | jobType => "job-type"
  | pollInterval => "poll-interval-secs"
  | requestTimeout => "request-timeout-secs"
  | perPage => "per-page"
  | segmentKey => "segment-key"
  | configured => "configured"
  | logFormat => "log-format"
  | logFile => "log-file"
  | timeout => "timeout-secs"

def ofName? (name : List Char) : Option Setting := all.find? (·.name.toList = name)

def environmentName? : Setting → Option String
  | serverUrl => "JOBWATCH_SERVER_URL"
  | token => "JOBWATCH_TOKEN"
  | jobType => "JOBWATCH_JOB_TYPE"
  | segmentKey => "JOBWATCH_SEGMENT_KEY"
  | configured => "JOBWATCH_CONFIGURED"
  | _ => none

-- Whether a setting may stand behind a command, or in front of it where there is none.
def isAllowed (command : Option CommandName) : Setting → Bool
  | logFormat => true
  | logFile => true
  | timeout => command == some .status
  | _ => command.isNone

abbrev Value : Setting → Type
  | serverUrl => String
  | token => String
  | jobType => String
  | pollInterval => UInt64
  | requestTimeout => UInt64
  | perPage => UInt32
  | segmentKey => String
  | configured => Bool
  | logFormat => Log.Format
  | logFile => String
  | timeout => UInt64

def readUInt64 (s : String) : Except UsageError UInt64 :=
  match Numeral.readBelow? UInt64.size s.toList with
  | some n => .ok (UInt64.ofNat n)
  | none => .error .malformedValue

-- A whole number of 32 bits. Zero may have a minus sign.
def readUInt32 (s : String) : Except UsageError UInt32 :=
  match s.toList with
  | '-' :: digits => if Numeral.read? 10 digits = some 0 then .ok 0 else .error .malformedValue
  | cs =>
    match Numeral.readBelow? UInt32.size cs with
    | some n => .ok (UInt32.ofNat n)
    | none => .error .malformedValue

def read : (s : Setting) → String → Except UsageError s.Value
  | serverUrl, v => .ok v
  | token, v => .ok v
  | jobType, v => .ok v
  | pollInterval, v => readUInt64 v
  | requestTimeout, v => readUInt64 v
  | perPage, v => readUInt32 v
  | segmentKey, v => .ok v
  | configured, v =>
    match v with
    | "true" => .ok true
    | "false" => .ok false
    | _ => .error .invalidValue
  | logFormat, v => (Log.Format.read v).mapError fun _ => .malformedValue
  | logFile, v => if v.isEmpty then .error .invalidValue else .ok v
  | timeout, v => readUInt64 v

end Setting

abbrev Given := (s : Setting) → Option s.Value

namespace Given

def none : Given := fun _ => Option.none

def set (g : Given) (s : Setting) (v : s.Value) : Given := fun t =>
  if h : s = t then some (h ▸ v) else g t

def orElse (g h : Given) : Given := fun s => (g s).or (h s)

def isGiven (g : Given) (s : Setting) : Bool := (g s).isSome

def isEmpty (g : Given) : Bool := Setting.all.all fun s => !g.isGiven s

end Given

end IndexWatch.CommandLine
