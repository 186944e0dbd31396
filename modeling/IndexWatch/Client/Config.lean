import IndexWatch.Job.Basic
import IndexWatch.Text.Blank
import IndexWatch.Url.Reader

namespace IndexWatch

structure Config where
  serverUrl : String := "http://localhost:8065"
  token : Option String := none
  jobType : String := JobType.postIndexing.name
  pollIntervalSecs : UInt64 := 15
  requestTimeoutSecs : UInt64 := 10
  perPage : UInt32 := 100
  segmentKey : Option String := none
  configured : Bool := true
  deriving DecidableEq

inductive ConfigError where
  | invalidServerUrl (url : String) (reason : Url.Error)
  | unsupportedScheme (scheme : String)
  | zeroPollInterval
  | zeroRequestTimeout
  | invalidPageSize (size : Nat)
  | emptyJobType
  deriving DecidableEq, Repr

def ConfigError.message : ConfigError → String
  | invalidServerUrl url reason => "Invalid server URL '" ++ url ++ "': " ++ reason.message
  | unsupportedScheme scheme =>
    "Unsupported URL scheme '" ++ scheme ++ "' (expected http or https)"
  | zeroPollInterval => "Poll interval must be at least one second"
  | zeroRequestTimeout => "Request timeout must be at least one second"
  | invalidPageSize size => "Page size must be between 1 and 200, got " ++ toString size
  | emptyJobType => "Job type must not be empty"

structure StatusSettings where
  jobType : JobType := default
  -- Milliseconds between two polls.
  pollInterval : Nat := 15000
  isConfigured : Bool := true
  deriving DecidableEq

def StatusSettings.pollIntervalSecs (s : StatusSettings) : Nat := s.pollInterval / 1000

namespace Config

def maxPerPage : UInt32 := 200

def validate (c : Config) : Except ConfigError Unit := do
  let url ← (Url.parse c.serverUrl).mapError (.invalidServerUrl c.serverUrl)
  if !url.isHttp then throw (.unsupportedScheme (String.ofList url.scheme))
  if c.pollIntervalSecs = 0 then throw .zeroPollInterval
  if c.requestTimeoutSecs = 0 then throw .zeroRequestTimeout
  if c.perPage = 0 ∨ maxPerPage < c.perPage then throw (.invalidPageSize c.perPage.toNat)
  if (trimBlank c.jobType).isEmpty then throw .emptyJobType

def watched (c : Config) : JobType := ⟨trimBlank c.jobType⟩

-- The developer key. An empty one counts as none.
def key (c : Config) : Option String := c.segmentKey.filter (!·.isEmpty)

def statusSettings (c : Config) : StatusSettings where
  jobType := c.watched
  pollInterval := c.pollIntervalSecs.toNat * 1000
  isConfigured := c.configured

end Config

end IndexWatch
