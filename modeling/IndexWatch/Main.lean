import IndexWatch.CommandLine.Run
import Std.Time.Format

namespace IndexWatch.Main

def replyOf (line : String) : Reply :=
  match Json.parse (.ofString line) with
  | .ok j =>
    match (j.get? "status").bind (·.asInt?), (j.get? "body").bind (·.asString?) with
    | some status, some body => .answer status.toNat (utf8Bytes body)
    | _, _ => .unanswered
  | .error _ => .unanswered

-- The environment variables that the program looks at.
def variableNames : List String :=
  "RUST_LOG" :: CommandLine.Setting.all.filterMap (·.environmentName?)

def environment : IO CommandLine.Environment := do
  let entries ← variableNames.mapM fun name => return (name, ← IO.getEnv name)
  return fun name => (entries.lookup name).join

def usage : String := "usage: jobwatch [settings] status|watch|create|cancel|jobs [settings]"

-- Print what a run has come to, with the records that are shown, and give back the exit code.
def report (c : CommandLine) (file : Option Log.File) (records : List Log.Record)
    (o : CommandLine.Outcome) : IO UInt32 := do
  for r in records do IO.eprintln (c.logFormat.line r)
  if let some file := file then
    unless file.directory.isEmpty do IO.FS.createDirAll file.directoryPath
    let log ← IO.FS.Handle.mk (file.pathOn (toString (← Std.Time.PlainDate.now))) .append
    for r in records do log.putStrLn (Log.Format.json.line r)
  for s in o.stdout do IO.println s
  for s in o.stderr do IO.eprintln s
  return o.ending.exitCode.toUInt32

end IndexWatch.Main

open IndexWatch in
def main (words : List String) : IO UInt32 := do
  let env ← Main.environment
  match CommandLine.read words env with
  | .error .help =>
    IO.println Main.usage
    return 0
  | .error _ =>
    IO.eprintln Main.usage
    return 2
  | .ok c =>
    let input ← IO.getStdin
    let jobs := Main.replyOf (← input.getLine)
    let own := Main.replyOf (← input.getLine)
    let filter := env "RUST_LOG"
    let server : CommandLine.Server := ⟨some jobs, own, own⟩
    Main.report c (c.fileLeft? filter) (c.shownRecords filter server) (c.run filter server)
