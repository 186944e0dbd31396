import IndexWatch.Job.Printer
import IndexWatch.Json.Reader

namespace IndexWatch

open Json (Reader Token DecodeError Tree)
open Json.Reader

def JobStatus.read : Reader JobStatus := JobStatus.ofName <$> string

def JobType.read : Reader JobType := JobType.mk <$> string

structure JobData.Draft where
  error : Option (Option String)
  extra : KeyMap Json

-- Read a member of a job's data. Of members without a meaning the last one under a key counts.
def JobData.Draft.step (room : Nat) (d : Draft) (k : String) : Reader Draft := do
  if k = "error" then
    let e ← once k d.error (optional string)
    return { d with error := e }
  else
    let extra ← gather (value room) d.extra k
    return { d with extra := extra }

-- A job's data. Inside it `room` brackets may be open at a time.
def JobData.read (room : Nat) : Reader JobData := do
  match ← peek with
  | some .openBrace =>
    match room with
    | 0 => malformed .recursionLimit
    | room + 1 =>
      advance
      let d ← members (Draft.step room) ⟨none, .empty⟩
      return ⟨d.error.join, d.extra⟩
  | t => reject "struct JobData" t

namespace Job

structure Draft where
  id : Option String := none
  type : Option JobType := none
  priority : Option Int64 := none
  createAt : Option Int64 := none
  startAt : Option Int64 := none
  lastActivityAt : Option Int64 := none
  status : Option JobStatus := none
  progress : Option Int64 := none
  data : Option (Option JobData) := none

def Draft.step (room : Nat) (d : Draft) (k : String) : Reader Draft := do
  match k with
  | "id" => return { d with id := ← once k d.id string }
  | "type" => return { d with type := ← once k d.type JobType.read }
  | "priority" => return { d with priority := ← once k d.priority int64 }
  | "create_at" => return { d with createAt := ← once k d.createAt int64 }
  | "start_at" => return { d with startAt := ← once k d.startAt int64 }
  | "last_activity_at" => return { d with lastActivityAt := ← once k d.lastActivityAt int64 }
  | "status" => return { d with status := ← once k d.status JobStatus.read }
  | "progress" => return { d with progress := ← once k d.progress int64 }
  | "data" => return { d with data := ← once k d.data (optional (JobData.read room)) }
  | _ => colon; skip; return d

-- The job with the fields that have been read. Numbers that are absent count as zero.
def Draft.finish (d : Draft) : Reader Job := do
  return {
    id := ← require "id" d.id
    type := ← require "type" d.type
    priority := d.priority.getD 0
    createAt := d.createAt.getD 0
    startAt := d.startAt.getD 0
    lastActivityAt := d.lastActivityAt.getD 0
    status := ← require "status" d.status
    progress := d.progress.getD 0
    data := d.data.join }

def fieldsWanted : String := "struct Job with 9 elements"

def readItems (room : Nat) : Reader Job := do
  let id ← requireItem 0 fieldsWanted (← nextItem true string)
  let type ← requireItem 1 fieldsWanted (← nextItem false JobType.read)
  let priority ← nextItem false int64
  let createAt ← nextItem false int64
  let startAt ← nextItem false int64
  let lastActivityAt ← nextItem false int64
  let status ← requireItem 6 fieldsWanted (← nextItem false JobStatus.read)
  let progress ← nextItem false int64
  let data ← nextItem false (optional (JobData.read room))
  endItems
  return {
    id := id
    type := type
    priority := priority.getD 0
    createAt := createAt.getD 0
    startAt := startAt.getD 0
    lastActivityAt := lastActivityAt.getD 0
    status := status
    progress := progress.getD 0
    data := data.join }

def read (room : Nat) : Reader Job := do
  match ← peek, room with
  | some .openBrace, 0 => malformed .recursionLimit
  | some .openBracket, 0 => malformed .recursionLimit
  | some .openBrace, room + 1 =>
    advance
    (← members (Draft.step room) {}).finish
  | some .openBracket, room + 1 => advance; readItems room
  | t, _ => reject "struct Job" t

def decode (s : WireText) : Except DecodeError Job := Json.decode (read Json.maxDepth) s

def readList (room : Nat) : Reader (List Job) := array read room

def decodeList (s : WireText) : Except DecodeError (List Job) :=
  Json.decode (readList Json.maxDepth) s

-- The job of a value. A value is looked at as its lexemes, members in key order; only a sequence
-- with more items than a job has fields is refused for its length.
def ofJson (j : Json) : Except DecodeError Job :=
  match j.asArray? with
  | some items =>
    if 9 < items.length then do
      discard <| Json.decodeTokens (read Json.maxDepth) (Json.array (items.take 9)).tree.tokens
      throw (.wrongLength items.length "fewer elements in array")
    else Json.decodeTokens (read Json.maxDepth) j.tree.tokens
  | none => Json.decodeTokens (read Json.maxDepth) j.tree.tokens

end Job

namespace NewJob

def fieldsWanted : String := "struct NewJob with 2 elements"

def readData (room : Nat) : Reader (KeyMap String) := do
  match ← peek with
  | some .openBrace =>
    match room with
    | 0 => malformed .recursionLimit
    | _ + 1 => advance; members (gather string) .empty
  | t => reject "a map" t

structure Draft where
  type : Option JobType := none
  data : Option (KeyMap String) := none

def Draft.step (room : Nat) (d : Draft) (k : String) : Reader Draft := do
  match k with
  | "type" => return { d with type := ← once k d.type JobType.read }
  | "data" => return { d with data := ← once k d.data (readData room) }
  | _ => colon; skip; return d

def Draft.finish (d : Draft) : Reader NewJob := do
  return ⟨← require "type" d.type, d.data.getD .empty⟩

def readItems (room : Nat) : Reader NewJob := do
  let type ← requireItem 0 fieldsWanted (← nextItem true JobType.read)
  let data ← nextItem false (readData room)
  endItems
  return ⟨type, data.getD .empty⟩

def read (room : Nat) : Reader NewJob := do
  match ← peek, room with
  | some .openBrace, 0 => malformed .recursionLimit
  | some .openBracket, 0 => malformed .recursionLimit
  | some .openBrace, room + 1 =>
    advance
    (← members (Draft.step room) {}).finish
  | some .openBracket, room + 1 => advance; readItems room
  | t, _ => reject "struct NewJob" t

def decode (s : WireText) : Except DecodeError NewJob := Json.decode (read Json.maxDepth) s

end NewJob

end IndexWatch
