import IndexWatch.Log.Record

namespace IndexWatch.Analytics

-- What goes along with a diagnostics event to keep its sender unknown.
structure Options where
  ip : String
  path : String
  referrer : String
  search : String
  title : String
  url : String
  deriving DecidableEq, Repr

def Options.anonymous : Options := ⟨"0.0.0.0", "", "", "", "", ""⟩

def Options.toJson (o : Options) : Json := .ofMembers [
  ("context", .ofMembers [("ip", .string o.ip)]),
  ("page", .ofMembers [("path", .string o.path), ("referrer", .string o.referrer),
    ("search", .string o.search), ("title", .string o.title), ("url", .string o.url)])]

inductive Event where
  | track (name : String) (properties : KeyMap Json) (options : Option Options)
  | page

inductive Call where
  | legacyTrack (category action label property value : String)
  | legacyPage
  | diagnostics (category event : String) (properties : KeyMap Json)

-- The event of a call. Properties given with a diagnostics call override its category and type.
def Call.event : Call → Event
  | .legacyTrack category action label property value =>
    .track action (.ofList [("category", .string category), ("label", .string label),
      ("property", .string property), ("value", .string value)]) none
  | .legacyPage => .page
  | .diagnostics category event properties =>
    .track "event"
      ((KeyMap.ofList [("category", .string category), ("type", .string event)]).union properties)
      (some .anonymous)

def Call.isLegacy : Call → Bool
  | .legacyTrack .. => true
  | .legacyPage => true
  | .diagnostics .. => false

end Analytics

-- Where usage events go. Without a port they go nowhere. An empty developer key counts as none.
structure Analytics (Port : Type) where
  port : Option Port
  key : Option String

namespace Analytics

variable {Port : Type}

def new (port : Option Port) (key : Option String) : Analytics Port :=
  ⟨port, key.filter (!·.isEmpty)⟩

def disabled : Analytics Port := ⟨none, none⟩

def events (a : Analytics Port) (c : Call) : List Event :=
  if a.port.isSome && a.key.isSome == c.isLegacy then [c.event] else []

def description (a : Analytics Port) : String :=
  "Analytics \x7b port: " ++ toString a.port.isSome ++ ", developer_key: " ++
    toString a.key.isSome ++ " \x7d"

def optionsJson : Option Options → Json
  | some o => o.toJson
  | none => .null

def Event.record : Event → Log.Record
  | .track name properties options => {
      level := .info
      target := "jobwatch::analytics"
      message := "track"
      fields := [("event", .text name), ("properties", .text (Json.object properties).text),
        ("options", .text (optionsJson options).text)] }
  | .page => ⟨.info, "jobwatch::analytics", "page", []⟩

end Analytics

end IndexWatch
