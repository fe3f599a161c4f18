import NodeBridge.Json.Basic

/-!
Settings of a client. They come from a document that names some of them; the rest keep
their usual values. Values are taken as they are, and only a client that is made from them
looks at its numbers. The environment may name another endpoint.
-/

namespace NodeBridge

structure Settings where
  endpoint : Json
  pipeline : Json
  saveInterval : Json
  reconnect : Json
  minSlot : Json
  /-- The file of the checkpoints; an empty one means that none are kept. -/
  store : Json
  logLevel : Json
deriving DecidableEq

inductive SettingsError where
  /-- The document in a file is not an object. -/
  | notMapping (path : String)
  | unknownKeys (keys : List String)
  | belowOne (key : String)
  /-- A value that should be a number is none. -/
  | notNumber (key : String)
  /-- A value that should be a text is none. -/
  | notText (key : String)
  /-- A value that should name a file does not. -/
  | notPath (key : String)
deriving DecidableEq, Repr

def SettingsError.message? : SettingsError → Option String
  | .notMapping path => some s!"{path}: expected a mapping at the top level"
  | .unknownKeys keys => some ("unknown config keys: " ++ ", ".intercalate keys)
  | .belowOne key => some s!"{key} must be at least 1"
  | .notNumber _ => none
  | .notText _ => none
  | .notPath _ => none

namespace Settings

def defaultEndpoint : String := "ws://127.0.0.1:1337"

def usual : Settings :=
  { endpoint := .text defaultEndpoint, pipeline := .int 50, saveInterval := .int 10000,
    reconnect := .bool false, minSlot := .int 0, store := .text "", logLevel := .text "INFO" }

def keys : List String :=
  ["endpoint", "pipeline", "save_interval", "reconnect", "min_slot", "store", "log_level"]

/-- The value of a key, or the usual one if the document does not have the key. -/
def valueOr (fields : Fields) (key : String) (usual : Json) : Json :=
  (fields.lookup key).getD usual

/-- The keys that are not known, in order. -/
def unknownKeys (fields : Fields) : List String :=
  ((fields.map Prod.fst).filter fun key => !keys.contains key).mergeSort
    fun left right => !decide (right < left)

def ofFields (fields : Fields) : Except SettingsError Settings :=
  match unknownKeys fields with
  | [] =>
      .ok
        { endpoint := valueOr fields "endpoint" usual.endpoint
          pipeline := valueOr fields "pipeline" usual.pipeline
          saveInterval := valueOr fields "save_interval" usual.saveInterval
          reconnect := valueOr fields "reconnect" usual.reconnect
          minSlot := valueOr fields "min_slot" usual.minSlot
          store := valueOr fields "store" usual.store
          logLevel := valueOr fields "log_level" usual.logLevel }
  | unknown => .error (.unknownKeys unknown)

/-- Reads a document from a file. A document that says nothing counts as empty. -/
def ofDocument (path : String) (document : Json) : Except SettingsError Settings :=
  if !document.isTruthy then ofFields []
  else
    match document with
    | .object fields => ofFields fields
    | _ => .error (.notMapping path)

/-- Another endpoint, unless it is empty. -/
def withEndpoint (settings : Settings) (endpoint : String) : Settings :=
  if endpoint.isEmpty then settings else { settings with endpoint := .text endpoint }

def toJson (settings : Settings) : Json :=
  .object [("endpoint", settings.endpoint), ("pipeline", settings.pipeline),
    ("save_interval", settings.saveInterval), ("reconnect", settings.reconnect),
    ("min_slot", settings.minSlot), ("store", settings.store),
    ("log_level", settings.logLevel)]

/-- Whether a number is below one. Truth values count as one and zero. -/
def belowOne (key : String) (value : Json) : Except SettingsError Bool :=
  match value with
  | .int value => .ok (decide (value < 1))
  | .bool value => .ok !value
  | .float value =>
      .ok (!value.isNaN && (value.isNegative || decide (value.exponentBits < 1023)))
  | _ => .error (.notNumber key)

def checkNumber (key : String) (value : Json) : Except SettingsError Unit := do
  if ← belowOne key value then .error (.belowOne key) else .ok ()

def check (settings : Settings) : Except SettingsError Unit := do
  checkNumber "pipeline" settings.pipeline
  checkNumber "save_interval" settings.saveInterval

def address (settings : Settings) : Except SettingsError String :=
  match settings.endpoint with
  | .text address => .ok address
  | _ => .error (.notText "endpoint")

/-- The file of the checkpoints, unless none are kept. -/
def checkpointPath (settings : Settings) : Except SettingsError (Option String) :=
  match settings.store with
  | .text path => .ok (if path.isEmpty then none else some path)
  | other => if other.isTruthy then .error (.notPath "store") else .ok none

/-- The level of logging has to be a text, unless everything is logged anyway. -/
def checkLevel (settings : Settings) (verbose : Bool) : Except SettingsError Unit :=
  match verbose, settings.logLevel with
  | true, _ => .ok ()
  | false, .text _ => .ok ()
  | false, _ => .error (.notText "log_level")

/-- The whole part of a number; what is no number counts as zero. -/
def whole : Json → Int
  | .int value => value
  | .bool value => if value then 1 else 0
  | .float value => value.truncate?.getD 0
  | _ => 0

end Settings

end NodeBridge
