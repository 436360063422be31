import SemanticLayer.Execution.Basic

/-!
Settings are read from variables of the surroundings. A variable that is missing stands for a
default, and so does a blank one where a whole number is expected; what cannot be read is a fault. One
of them is how severe a message has to be for the log to keep it; the parts of the program each have a
log of their own.
-/

namespace SemanticLayer

open Text

inductive Severity where
  | all
  | debug
  | info
  | warning
  | error
  | critical
  deriving Repr, DecidableEq

namespace Severity

def name : Severity → String
  | .all => "NOTSET"
  | .debug => "DEBUG"
  | .info => "INFO"
  | .warning => "WARNING"
  | .error => "ERROR"
  | .critical => "CRITICAL"

/-- The severities that can be asked for, in their order. -/
def choices : List Severity := [.debug, .info, .warning, .error, .critical]

/-- The severity that logs know under a name; two of them have a second name. -/
def ofName? (name : String) : Option Severity :=
  if name == "WARN" then some .warning
  else if name == "FATAL" then some .critical
  else (Severity.all :: choices).find? fun severity => severity.name == name

end Severity

/-- The names of the logs. -/
def logNames : List String :=
  ["main", "bigquery_client", "column_profiler", "database", "model_catalog", "query_executor",
    "query_planner", "relationship_inference", "scoped_sql_guard", "sql_validator"]

/-- What each log keeps, once a severity is set by its name. A `none` says that no severity has the
name. -/
def logSeverities (name : String) : Option (List (String × Severity)) :=
  (Severity.ofName? name).map fun severity => logNames.map fun log => (log, severity)

/-- The values of the variables around the program, by name. -/
abbrev Environment := String → Option String

structure Settings where
  /-- Where the relational store is. -/
  storeUrl : Option String
  warehouseBase : String
  warehouseProject : Option String
  warehouseToken : Option String
  limits : RowLimits
  /-- How many values of a column are compared with those of another one. -/
  distinctLimit : Int
  /-- Where browsers may call from. -/
  origins : List String
  severity : Severity
  deriving Repr, DecidableEq

/-- Why settings cannot be read. -/
inductive SettingFault where
  | unknownSeverity (name : String)
  | notInteger (key text : String)
  deriving Repr, DecidableEq

def SettingFault.message : SettingFault → String
  | .unknownSeverity name =>
    "LOG_LEVEL must be one of " ++ ", ".intercalate (Severity.choices.map Severity.name) ++
      ", got " ++ quoted name
  | .notInteger key text => key ++ " must be an integer, got " ++ quoted text

namespace Settings

/-- A whole number from a variable. -/
def readInteger (env : Environment) (key : String) (absent : Int) : Except SettingFault Int :=
  match env key with
  | none => .ok absent
  | some text =>
    if (trim text).isEmpty then .ok absent
    else (Decimal.readInt text).mapError fun _ => .notInteger key text

def readSeverity (env : Environment) : Except SettingFault Severity :=
  let name := upper (trim ((env "LOG_LEVEL").getD Severity.info.name))
  match Severity.choices.find? fun severity => severity.name == name with
  | some severity => .ok severity
  | none => .error (.unknownSeverity name)

/-- The parts between commas that are more than blanks. -/
def splitList (text : String) : List String :=
  ((text.splitOn ",").map trim).filter fun part => !part.isEmpty

def withoutStrokes (text : String) : String :=
  String.ofList (dropRight (· == '/') text.toList)

def read (env : Environment) : Except SettingFault Settings := do
  let severity ← readSeverity env
  let default ← readInteger env "QUERY_DEFAULT_LIMIT" 1000
  let max ← readInteger env "QUERY_MAX_LIMIT" 5000
  let distinctLimit ← readInteger env "PROFILE_DISTINCT_LIMIT" 20000
  return {
    storeUrl := env "DATABASE_URL"
    warehouseBase := withoutStrokes ((env "BIGQUERY_API_BASE").getD
      (WarehouseClient.defaultBase))
    warehouseProject := presentText (env "BIGQUERY_PROJECT_ID")
    warehouseToken := presentText (env "BIGQUERY_ACCESS_TOKEN")
    limits := ⟨default, max⟩, distinctLimit
    origins := splitList ((env "CORS_ORIGINS").getD "*"), severity }

/-- Whether queries may run on the warehouse. -/
def usesWarehouse (settings : Settings) : Bool :=
  settings.warehouseToken.isSome

/-- The names of the engines that queries may run on. -/
def engineNames (settings : Settings) : List String :=
  postgresEngine :: if settings.usesWarehouse then [bigQueryEngine] else []

def toJson (settings : Settings) : Json :=
  .object
    [("database_url", .ofText? settings.storeUrl),
      ("bigquery_api_base", .text settings.warehouseBase),
      ("bigquery_project_id", .ofText? settings.warehouseProject),
      ("bigquery_access_token", .ofText? settings.warehouseToken),
      ("query_default_limit", .int settings.limits.default),
      ("query_max_limit", .int settings.limits.max),
      ("profile_distinct_limit", .int settings.distinctLimit),
      ("cors_origins", .ofTexts settings.origins), ("log_level", .text settings.severity.name),
      ("bigquery_enabled", .bool settings.usesWarehouse),
      ("enabled_engines", .ofTexts settings.engineNames)]

end Settings

end SemanticLayer
