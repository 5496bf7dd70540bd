import ProxyConsole.FileRead
import ProxyConsole.Grid
import ProxyConsole.Text.Split
import ProxyConsole.Toml.Document
import ProxyConsole.Toml.Fields

/-!
# Configuration

Each setting comes from a variable of the environment, else from the configuration file, else it has
a standard value. A variable that is set and cannot be read is an error and never passed over. After
that the TCP port must not be zero and the column count must be positive.
-/

namespace ProxyConsole

structure Config where
  host : String := "0.0.0.0"
  port : UInt16 := 3000
  columnsPerRow : Int := 3
  seedPath : Option String := none
  filter : String := "ssmgrd=info,ssmgr=info,tower_http=debug"
  deriving DecidableEq

/-! ## Variables of the environment -/

/-- The variables that are looked at. The shared log variable is not the console's own. -/
inductive Variable where
  | config
  | host
  | port
  | bind
  | columns
  | seed
  | log
  | sharedLog
  deriving DecidableEq

namespace Variable

def name : Variable → String
  | config => "SSMGR_CONFIG"
  | host => "SSMGR_HOST"
  | port => "SSMGR_PORT"
  | bind => "SSMGR_BIND"
  | columns => "SSMGR_COLUMNS"
  | seed => "SSMGR_SEED"
  | log => "SSMGR_LOG"
  | sharedLog => "RUST_LOG"

end Variable

abbrev Environment := Variable → Option String

/-! ## Errors -/

inductive ConfigError where
  | unreadable
  | malformed
  | override (name : Variable) (value : String)
  | zeroPort
  | columns (cause : BadColumns)
  deriving DecidableEq

namespace ConfigError

def message : ConfigError → String
  | unreadable => "failed to read config file"
  | malformed => "failed to parse config file"
  | override v value => "invalid value " ++ Quoted.quote value ++ " for " ++ v.name
  | zeroPort => "invalid configuration: port must be non-zero"
  | columns _ => "invalid grid configuration"

end ConfigError

/-! ## The file -/

structure Settings where
  host : Option String := none
  port : Option UInt16 := none
  columnsPerRow : Option Int := none
  seedPath : Option String := none
  filter : Option String := none
  deriving DecidableEq

inductive ConfigFile where
  | absent
  | unreadable
  | malformed
  | parsed (settings : Settings)
  deriving DecidableEq

namespace Settings

open Toml Toml.Value

/-- The values of the named fields of a section; a section that is missing has none. -/
def sectionFields? (names : List String) (es : Entries) (name : String) :
    Option (List (Option Value)) :=
  orElse (names.map fun _ => none) (fields? names 0) (es.lookup name)

def countOf? (v : Value) : Option Int :=
  v.integer? (-Int.pow 2 63) (Int.pow 2 63 - 1)

def portOf? (v : Value) : Option UInt16 :=
  (v.unsigned? 16).map UInt16.ofNat

def ofEntries? (es : Entries) : Option Settings := do
  match ← sectionFields? ["host", "port"] es "server",
      ← sectionFields? ["columns_per_row"] es "grid",
      ← sectionFields? ["seed_path"] es "catalog",
      ← sectionFields? ["filter"] es "logging" with
  | [host, port], [columns], [seed], [filter] =>
    return {
      host := ← missingOr string? host
      port := ← missingOr portOf? port
      columnsPerRow := ← missingOr countOf? columns
      seedPath := ← missingOr string? seed
      filter := ← missingOr string? filter }
  | _, _, _, _ => none

end Settings

namespace ConfigFile

def ofText (s : String) : ConfigFile :=
  match (Toml.Document.ofText? s).bind Settings.ofEntries? with
  | some settings => parsed settings
  | none => malformed

def ofRead (f : FileRead) : ConfigFile :=
  match f with
  | .absent => absent
  | f => match f.text? with
    | some s => ofText s
    | none => unreadable

/-- The settings of a file; without a file there are none. -/
def settings : ConfigFile → Except ConfigError Settings
  | absent => .ok {}
  | unreadable => .error .unreadable
  | malformed => .error .malformed
  | parsed settings => .ok settings

end ConfigFile

/-! ## Putting it together -/

namespace Config

def path (env : Environment) : String :=
  (env .config).getD "ssmgr.toml"

def ofSettings (s : Settings) : Config :=
  let standard : Config := {}
  { host := s.host.getD standard.host
    port := s.port.getD standard.port
    columnsPerRow := s.columnsPerRow.getD standard.columnsPerRow
    seedPath := s.seedPath
    filter := s.filter.getD standard.filter }

def readInteger (field : Decimal.Field) (v : Variable) (value : String) : Except ConfigError Int :=
  match field.read value with
  | .ok n => .ok n
  | .error _ => .error (.override v value)

def readPort (v : Variable) (value : String) : Except ConfigError UInt16 := do
  return UInt16.ofNat (← readInteger (.unsigned 16) v value).toNat

/-- A host and a TCP port with the last colon of the text between them. -/
def readBind (value : String) : Except ConfigError (String × UInt16) :=
  match Text.cutLast? ':' value.toList with
  | none => .error (.override .bind value)
  | some (host, port) => do
    return (String.ofList host, ← readPort .bind (String.ofList port))

def override (env : Environment) (v : Variable)
    (change : Config → String → Except ConfigError Config) (c : Config) :
    Except ConfigError Config :=
  match env v with
  | none => .ok c
  | some value => change c value

def setHost (c : Config) (value : String) : Except ConfigError Config :=
  .ok { c with host := value }

def setPort (c : Config) (value : String) : Except ConfigError Config := do
  return { c with port := ← readPort .port value }

def setBind (c : Config) (value : String) : Except ConfigError Config := do
  let (host, port) ← readBind value
  return { c with host, port }

def setColumns (c : Config) (value : String) : Except ConfigError Config := do
  return { c with columnsPerRow := ← readInteger (.signed 64) .columns value }

def setSeed (c : Config) (value : String) : Except ConfigError Config :=
  .ok { c with seedPath := some value }

def setFilter (c : Config) (value : String) : Except ConfigError Config :=
  .ok { c with filter := value }

/-- Applies all variables in a fixed order; of two that set one thing, the later counts. -/
def applyOverrides (c : Config) (env : Environment) : Except ConfigError Config := do
  let c ← override env .host setHost c
  let c ← override env .port setPort c
  let c ← override env .bind setBind c
  let c ← override env .columns setColumns c
  let c ← override env .seed setSeed c
  let c ← override env .log setFilter c
  override env .sharedLog setFilter c

def columns (c : Config) : Except ConfigError Columns :=
  (Columns.of c.columnsPerRow).mapError .columns

def validate (c : Config) : Except ConfigError Unit :=
  if c.port = 0 then .error .zeroPort else c.columns.map fun _ => ()

def load (file : ConfigFile) (env : Environment) : Except ConfigError Config := do
  let c ← (ofSettings (← file.settings)).applyOverrides env
  c.validate
  return c

def bindAddress (c : Config) : String :=
  c.host ++ ":" ++ Decimal.ofNat c.port.toNat

end Config

end ProxyConsole
