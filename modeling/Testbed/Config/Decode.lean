import Testbed.Config.Section
import Testbed.Toml.Document

/-!
# Reading fixture files

What a TOML table says about fixtures. Keys that mean nothing here are ignored; a key that does must
have a value of the right kind. A section may also be written as the array of its settings in order.
-/

namespace Testbed.Config

open Toml

def ofString? : Value → Option String
  | .string s => some s
  | _ => none

def ofBool? : Value → Option Bool
  | .boolean b => some b
  | _ => none

/-- An integer with 64 bits. -/
def ofInt64? : Value → Option Int
  | .integer n => if -0x8000000000000000 ≤ n ∧ n < 0x8000000000000000 then some n else none
  | _ => none

/-- A whole number below `size`. -/
def ofNat? (size : Nat) : Value → Option Nat
  | .integer n => if 0 ≤ n ∧ n < size then some n.toNat else none
  | _ => none

/-- The only key of a date or time that is read as a table. -/
def dateTimeKey : String := "$__toml_private_datetime"

/-- The keys of a table with their values. A date or time can be read as a table too, which holds
its text. -/
def entries? : Value → Option (List (String × Value))
  | .table entries => some entries
  | .dateTime value => some [(dateTimeKey, .string value.text)]
  | _ => none

/-- A table of texts. -/
def ofEnv? (v : Value) : Option Env := do
  return .ofList (← (← entries? v).mapM fun (name, value) => do return (name, ← ofString? value))

/-- The settings of a section by name. In an array they stand in the order of `required`, which
must all be there, followed by those of `optional`. -/
def settings? (required optional : List String) : Value → Option (List (String × Value))
  | .array values =>
    if required.length ≤ values.length then some ((required ++ optional).zip values) else none
  | v => entries? v

/-- The setting of a name, if there is one, read by `decode`. -/
def setting {α : Type} (settings : List (String × Value)) (name : String)
    (decode : Value → Option α) : Option (Option α) :=
  match settings.lookup name with
  | none => some none
  | some value => (decode value).map some

def EngineSection.ofValue? (v : Value) : Option EngineSection := do
  let s ← settings? ["binary", "retry_attempts", "retry_backoff_ms"] [] v
  return {
    binary := ← setting s "binary" ofString?
    retryAttempts := ← setting s "retry_attempts" (ofNat? UInt32.size)
    retryBackoffMillis := ← setting s "retry_backoff_ms" (ofNat? UInt64.size) }

def NamesSection.ofValue? (v : Value) : Option NamesSection := do
  let s ← settings? ["network", "cache", "database", "broker", "coordinator"] [] v
  return {
    network := ← setting s "network" ofString?
    cache := ← setting s "cache" ofString?
    database := ← setting s "database" ofString?
    broker := ← setting s "broker" ofString?
    coordinator := ← setting s "coordinator" ofString? }

def NetworkSection.ofValue? (v : Value) : Option NetworkSection := do
  let s ← settings? ["enabled", "name"] [] v
  return {
    enabled := ← setting s "enabled" ofBool?
    name := ← setting s "name" ofString? }

def ServiceSection.ofValue? (v : Value) : Option ServiceSection := do
  let s ← settings? ["enabled", "name", "image_tag", "port", "startup_timeout_secs", "log", "user",
    "password", "db_index", "replica_set"] ["env"] v
  return {
    enabled := ← setting s "enabled" ofBool?
    name := ← setting s "name" ofString?
    imageTag := ← setting s "image_tag" ofString?
    port := ← setting s "port" ofInt64?
    startupTimeoutSecs := ← setting s "startup_timeout_secs" (ofNat? UInt64.size)
    log := ← setting s "log" ofBool?
    user := ← setting s "user" ofString?
    password := ← setting s "password" ofString?
    dbIndex := ← setting s "db_index" ofInt64?
    replicaSet := ← setting s "replica_set" ofBool?
    env := (← setting s "env" ofEnv?).getD .empty }

def BrokerSection.ofValue? (v : Value) : Option BrokerSection := do
  let s ← settings? ["enabled", "kafka_name", "zookeeper_name", "kafka_image_tag",
    "zookeeper_image_tag", "port", "startup_timeout_secs", "log", "protocol_version"] ["env"] v
  return {
    enabled := ← setting s "enabled" ofBool?
    brokerName := ← setting s "kafka_name" ofString?
    coordinatorName := ← setting s "zookeeper_name" ofString?
    brokerImageTag := ← setting s "kafka_image_tag" ofString?
    coordinatorImageTag := ← setting s "zookeeper_image_tag" ofString?
    port := ← setting s "port" ofInt64?
    startupTimeoutSecs := ← setting s "startup_timeout_secs" (ofNat? UInt64.size)
    log := ← setting s "log" ofBool?
    protocolVersion := ← setting s "protocol_version" ofString?
    env := (← setting s "env" ofEnv?).getD .empty }

def ofValue? (v : Value) : Option Config := do
  let s ← settings? [] [] v
  return {
    engine := (← setting s "runtime" EngineSection.ofValue?).getD {}
    names := (← setting s "names" NamesSection.ofValue?).getD {}
    network := ← setting s "network" NetworkSection.ofValue?
    cache := ← setting s "cache" ServiceSection.ofValue?
    database := ← setting s "database" ServiceSection.ofValue?
    broker := ← setting s "broker" BrokerSection.ofValue? }

/-- What the text of a fixture file says. -/
def parse? (text : String) : Option Config :=
  Toml.parse? text >>= ofValue?

end Testbed.Config
