/-
Settings written down in TOML.

Each group of settings is a table; keys that nobody knows are passed over.  A
group may also be written as the list of its settings in order, and what it
leaves out has its default.
-/
import SplitHorizon.Settings.Basic
import SplitHorizon.Settings.Fault
import SplitHorizon.Toml.Reader

namespace SplitHorizon
namespace Settings

/-! ## Values -/

def text? : Toml → Option String
  | .string s => some s
  | _ => none

def truth? : Toml → Option Bool
  | .bool b => some b
  | _ => none

def natural? (max : Nat) : Toml → Option Nat
  | .integer n => if 0 ≤ n ∧ n ≤ max then some n.toNat else none
  | _ => none

def uint16? (v : Toml) : Option UInt16 := (natural? 0xFFFF v).map UInt16.ofNat
def uint32? (v : Toml) : Option UInt32 := (natural? 0xFFFFFFFF v).map UInt32.ofNat
def uint64? (v : Toml) : Option UInt64 := (natural? 0xFFFFFFFFFFFFFFFF v).map UInt64.ofNat

/-- A format by its name, or as the only key of a table with nothing under
it. -/
def logFormat? : Toml → Option LogFormat
  | .string s => LogFormat.ofName? s
  | .table _ [(name, .table _ [])] => LogFormat.ofName? name
  | .table _ [(name, .array [])] => LogFormat.ofName? name
  | _ => none

/-! ## Groups -/

/-- The settings of a group, by position or by key. -/
abbrev Group := Nat → String → Option Toml

/-- The group that a value is.  A date says nothing about any setting. -/
def group? : Toml → Option Group
  | .table _ members => some fun _ key => List.lookup key members
  | .array items => some fun i _ => items[i]?
  | .tables elements => some fun i _ => elements[i]?.map (Toml.table .header)
  | .moment => some fun _ _ => none
  | _ => none

/-- A setting of a group, or its default. -/
def setting? {α : Type} (group : Group) (i : Nat) (key : String) (read : Toml → Option α)
    (default : α) : Option α :=
  match group i key with
  | none => some default
  | some value => read value

def listen? (v : Toml) : Option ListenSettings := do
  let group ← group? v
  let bindAddress ← setting? group 0 "bind_address" text? ListenSettings.default.bindAddress
  let dnsPort ← setting? group 1 "dns_port" uint16? ListenSettings.default.dnsPort
  let streamEnabled ← setting? group 2 "tcp_enabled" truth? ListenSettings.default.streamEnabled
  return { bindAddress := bindAddress, dnsPort := dnsPort, streamEnabled := streamEnabled }

def answers? (v : Toml) : Option AnswerSettings := do
  let group ← group? v
  let ttl ← setting? group 0 "default_ttl" uint32? AnswerSettings.default.defaultTtl
  let timeout ←
    setting? group 1 "upstream_timeout_ms" uint64? AnswerSettings.default.resolverTimeout
  return { defaultTtl := ttl, resolverTimeout := timeout }

def document? (v : Toml) : Option DocumentSettings := do
  let group ← group? v
  let path ← setting? group 0 "path" text? DocumentSettings.default.path
  let reload ← setting? group 1 "reload_on_sighup" truth? DocumentSettings.default.reloadOnSignal
  return { path := path, reloadOnSignal := reload }

def log? (v : Toml) : Option LogSettings := do
  let group ← group? v
  let level ← setting? group 0 "level" text? LogSettings.default.level
  let format ← setting? group 1 "format" logFormat? LogSettings.default.format
  return { level := level, format := format }

def ofMembers? (members : Toml.Members) : Option Settings := do
  let top : Group := fun _ key => List.lookup key members
  let listen ← setting? top 0 "server" listen? .default
  let answers ← setting? top 1 "dns" answers? .default
  let document ← setting? top 2 "answers" document? .default
  let log ← setting? top 3 "logging" log? .default
  return { listen := listen, answers := answers, document := document, log := log }

def ofText (text : String) : Except SettingsFault Settings :=
  match (Toml.parse? text).bind ofMembers? with
  | some settings => .ok settings
  | none => .error (.malformed "not a TOML document of settings")

end Settings
end SplitHorizon
