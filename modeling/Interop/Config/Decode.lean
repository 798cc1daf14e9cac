import Interop.Config.Basic
import Interop.Toml.Grammar
import Interop.Error

namespace Interop

/-!
# Reading a configuration

A setting that is absent has its default, one of a wrong type spoils the whole, and what is not
known is passed over. A section may be a table or a list; a list gives the settings in order.

* `Config.ofFields` — the settings in a document.
* `Config.parse`, `Config.ofFile` — the settings in a text and in the content of a file.

Absent and wrong are kept apart throughout: a reader is asked only for what is there, and if it fails
there is no configuration at all. A date is read as a table with one key, which is known to no
section; for a section it is thus as good as an empty table, and in a table of strings it is an entry.
-/

open Toml (Node Fields)

/-- Read a setting of a table. -/
def setting {α : Type} (fs : Fields) (name : String) (read : Node → Option α) (default : α) :
    Option α :=
  match fs.lookup name with
  | none => some default
  | some n => read n

/-- Read the setting at a place of a list. -/
def settingAt {α : Type} (items : List Node) (place : Nat) (read : Node → Option α) (default : α) :
    Option α :=
  match items[place]? with
  | none => some default
  | some n => read n

/-- The key under which a date stands where a table is expected. -/
def datetimeKey : String := "$__toml_private_datetime"

/-- The value of a policy given as a table: it has to be empty. -/
def isEmptySection : Node → Bool
  | .table _ fs => fs.isEmpty
  | .array items | .tables items => items.isEmpty
  | _ => false

/-- The two names of policies. -/
def VariadicPolicy.ofName : String → Option VariadicPolicy
  | "always-false" => some alwaysFalse
  | "declared" => some declared
  | _ => none

/-- A policy is its name, or a table whose only key is the name. -/
def VariadicPolicy.ofNode : Node → Option VariadicPolicy
  | .string s => ofName s
  | .table _ [(name, n)] => if isEmptySection n then ofName name else none
  | _ => none

/-- Read a table of strings. A date counts as a table with its text under a key of its own. -/
def Entries.ofNode : Node → Option Entries
  | .table _ fs => do
    let es ← fs.mapM fun f => return (f.1, ← f.2.string?)
    return .ofList es
  | .datetime d => some (.ofList [(datetimeKey, d.text)])
  | _ => none

/-- Read the settings of an access section from a list. -/
def AccessConfig.ofItems (items : List Node) : Option AccessConfig := do
  return {
    global := ← settingAt items 0 Node.string? "ALL"
    types := ← settingAt items 1 Entries.ofNode ∅ }

/-- Read the settings of an access section from a table. -/
def AccessConfig.ofTable (fs : Fields) : Option AccessConfig := do
  return {
    global := ← setting fs "global" Node.string? "ALL"
    types := ← setting fs "types" Entries.ofNode ∅ }

/-- Read the access section. A date counts as a table without a known key. -/
def AccessConfig.ofNode : Node → Option AccessConfig
  | .table _ fs => ofTable fs
  | .array items | .tables items => ofItems items
  | .datetime _ => some {}
  | _ => none

namespace Config

/-- Read the settings of a bridge section from a list. -/
def ofItems (items : List Node) : Option Config := do
  return {
    variadic := ← settingAt items 0 VariadicPolicy.ofNode .alwaysFalse
    warnUnsupported := ← settingAt items 1 Node.boolean? true
    cacheProxyTypes := ← settingAt items 2 Node.boolean? true
    access := ← settingAt items 3 AccessConfig.ofNode {} }

/-- Read the settings of a bridge section from a table. -/
def ofTable (fs : Fields) : Option Config := do
  return {
    variadic := ← setting fs "variadic" VariadicPolicy.ofNode .alwaysFalse
    warnUnsupported := ← setting fs "warn_unsupported" Node.boolean? true
    cacheProxyTypes := ← setting fs "cache_proxy_types" Node.boolean? true
    access := ← setting fs "access" AccessConfig.ofNode {} }

/-- Read the bridge section. A date counts as a table without a known key. -/
def ofNode : Node → Option Config
  | .table _ fs => ofTable fs
  | .array items | .tables items => ofItems items
  | .datetime _ => some {}
  | _ => none

/-- The settings in a document. -/
def ofFields (fs : Fields) : Option Config :=
  setting fs "bridge" ofNode {}

/-- The settings in a text. -/
def parse (text : String) : Except ConfigError Config :=
  match (Toml.parse text).bind ofFields with
  | some c => .ok c
  | none => .error .malformed

/-- The settings in a file with the given content, if there is one. -/
def ofFile : Option ByteArray → Except ConfigError Config
  | none => .error (.unreadable .missing)
  | some bytes =>
    match String.fromUTF8? bytes with
    | none => .error (.unreadable .notText)
    | some text => parse text

end Config

end Interop
