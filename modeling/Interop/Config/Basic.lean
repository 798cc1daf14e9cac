import Interop.Config.Entries
import Interop.Text.Quoted

namespace Interop

/-!
# Configuration

* `Config` — the settings of a bridge; `Config.text` shows them in diagnostics.
-/

/-- How a bridge reports variadic members. -/
inductive VariadicPolicy
  | alwaysFalse
  | declared
deriving DecidableEq

/-- The access section: permissions as written, by type name. -/
structure AccessConfig where
  global : String := "ALL"
  types : Entries := ∅
deriving DecidableEq

/-- The settings of a bridge. -/
structure Config where
  variadic : VariadicPolicy := .alwaysFalse
  /-- Warn when a proxied method has no script behind it. -/
  warnUnsupported : Bool := true
  /-- Reuse a proxy type for every request with the same interfaces. -/
  cacheProxyTypes : Bool := true
  access : AccessConfig := {}
deriving DecidableEq

/-- A variadic policy in diagnostics. -/
def VariadicPolicy.text : VariadicPolicy → String
  | alwaysFalse => "AlwaysFalse"
  | declared => "Declared"

/-- A map of strings in diagnostics. -/
def Entries.text (es : Entries) : String :=
  let entry := fun (e : String × String) => Text.quote e.1 ++ ": " ++ Text.quote e.2
  "\x7b" ++ ", ".intercalate (es.toList.map entry) ++ "\x7d"

/-- An access section in diagnostics. -/
def AccessConfig.text (a : AccessConfig) : String :=
  "AccessConfig \x7b global: " ++ Text.quote a.global ++ ", types: " ++ a.types.text ++ " \x7d"

/-- The settings in diagnostics. -/
def Config.text (c : Config) : String :=
  "BridgeConfig \x7b variadic: " ++ c.variadic.text
    ++ ", warn_unsupported: " ++ toString c.warnUnsupported
    ++ ", cache_proxy_types: " ++ toString c.cacheProxyTypes
    ++ ", access: " ++ c.access.text ++ " \x7d"

end Interop
