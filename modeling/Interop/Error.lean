namespace Interop

/-!
# Errors

Every failure is a cause; its wording is a function of the cause.

* `ScriptError` — what script code raised, with the chain of its causes.
* `ConstructionError` — why no proxy type was made for an interface set.
* `InstantiationError` — why a proxy type was not instantiated.
* `BridgeError` — what the host or the engine gets back from the bridge.
* `AccessDenied`, `ConfigError` — a refused accessibility change, a refused configuration.
* `message` — the wording of an error; `sources` — the wordings of the errors behind it, nearest
  first.
-/

/-- An error raised by script code, alone or with the error that caused it. -/
inductive ScriptError
  | plain (text : String)
  | caused (text : String) (cause : ScriptError)
deriving DecidableEq, Inhabited

namespace ScriptError

/-- The error's own text. -/
def message : ScriptError → String
  | plain t => t
  | caused t _ => t

/-- The texts of the causes, nearest first. -/
def sources : ScriptError → List String
  | plain _ => []
  | caused _ c => c.message :: c.sources

/-- The error with the given texts, each caused by the next. -/
def ofTexts (text : String) : List String → ScriptError
  | [] => plain text
  | t :: ts => caused text (ofTexts t ts)

/-- The first text is what the error says itself. -/
@[simp] theorem message_ofTexts (text : String) (ts : List String) :
    (ofTexts text ts).message = text := by
  cases ts <;> rfl

/-- The others are what its causes say, in the same order. -/
@[simp] theorem sources_ofTexts (text : String) (ts : List String) :
    (ofTexts text ts).sources = ts := by
  induction ts generalizing text with
  | nil => rfl
  | cons t ts ih => simp [ofTexts, sources, ih]

end ScriptError

/-- Why an interface set was refused. -/
inductive ConstructionError
  | emptyInterfaceSet
  | notAnInterface (name : String)
  | duplicateInterface (name : String)
  | notVisible (interface domain : String)
  | conflictingReturnTypes (method first second : String)
  | tooManyInterfaces (count : Nat)
deriving DecidableEq

namespace ConstructionError

/-- The wording of the error. -/
def message : ConstructionError → String
  | emptyInterfaceSet => "Cannot build a proxy for an empty interface set"
  | notAnInterface n => n ++ " is not an interface"
  | duplicateInterface n => "Repeated interface: " ++ n
  | notVisible i d => "Interface " ++ i ++ " is not visible from domain " ++ d
  | conflictingReturnTypes m first second =>
    "Methods named " ++ m ++ " with the same parameter types have different return types ("
      ++ first ++ " vs " ++ second ++ ")"
  | tooManyInterfaces n => "Interface limit exceeded: " ++ toString n

end ConstructionError

/-- Why a proxy type was not instantiated. -/
inductive InstantiationError
  /-- The constructor itself raised an error. -/
  | raised (error : ScriptError)
  | illegalAccess (name : String)
  | notInstantiable (name : String)
deriving DecidableEq

namespace InstantiationError

/-- The wording of the error. -/
def message : InstantiationError → String
  | raised e => "Proxy constructor raised: " ++ e.message
  | illegalAccess n => "Illegal access to proxy constructor: " ++ n
  | notInstantiable n => "Cannot instantiate proxy type: " ++ n

end InstantiationError

/-- What a failed operation of the bridge gives back. -/
inductive BridgeError
  | construction (error : ConstructionError)
  | illegalState (text : String) (source : Option InstantiationError)
  | script (error : ScriptError)
  | noSuchMethod (proxy method : String)
  | arityMismatch (method : String) (expected got : Nat)
deriving DecidableEq

namespace BridgeError

/-- The wording of the error, which includes that of the error behind it. -/
def message : BridgeError → String
  | construction e => "Proxy construction failed: " ++ e.message
  | illegalState t _ => "Illegal state: " ++ t
  | script e => "Script error: " ++ e.message
  | noSuchMethod p m => "No such method on " ++ p ++ ": " ++ m
  | arityMismatch m expected got =>
    m ++ " expects " ++ toString expected ++ " arguments, got " ++ toString got

/-- The wordings of the errors behind the error, nearest first. A construction or instantiation
    error ends the chain, a script error goes on with its causes. -/
def sources : BridgeError → List String
  | construction e => [e.message]
  | illegalState _ source => source.toList.map InstantiationError.message
  | script e => e.message :: e.sources
  | noSuchMethod .. | arityMismatch .. => []

end BridgeError

/-- A refused accessibility change. -/
structure AccessDenied where
  /-- The member, as `type.name`. -/
  member : String
deriving DecidableEq

/-- The wording of the refusal. -/
def AccessDenied.message (e : AccessDenied) : String :=
  "Access denied: cannot make " ++ e.member ++ " accessible"

/-- Why a file could not be read as text. -/
inductive ReadFailure
  | missing
  | notText
deriving DecidableEq

/-- The wording of the failure, as the system puts it. -/
def ReadFailure.message : ReadFailure → String
  | missing => "No such file or directory (os error 2)"
  | notText => "stream did not contain valid UTF-8"

/-- Why a configuration was refused. -/
inductive ConfigError
  | unreadable (failure : ReadFailure)
  | malformed
  | invalidPermission (key value : String)
deriving DecidableEq

/-- The wording of the error. -/
def ConfigError.message : ConfigError → String
  | unreadable f => "Failed to read config file: " ++ f.message
  | malformed => "Failed to parse config"
  | invalidPermission k v => "Invalid permission value for " ++ k ++ ": " ++ v

end Interop
