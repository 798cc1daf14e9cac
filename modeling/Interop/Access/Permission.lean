import Interop.Text.Blank

namespace Interop

/-!
# Permissions

* `Permission` — the kinds of non-public member that may be opened up.
* `Permission.requiredFor` — what a member needs before it can be made accessible;
  `Permission.allows_eq_true_iff` — it is public, or the permission covers its kind.
* `Permission.parse` — read a list such as `METHODS|CONSTRUCTORS`.
-/

/-- What a reflected member is. -/
inductive MemberKind
  | field
  | method
  | constructor
  /-- Anything else the host reflects; it is never opened up. -/
  | other
deriving DecidableEq

/-- The declared visibility of a member. -/
inductive Visibility
  | pub
  | prot
  | pkg
  | priv
deriving DecidableEq

/-- A set of member kinds. -/
structure Permission where
  fields : Bool
  methods : Bool
  constructors : Bool
deriving DecidableEq

namespace Permission

/-- Non-public members stay closed. -/
def publicOnly : Permission := ⟨false, false, false⟩

/-- Non-public fields may be opened up. -/
def onlyFields : Permission := ⟨true, false, false⟩

/-- Non-public methods may be opened up. -/
def onlyMethods : Permission := ⟨false, true, false⟩

/-- Non-public constructors may be opened up. -/
def onlyConstructors : Permission := ⟨false, false, true⟩

/-- Every member kind. -/
def all : Permission := ⟨true, true, true⟩

/-- The kinds that `p` or `q` grants. -/
def union (p q : Permission) : Permission :=
  ⟨p.fields || q.fields, p.methods || q.methods, p.constructors || q.constructors⟩

/-- Whether `p` grants every kind that `q` does. -/
def contains (p q : Permission) : Bool :=
  (p.fields || !q.fields) && (p.methods || !q.methods) && (p.constructors || !q.constructors)

/-- What a member needs before it can be made accessible; a public member needs nothing. -/
def requiredFor (kind : MemberKind) (visibility : Visibility) : Option Permission :=
  if visibility = .pub then none
  else match kind with
    | .field => some onlyFields
    | .method => some onlyMethods
    | .constructor => some onlyConstructors
    | .other => some all

/-- Whether a member may be made accessible under `p`. -/
def allows (p : Permission) (kind : MemberKind) (visibility : Visibility) : Bool :=
  match requiredFor kind visibility with
  | none => true
  | some required => p.contains required

/-- Whether `p` covers the members of a kind. -/
def grants (p : Permission) : MemberKind → Bool
  | .field => p.fields
  | .method => p.methods
  | .constructor => p.constructors
  | .other => p.fields && p.methods && p.constructors

/-- A member may be made accessible iff it is public or its kind is covered. -/
theorem allows_eq_true_iff (p : Permission) (kind : MemberKind) (visibility : Visibility) :
    p.allows kind visibility = true ↔ visibility = .pub ∨ p.grants kind = true := by
  by_cases hv : visibility = .pub
  · simp [allows, requiredFor, hv]
  · simp only [allows, requiredFor, hv, false_or, if_false]
    cases kind <;>
      simp [contains, grants, onlyFields, onlyMethods, onlyConstructors, all]

/-- The permission that a word of a list names. -/
def ofWord (word : List Char) : Option Permission :=
  match String.ofList word with
  | "PUBLIC_ONLY" | "NONE" => some publicOnly
  | "FIELDS" => some onlyFields
  | "METHODS" => some onlyMethods
  | "CONSTRUCTORS" => some onlyConstructors
  | "ALL" => some all
  | _ => none

/-- Read one part of a list: blanks around the word and the case of its ASCII letters do not
    matter. -/
def parsePart (part : List Char) : Option Permission :=
  ofWord (Text.upper (Text.trim part))

/-- The union of the parts of a list, if every part names a permission. -/
def parseParts : List (List Char) → Option Permission
  | [] => some publicOnly
  | part :: parts =>
    match parsePart part, parseParts parts with
    | some p, some q => some (p.union q)
    | _, _ => none

/-- Read a list whose parts are separated by bars. -/
def parse (s : String) : Option Permission :=
  parseParts (s.toList.splitOn '|')

end Permission

end Interop
