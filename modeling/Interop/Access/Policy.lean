import Interop.Access.Permission
import Interop.Lookup

namespace Interop

/-!
# Access policies

* `Pattern` — a rule's view of dotted type names; `Pattern.ofString` reads it, `Pattern.admits`
  matches it. `Pattern.reads_ofString`, `Pattern.admits_subtree_iff` and `Pattern.admits_below_iff` say
  which texts and names these are.
* `Policy` — exact entries, rules and a global default; `Policy.resolve` takes the exact entry, else
  the first matching rule, else the default.

The order of rules matters, as the first that matches decides. A policy keeps rules in the order in
which they were added and makes no attempt to put the more specific ones in front.
-/

/-- A set of dotted type names. -/
inductive Pattern
  /-- Every name: `*` or `**`. -/
  | any
  /-- The package and all below it: `package.**`. -/
  | subtree (package : List Char)
  /-- All below the package: `package.*`. -/
  | below (package : List Char)
  /-- The name itself. -/
  | exact (name : List Char)
deriving DecidableEq

namespace Pattern

/-- The list without the given ending. -/
def dropEnding? (ending cs : List Char) : Option (List Char) :=
  if ending.isSuffixOf cs then some (cs.take (cs.length - ending.length)) else none

/-- The list without the given beginning. -/
def dropBeginning? (beginning cs : List Char) : Option (List Char) :=
  if beginning.isPrefixOf cs then some (cs.drop beginning.length) else none

/-- Read a pattern. A text of no other form is an exact name. -/
def ofString (s : String) : Pattern :=
  let cs := s.toList
  if s = "*" ∨ s = "**" then any
  else match dropEnding? ['.', '*', '*'] cs with
    | some package => subtree package
    | none =>
      match dropEnding? ['.', '*'] cs with
      | some package => below package
      | none => exact cs

/-- Whether the pattern matches a type name. -/
def admits (name : List Char) : Pattern → Bool
  | any => true
  | subtree package =>
    match dropBeginning? package name with
    | some [] => true
    | some (c :: _) => c == '.'
    | none => false
  | below package =>
    match dropBeginning? package name with
    | some (c :: _ :: _) => c == '.'
    | _ => false
  | exact n => n == name

/-- What is left is the list without that ending. -/
theorem dropEnding?_eq_some_iff {ending cs rest : List Char} :
    dropEnding? ending cs = some rest ↔ cs = rest ++ ending := by
  unfold dropEnding?
  constructor
  · intro h
    split at h
    next hs =>
      have hcs := List.suffix_iff_eq_append.mp (List.isSuffixOf_iff_suffix.mp hs)
      rw [← Option.some.inj h, hcs]
    next => cases h
  · rintro rfl
    simp

/-- What is left is the list without that beginning. -/
theorem dropBeginning?_eq_some_iff {beginning cs rest : List Char} :
    dropBeginning? beginning cs = some rest ↔ cs = beginning ++ rest := by
  unfold dropBeginning?
  constructor
  · intro h
    split at h
    next hp =>
      have hcs := List.prefix_iff_eq_append.mp (List.isPrefixOf_iff_prefix.mp hp)
      rw [← Option.some.inj h, hcs]
    next => cases h
  · rintro rfl
    simp

/-- A list from which a beginning cannot be dropped begins otherwise. -/
theorem ne_append_of_dropBeginning?_eq_none {beginning cs : List Char}
    (h : dropBeginning? beginning cs = none) (rest : List Char) : cs ≠ beginning ++ rest := by
  intro heq
  rw [dropBeginning?_eq_some_iff.mpr heq] at h
  cases h

/-- A subtree is the package and what follows it behind a dot. -/
theorem admits_subtree_iff {package name : List Char} :
    (subtree package).admits name = true ↔ name = package ∨ ∃ rest, name = package ++ '.' :: rest := by
  simp only [admits]
  cases h : dropBeginning? package name with
  | none =>
    have hno := ne_append_of_dropBeginning?_eq_none h
    have hself : name ≠ package := by simpa using hno []
    simp [hno, hself]
  | some rest =>
    rw [dropBeginning?_eq_some_iff.mp h]
    cases rest <;> simp

/-- Below a package is what follows it behind a dot, if that is not empty. -/
theorem admits_below_iff {package name : List Char} :
    (below package).admits name = true ↔ ∃ c rest, name = package ++ '.' :: c :: rest := by
  simp only [admits]
  cases h : dropBeginning? package name with
  | none => simp [ne_append_of_dropBeginning?_eq_none h]
  | some rest =>
    rw [dropBeginning?_eq_some_iff.mp h]
    rcases rest with - | ⟨c, - | ⟨c', rest⟩⟩ <;> simp

/-- How a pattern is written. -/
inductive Reads (s : String) : Pattern → Prop
  | any (h : s = "*" ∨ s = "**") : Reads s any
  | subtree {package : List Char} (h : s.toList = package ++ ['.', '*', '*']) :
      Reads s (subtree package)
  | below {package : List Char} (h : s.toList = package ++ ['.', '*']) : Reads s (below package)
  | exact : Reads s (exact s.toList)

/-- A text is read as a pattern that is written so. -/
theorem reads_ofString (s : String) : Reads s (ofString s) := by
  dsimp only [ofString]
  split
  next h => exact .any h
  next =>
    split
    next package h => exact .subtree (dropEnding?_eq_some_iff.mp h)
    next =>
      split
      next package h => exact .below (dropEnding?_eq_some_iff.mp h)
      next => exact .exact

end Pattern

/-- What a rule grants to the types that its pattern matches. -/
structure Rule where
  pattern : String
  permission : Permission
deriving DecidableEq

/-- Whether the rule speaks of a type of that name. -/
def Rule.matches (r : Rule) (typeName : String) : Bool :=
  (Pattern.ofString r.pattern).admits typeName.toList

/-- A host's security policy. -/
structure Policy where
  global : Permission
  /-- The exact entries, the one set last in front. -/
  types : List (String × Permission) := []
  /-- The rules in the order added. -/
  rules : List Rule := []
deriving DecidableEq

namespace Policy

variable (p : Policy)

/-- The policy that opens everything. -/
def permissive : Policy := { global := .all }

/-- Set the permission of one type, in place of an earlier one. -/
def setType (name : String) (permission : Permission) : Policy :=
  { p with types := (name, permission) :: p.types.filter (·.1 != name) }

/-- Add a rule behind the earlier ones. -/
def addRule (r : Rule) : Policy :=
  { p with rules := p.rules ++ [r] }

/-- The permission for the members of a type. -/
def resolve (typeName : String) : Permission :=
  match p.types.lookup typeName with
  | some permission => permission
  | none =>
    match p.rules.find? (·.matches typeName) with
    | some r => r.permission
    | none => p.global

/-- A type gets the permission that was set for it. -/
theorem resolve_setType_self (name : String) (permission : Permission) :
    (p.setType name permission).resolve name = permission := by
  simp [resolve, setType]

/-- To set the permission of one type leaves those of the others as they are. -/
theorem resolve_setType_of_ne {name typeName : String} (h : typeName ≠ name)
    (permission : Permission) :
    (p.setType name permission).resolve typeName = p.resolve typeName := by
  simp [resolve, setType, List.lookup_cons, beq_false_of_ne h, lookup_filter_of_ne h]

/-- A rule says nothing about the names that it does not match. -/
theorem resolve_addRule_of_not_matches {r : Rule} {typeName : String}
    (h : r.matches typeName = false) : (p.addRule r).resolve typeName = p.resolve typeName := by
  simp [resolve, addRule, List.find?_append, h]

/-- Whether a member of `declaring` may be made accessible. -/
def allows (declaring : String) (kind : MemberKind) (visibility : Visibility) : Bool :=
  (p.resolve declaring).allows kind visibility

end Policy

end Interop
