import Interop.Config.Decode
import Interop.Proofs.Precedence

namespace Interop

/-!
# What a document changes in the default configuration

A configuration has five settings, in two sections, one of which lies in the other. A section is a
table, which has its settings under their names, or a list, which has them in their places. What a
document leaves out is as in the default configuration.

* `Key`, `Key.value?` — the keys that are known, and what a document has for them, whichever form its
  sections have.
* `Setting`, `Setting.GivenBy`, `Key.Accepts` — a setting with its value, the nodes that stand for it, and
  the nodes that are right for a key.
* `Gives` — a document gives the settings that it has, and where it lacks a key that of the default.
* `ReadsSections` — in every form a section is read through what it has for the keys.
* `Config.ofFields_eq_some_iff` — a document is read as the configuration whose settings it gives;
  `Config.ofFields_congr` — nothing else in it counts.
* `Config.overrideLaws` — the default is changed exactly at the keys that are present, a wrong node under any
  of them spoils the document, and lists and tables, absent and empty sections come to the same.

A document is read section by section, and each section in one of two forms. So the reader is taken
apart twice. `ReadsSections` says of one reader that the form of a section does not matter to it, once
one knows what the section has for every key; it is proved for the outer and for the inner section,
and all that is said of the forms rests on it. `gives_iff_readOr` says of one setting that the reader
of its values comes to a value iff the document gives it; it needs nothing but one equivalence for
each sort of value. The two meet in `Config.ofFields_eq_some_iff`, and from then on no reader is
looked at again: what the document gives is a property of what it has for the keys, so documents that
agree there come to the same.

A date is a table to this reader, with its text under a key that no setting has, or, where a table of
strings is read, with one entry.
-/

open Toml (Node Fields Origin Datetime)

/-! ### Known keys -/

/-- The keys that a configuration knows. -/
inductive Key
  | bridge
  | variadic
  | warnUnsupported
  | cacheProxyTypes
  | access
  | global
  | types
deriving DecidableEq

namespace Key

/-- The name of the key in a table. -/
def name : Key → String
  | bridge => "bridge"
  | variadic => "variadic"
  | warnUnsupported => "warn_unsupported"
  | cacheProxyTypes => "cache_proxy_types"
  | access => "access"
  | global => "global"
  | types => "types"

/-- The place of the key in a list. The document as a whole is never a list. -/
def place : Key → Nat
  | bridge | variadic | global => 0
  | warnUnsupported | types => 1
  | cacheProxyTypes => 2
  | access => 3

/-- The section that the key belongs to. -/
def home? : Key → Option Key
  | bridge => none
  | variadic | warnUnsupported | cacheProxyTypes | access => some bridge
  | global | types => some access

/-- The key is that of a section. -/
def IsSection (k : Key) : Prop :=
  k = bridge ∨ k = access

instance (k : Key) : Decidable k.IsSection :=
  inferInstanceAs (Decidable (k = bridge ∨ k = access))

end Key

/-- What a section has for a key: a table under the name, a list in the place. -/
def Toml.Node.part? (k : Key) : Node → Option Node
  | .table _ fs => fs.lookup k.name
  | .array items | .tables items => items[k.place]?
  | _ => none

/-- The nodes that can be a section. A date is one as well, without any key that is known. -/
inductive Toml.Node.IsSection : Node → Prop
  | table (o : Origin) (fs : Fields) : IsSection (.table o fs)
  | array (items : List Node) : IsSection (.array items)
  | tables (items : List Node) : IsSection (.tables items)
  | datetime (d : Datetime) : IsSection (.datetime d)

/-- What refuses single values takes sections only. -/
theorem Toml.Node.isSection_of_eq_some {α : Type} (read : Node → Option α)
    (hstring : ∀ text, read (.string text) = none) (hinteger : ∀ i, read (.integer i) = none)
    (hfloat : ∀ text, read (.float text) = none) (hboolean : ∀ b, read (.boolean b) = none)
    {n : Node} {a : α} (h : read n = some a) : n.IsSection := by
  cases n with
  | string text => cases (hstring text).symm.trans h
  | integer i => cases (hinteger i).symm.trans h
  | float text => cases (hfloat text).symm.trans h
  | boolean b => cases (hboolean b).symm.trans h
  | datetime d => exact .datetime d
  | array items => exact .array items
  | tables items => exact .tables items
  | table o fs => exact .table o fs

namespace Key

/-- What a document has for a key. -/
def value? (doc : Fields) (k : Key) : Option Node :=
  match k with
  | bridge => doc.lookup bridge.name
  | variadic | warnUnsupported | cacheProxyTypes | access =>
    (doc.lookup bridge.name).bind (Node.part? k)
  | global | types =>
    ((doc.lookup bridge.name).bind (Node.part? access)).bind (Node.part? k)

variable {doc : Fields} {k s : Key} {n : Node}

/-- A key is looked for in what the document has for its section. -/
theorem value?_of_home? (h : k.home? = some s) :
    k.value? doc = (s.value? doc).bind (Node.part? k) := by
  cases k <;> cases h <;> rfl

/-- What the document has for the key can be a section. -/
def HasSection (doc : Fields) (k : Key) : Prop :=
  ∀ n, k.value? doc = some n → n.IsSection

/-- A node that can be a section is one in its place. -/
theorem hasSection_of_isSection (h : k.value? doc = some n) (hn : n.IsSection) : k.HasSection doc := by
  intro m hm
  obtain rfl := Option.some.inj (h.symm.trans hm)
  exact hn

/-- Only a section has parts. -/
theorem hasSection_of_value? (h : k.home? = some s) (hn : k.value? doc = some n) :
    s.HasSection doc := by
  intro m hm
  rw [value?_of_home? h, hm, Option.bind_some] at hn
  exact Node.isSection_of_eq_some (Node.part? k) (fun _ => rfl) (fun _ => rfl) (fun _ => rfl)
    (fun _ => rfl) hn

end Key

/-! ### Settings and the nodes that stand for them -/

/-- A setting with its value. -/
inductive Setting
  | variadic (p : VariadicPolicy)
  | warnUnsupported (on : Bool)
  | cacheProxyTypes (on : Bool)
  | global (permission : String)
  | types (es : Entries)

/-- The key of a setting. -/
def Setting.key : Setting → Key
  | variadic _ => .variadic
  | warnUnsupported _ => .warnUnsupported
  | cacheProxyTypes _ => .cacheProxyTypes
  | global _ => .global
  | types _ => .types

/-- The configuration has the setting. -/
def Config.Has (c : Config) : Setting → Prop
  | .variadic p => c.variadic = p
  | .warnUnsupported on => c.warnUnsupported = on
  | .cacheProxyTypes on => c.cacheProxyTypes = on
  | .global permission => c.access.global = permission
  | .types es => c.access.types = es

/-- The name of a policy in a document. -/
def VariadicPolicy.name : VariadicPolicy → String
  | alwaysFalse => "always-false"
  | declared => "declared"

/-- A section with nothing in it. -/
inductive Toml.Node.IsEmpty : Node → Prop
  | table (o : Origin) : IsEmpty (.table o [])
  | array : IsEmpty (.array [])
  | tables : IsEmpty (.tables [])

/-- A policy is given by its name, or by a table that has an empty section under the name and nothing
    else. -/
inductive VariadicPolicy.GivenBy (p : VariadicPolicy) : Node → Prop
  | name : GivenBy p (.string p.name)
  | sole (o : Origin) {n : Node} (h : n.IsEmpty) : GivenBy p (.table o [(p.name, n)])

/-- Entries are given by a table of strings: every key has the string that stands under it last, and
    no key that the table lacks has any. A date gives its text, under a key of its own. -/
inductive Entries.GivenBy (es : Entries) : Node → Prop
  | table (o : Origin) (fields : List (String × String))
      (h : ∀ k, es.get? k = fields.reverse.lookup k) :
      GivenBy es (.table o (fields.map fun f => (f.1, .string f.2)))
  | datetime (d : Datetime) (h : ∀ k, es.get? k = if k = datetimeKey then some d.text else none) :
      GivenBy es (.datetime d)

/-- The node stands for the value of the setting. -/
def Setting.GivenBy (n : Node) : Setting → Prop
  | variadic p => p.GivenBy n
  | warnUnsupported on | cacheProxyTypes on => n = .boolean on
  | global permission => n = .string permission
  | types es => es.GivenBy n

/-- The node is right for the key: where a section belongs it can be one, and where a setting belongs it
    stands for some value of it. -/
def Key.Accepts (k : Key) (n : Node) : Prop :=
  (k.IsSection ∧ n.IsSection) ∨ ∃ s : Setting, s.key = k ∧ s.GivenBy n

/-- The document gives the setting: it has a node for the key that stands for the value, or it lacks the
    key and the default configuration has the setting. -/
inductive Gives (doc : Fields) (s : Setting) : Prop
  | set {n : Node} (h : s.key.value? doc = some n) (given : s.GivenBy n)
  | kept (h : s.key.value? doc = none) (default : ({} : Config).Has s)

/-- A configuration has a setting for every key that is not that of a section. -/
theorem Config.exists_has (c : Config) {k : Key} (hk : ¬ k.IsSection) : ∃ s, s.key = k ∧ c.Has s := by
  cases k with
  | bridge => exact absurd (.inl rfl) hk
  | access => exact absurd (.inr rfl) hk
  | variadic => exact ⟨.variadic c.variadic, rfl, rfl⟩
  | warnUnsupported => exact ⟨.warnUnsupported c.warnUnsupported, rfl, rfl⟩
  | cacheProxyTypes => exact ⟨.cacheProxyTypes c.cacheProxyTypes, rfl, rfl⟩
  | global => exact ⟨.global c.access.global, rfl, rfl⟩
  | types => exact ⟨.types c.access.types, rfl, rfl⟩

/-- The key of a setting is not that of a section. -/
theorem Setting.not_isSection_key (s : Setting) : ¬ s.key.IsSection := by
  rintro (h | h) <;> cases s <;> cases h

/-- Settings for all keys make up a configuration. -/
theorem Config.exists_of_settings {P : Setting → Prop}
    (h : ∀ k : Key, ¬ k.IsSection → ∃ s : Setting, s.key = k ∧ P s) :
    ∃ c : Config, ∀ s, c.Has s → P s := by
  obtain ⟨v, hvkey, hv⟩ := h .variadic (by decide)
  obtain ⟨w, hwkey, hw⟩ := h .warnUnsupported (by decide)
  obtain ⟨p, hpkey, hp⟩ := h .cacheProxyTypes (by decide)
  obtain ⟨g, hgkey, hg⟩ := h .global (by decide)
  obtain ⟨t, htkey, ht⟩ := h .types (by decide)
  -- A setting with the key of the policy is one of the policy, and so on.
  cases v with | variadic v => ?_ | _ => cases hvkey
  cases w with | warnUnsupported w => ?_ | _ => cases hwkey
  cases p with | cacheProxyTypes p => ?_ | _ => cases hpkey
  cases g with | global g => ?_ | _ => cases hgkey
  cases t with | types t => ?_ | _ => cases htkey
  refine ⟨⟨v, w, p, ⟨g, t⟩⟩, fun s hs => ?_⟩
  cases s <;> cases hs <;> assumption

/-! ### Reading single values -/

section Values

variable {n : Node}

/-- A string is read from a string, and from nothing else. -/
theorem Toml.Node.string?_eq_some_iff {text : String} : n.string? = some text ↔ n = .string text := by
  cases n <;> simp [string?]

/-- A Boolean is read from a Boolean, and from nothing else. -/
theorem Toml.Node.boolean?_eq_some_iff {on : Bool} : n.boolean? = some on ↔ n = .boolean on := by
  cases n <;> simp [boolean?]

/-- The test for an empty section finds the sections with nothing in them. -/
theorem isEmptySection_eq_true_iff : isEmptySection n = true ↔ n.IsEmpty := by
  constructor
  · intro h
    cases n with
    | table o fs =>
      obtain rfl := List.isEmpty_iff.mp h
      exact .table o
    | array items =>
      obtain rfl := List.isEmpty_iff.mp h
      exact .array
    | tables items =>
      obtain rfl := List.isEmpty_iff.mp h
      exact .tables
    | string | integer | float | boolean | datetime => cases h
  · intro h
    cases h <;> rfl

/-- Each policy has one name, and no other text names one. -/
theorem VariadicPolicy.ofName_eq_some_iff {s : String} {p : VariadicPolicy} :
    ofName s = some p ↔ s = p.name := by
  constructor
  · intro h
    unfold ofName at h
    split at h <;> cases h <;> rfl
  · rintro rfl
    cases p <;> rfl

/-- A policy is read from the nodes that give it. -/
theorem VariadicPolicy.ofNode_eq_some_iff {p : VariadicPolicy} : ofNode n = some p ↔ p.GivenBy n := by
  constructor
  · intro h
    unfold ofNode at h
    split at h
    next s =>
      obtain rfl := ofName_eq_some_iff.mp h
      exact .name
    next o s m =>
      obtain ⟨hm, hs⟩ := Option.ite_none_right_eq_some.mp h
      obtain rfl := ofName_eq_some_iff.mp hs
      exact .sole o (isEmptySection_eq_true_iff.mp hm)
    next => cases h
  · intro h
    cases h with
    | name => exact ofName_eq_some_iff.mpr rfl
    | sole o hm =>
      rw [ofNode, if_pos (isEmptySection_eq_true_iff.mpr hm)]
      exact ofName_eq_some_iff.mpr rfl

/-- Fields with strings are read as these strings, each under its key. -/
theorem mapM_string?_map (es : List (String × String)) :
    ((es.map fun e => (e.1, Node.string e.2)).mapM fun f => return (f.1, ← f.2.string?)) =
      some es := by
  induction es with
  | nil => rfl
  | cons e es ih =>
    rw [List.map_cons, List.mapM_cons, ih]
    rfl

/-- Fields that can be read so have strings. -/
theorem eq_map_of_mapM_string? {fs : Fields} {es : List (String × String)}
    (h : (fs.mapM fun f => return (f.1, ← f.2.string?)) = some es) :
    fs = es.map fun e => (e.1, .string e.2) := by
  induction fs generalizing es with
  | nil =>
    cases h
    rfl
  | cons f fs ih =>
    rw [List.mapM_cons] at h
    obtain ⟨e, he, h⟩ := Option.bind_eq_some_iff.mp h
    obtain ⟨es', hes, h⟩ := Option.bind_eq_some_iff.mp h
    obtain ⟨text, htext, he⟩ := Option.bind_eq_some_iff.mp he
    obtain rfl := Option.some.inj he
    obtain rfl := Option.some.inj h
    rw [List.map_cons, ← ih hes, ← Node.string?_eq_some_iff.mp htext]

/-- A map with one entry finds nothing else. -/
theorem Entries.get?_ofList_singleton (key value k : String) :
    (ofList [(key, value)]).get? k = if k = key then some value else none := by
  rw [get?_ofList, List.reverse_singleton, List.lookup_cons, List.lookup_nil]
  by_cases hk : k = key
  · rw [if_pos hk, hk, beq_self_eq_true]
  · rw [if_neg hk, beq_false_of_ne hk]

/-- Entries are read from the nodes that give them. -/
theorem Entries.ofNode_eq_some_iff {es : Entries} : ofNode n = some es ↔ es.GivenBy n := by
  constructor
  · intro h
    unfold ofNode at h
    split at h
    next o fs =>
      obtain ⟨l, hl, hes⟩ := Option.bind_eq_some_iff.mp h
      obtain rfl := eq_map_of_mapM_string? hl
      obtain rfl := Option.some.inj hes
      exact .table o l (get?_ofList l)
    next d =>
      obtain rfl := Option.some.inj h
      exact .datetime d (get?_ofList_singleton datetimeKey d.text)
    next => cases h
  · intro h
    -- The reader fills a map from the fields, and a map is told by what its keys find.
    cases h with
    | table o l hes =>
      have heq : ofList l = es := ext_get? fun k => (get?_ofList l k).trans (hes k).symm
      exact Option.bind_eq_some_iff.mpr ⟨l, mapM_string?_map l, congrArg some heq⟩
    | datetime d hes =>
      have heq : ofList [(datetimeKey, d.text)] = es :=
        ext_get? fun k => (get?_ofList_singleton datetimeKey d.text k).trans (hes k).symm
      exact congrArg some heq

end Values

/-! ### Reading sections -/

/-- Read what is there, or else take the default. -/
def readOr {α : Type} (read : Node → Option α) (default : α) : Option Node → Option α
  | none => some default
  | some n => read n

/-- Read the settings of an access section from what it has for its keys. -/
def AccessConfig.ofParts (part? : Key → Option Node) : Option AccessConfig := do
  return {
    global := ← readOr Node.string? ({} : AccessConfig).global (part? .global)
    types := ← readOr Entries.ofNode ({} : AccessConfig).types (part? .types) }

/-- Read the settings of a bridge section from what it has for its keys. -/
def Config.ofParts (part? : Key → Option Node) : Option Config := do
  return {
    variadic := ← readOr VariadicPolicy.ofNode ({} : Config).variadic (part? .variadic)
    warnUnsupported := ← readOr Node.boolean? ({} : Config).warnUnsupported (part? .warnUnsupported)
    cacheProxyTypes := ← readOr Node.boolean? ({} : Config).cacheProxyTypes (part? .cacheProxyTypes)
    access := ← readOr AccessConfig.ofNode ({} : Config).access (part? .access) }

/-- `read` reads sections, each of them through what it has for the keys alone; where there is no section
    the default is what a section without keys comes to. -/
structure ReadsSections {α : Type} (read : Node → Option α)
    (ofParts : (Key → Option Node) → Option α) (default : α) : Prop where
  absent : ofParts (fun _ => none) = some default
  present : ∀ n, n.IsSection → read n = ofParts fun k => n.part? k
  only : ∀ n a, read n = some a → n.IsSection

/-- A section that may be missing is read through what there is for its keys. A missing section has
    nothing for any key. -/
theorem ReadsSections.readOr_eq_some_iff {α : Type} {read : Node → Option α}
    {ofParts : (Key → Option Node) → Option α} {default a : α}
    (h : ReadsSections read ofParts default) {o : Option Node} :
    readOr read default o = some a ↔
      (∀ n, o = some n → n.IsSection) ∧ ofParts (fun k => o.bind (Node.part? k)) = some a := by
  cases o with
  | none =>
    -- Nothing is there for any key, which is what the default comes of.
    have hparts : ofParts (fun k => (none : Option Node).bind (Node.part? k)) = some default :=
      h.absent
    rw [hparts]
    constructor
    · intro ha
      exact ⟨fun _ hn => (nomatch hn), ha⟩
    · rintro ⟨-, ha⟩
      exact ha
  | some n =>
    constructor
    · intro ha
      have hn := h.only n a ha
      rw [readOr, h.present n hn] at ha
      exact ⟨fun m hm => Option.some.inj hm ▸ hn, ha⟩
    · rintro ⟨hn, ha⟩
      rw [readOr, h.present n (hn n rfl)]
      exact ha

/-- Tables, lists and dates are read alike as the access section. -/
theorem AccessConfig.readsSections : ReadsSections ofNode ofParts ({} : AccessConfig) where
  absent := rfl
  present := by
    intro n h
    cases h <;> rfl
  only _ _ := Node.isSection_of_eq_some ofNode (fun _ => rfl) (fun _ => rfl) (fun _ => rfl) fun _ => rfl

/-- So they are as the bridge section. -/
theorem Config.readsSections : ReadsSections ofNode ofParts ({} : Config) where
  absent := rfl
  present := by
    intro n h
    cases h <;> rfl
  only _ _ := Node.isSection_of_eq_some ofNode (fun _ => rfl) (fun _ => rfl) (fun _ => rfl) fun _ => rfl

section Parts

variable {part? : Key → Option Node}

/-- An access section is read setting by setting. -/
theorem AccessConfig.ofParts_eq_some_iff {a : AccessConfig} :
    ofParts part? = some a ↔
      readOr Node.string? ({} : AccessConfig).global (part? .global) = some a.global ∧
        readOr Entries.ofNode ({} : AccessConfig).types (part? .types) = some a.types := by
  constructor
  · intro h
    obtain ⟨g, hg, h⟩ := Option.bind_eq_some_iff.mp h
    obtain ⟨t, ht, h⟩ := Option.bind_eq_some_iff.mp h
    obtain rfl := Option.some.inj h
    exact ⟨hg, ht⟩
  · rintro ⟨hg, ht⟩
    rw [ofParts, hg, ht]
    rfl

/-- So is a bridge section, of which one part is the access section. -/
theorem Config.ofParts_eq_some_iff {c : Config} :
    ofParts part? = some c ↔
      readOr VariadicPolicy.ofNode ({} : Config).variadic (part? .variadic) = some c.variadic ∧
        readOr Node.boolean? ({} : Config).warnUnsupported (part? .warnUnsupported) =
          some c.warnUnsupported ∧
        readOr Node.boolean? ({} : Config).cacheProxyTypes (part? .cacheProxyTypes) =
          some c.cacheProxyTypes ∧
        readOr AccessConfig.ofNode ({} : Config).access (part? .access) = some c.access := by
  constructor
  · intro h
    obtain ⟨v, hv, h⟩ := Option.bind_eq_some_iff.mp h
    obtain ⟨w, hw, h⟩ := Option.bind_eq_some_iff.mp h
    obtain ⟨p, hp, h⟩ := Option.bind_eq_some_iff.mp h
    obtain ⟨a, ha, h⟩ := Option.bind_eq_some_iff.mp h
    obtain rfl := Option.some.inj h
    exact ⟨hv, hw, hp, ha⟩
  · rintro ⟨hv, hw, hp, ha⟩
    rw [ofParts, hv, hw, hp, ha]
    rfl

end Parts

/-! ### Reading documents -/

section Documents

variable {doc doc' : Fields}

/-- A document gives a setting iff the reader of its values comes to its value. -/
theorem gives_iff_readOr {α : Type} {read : Node → Option α} {default a : α} {s : Setting}
    (hgiven : ∀ n, read n = some a ↔ s.GivenBy n) (hdefault : ({} : Config).Has s ↔ default = a) :
    Gives doc s ↔ readOr read default (s.key.value? doc) = some a := by
  constructor
  · intro h
    cases h with
    -- Given by a node, or left to the default: the reader has the same two cases.
    | set h given =>
      rw [h]
      exact (hgiven _).mpr given
    | kept h hdef =>
      rw [h]
      exact congrArg some (hdefault.mp hdef)
  · intro h
    cases hvalue : s.key.value? doc with
    | none =>
      rw [hvalue] at h
      exact .kept hvalue (hdefault.mpr (Option.some.inj h))
    | some n =>
      rw [hvalue] at h
      exact .set hvalue ((hgiven n).mp h)

/-- What it takes to give the policy for variadic members. -/
theorem gives_variadic_iff {p : VariadicPolicy} : Gives doc (.variadic p) ↔
    readOr VariadicPolicy.ofNode ({} : Config).variadic (Key.variadic.value? doc) = some p :=
  gives_iff_readOr (fun _ => VariadicPolicy.ofNode_eq_some_iff) Iff.rfl

/-- What it takes to give the switch for warnings. -/
theorem gives_warnUnsupported_iff {on : Bool} : Gives doc (.warnUnsupported on) ↔
    readOr Node.boolean? ({} : Config).warnUnsupported (Key.warnUnsupported.value? doc) = some on :=
  gives_iff_readOr (fun _ => Node.boolean?_eq_some_iff) Iff.rfl

/-- What it takes to give the switch for the cache. -/
theorem gives_cacheProxyTypes_iff {on : Bool} : Gives doc (.cacheProxyTypes on) ↔
    readOr Node.boolean? ({} : Config).cacheProxyTypes (Key.cacheProxyTypes.value? doc) = some on :=
  gives_iff_readOr (fun _ => Node.boolean?_eq_some_iff) Iff.rfl

/-- What it takes to give the default permission. -/
theorem gives_global_iff {permission : String} : Gives doc (.global permission) ↔
    readOr Node.string? ({} : AccessConfig).global (Key.global.value? doc) = some permission :=
  gives_iff_readOr (fun _ => Node.string?_eq_some_iff) Iff.rfl

/-- What it takes to give the permissions of types. -/
theorem gives_types_iff {es : Entries} : Gives doc (.types es) ↔
    readOr Entries.ofNode ({} : AccessConfig).types (Key.types.value? doc) = some es :=
  gives_iff_readOr (fun _ => Entries.ofNode_eq_some_iff) Iff.rfl

/-- A document gives at most one setting for a key. -/
theorem Gives.unique {s s' : Setting} (h : Gives doc s) (h' : Gives doc s') (hkey : s.key = s'.key) :
    s = s' := by
  cases s <;> cases s' <;> cases hkey
  all_goals
    simp only [gives_variadic_iff, gives_warnUnsupported_iff, gives_cacheProxyTypes_iff,
      gives_global_iff, gives_types_iff] at h h'
    rw [Option.some.inj (h.symm.trans h')]

/-- A document is read as the configuration whose settings it gives, if its sections are sections. -/
theorem Config.ofFields_eq_some_iff {c : Config} :
    ofFields doc = some c ↔
      (∀ k, Key.IsSection k → k.HasSection doc) ∧ ∀ s, c.Has s → Gives doc s := by
  have hread : ofFields doc = readOr ofNode {} (Key.bridge.value? doc) := rfl
  rw [hread, readsSections.readOr_eq_some_iff, ofParts_eq_some_iff]
  -- One of the parts of the bridge section is the access section, with parts of its own.
  have haccess := AccessConfig.readsSections.readOr_eq_some_iff
    (a := c.access) (o := Key.access.value? doc)
  constructor
  · rintro ⟨hbridge, hv, hw, hp, ha⟩
    obtain ⟨hsection, ha⟩ := haccess.mp ha
    obtain ⟨hg, ht⟩ := AccessConfig.ofParts_eq_some_iff.mp ha
    refine ⟨?_, fun s hs => ?_⟩
    · rintro k (rfl | rfl)
      · exact hbridge
      · exact hsection
    · cases s with
      | variadic p => exact gives_variadic_iff.mpr (hs ▸ hv)
      | warnUnsupported on => exact gives_warnUnsupported_iff.mpr (hs ▸ hw)
      | cacheProxyTypes on => exact gives_cacheProxyTypes_iff.mpr (hs ▸ hp)
      | global permission => exact gives_global_iff.mpr (hs ▸ hg)
      | types es => exact gives_types_iff.mpr (hs ▸ ht)
  · rintro ⟨hsections, hgives⟩
    have hg := gives_global_iff.mp (hgives (.global c.access.global) rfl)
    have ht := gives_types_iff.mp (hgives (.types c.access.types) rfl)
    refine ⟨hsections .bridge (.inl rfl), ?_, ?_, ?_, ?_⟩
    · exact gives_variadic_iff.mp (hgives (.variadic c.variadic) rfl)
    · exact gives_warnUnsupported_iff.mp (hgives (.warnUnsupported c.warnUnsupported) rfl)
    · exact gives_cacheProxyTypes_iff.mp (hgives (.cacheProxyTypes c.cacheProxyTypes) rfl)
    · refine haccess.mpr ⟨hsections .access (.inr rfl), ?_⟩
      exact AccessConfig.ofParts_eq_some_iff.mpr ⟨hg, ht⟩

/-- Whatever the document has for a known key is right for it. -/
def Accepted (doc : Fields) : Prop :=
  ∀ (k : Key) n, k.value? doc = some n → k.Accepts n

/-- A document with the right nodes gives a setting for every key. -/
theorem Accepted.exists_gives (h : Accepted doc) {k : Key} (hk : ¬ k.IsSection) :
    ∃ s : Setting, s.key = k ∧ Gives doc s := by
  cases hvalue : k.value? doc with
  | none =>
    obtain ⟨s, rfl, hs⟩ := ({} : Config).exists_has hk
    exact ⟨s, rfl, .kept hvalue hs⟩
  | some n =>
    rcases h k n hvalue with ⟨hsection, -⟩ | ⟨s, rfl, hs⟩
    · exact absurd hsection hk
    · exact ⟨s, rfl, .set hvalue hs⟩

/-- A document with the right nodes has sections where sections belong. -/
theorem Accepted.hasSection (h : Accepted doc) {k : Key} (hk : k.IsSection) : k.HasSection doc := by
  intro n hn
  rcases h k n hn with ⟨-, hsection⟩ | ⟨s, rfl, -⟩
  · exact hsection
  · exact absurd hk s.not_isSection_key

/-- A document is read iff it has the right nodes under the known keys. -/
theorem Config.exists_ofFields_iff : (∃ c, ofFields doc = some c) ↔ Accepted doc := by
  constructor
  · rintro ⟨c, hc⟩ k n hn
    obtain ⟨hsections, hgives⟩ := ofFields_eq_some_iff.mp hc
    by_cases hk : k.IsSection
    · exact .inl ⟨hk, hsections k hk n hn⟩
    · -- The setting that came out of it is what the node stands for.
      obtain ⟨s, rfl, hs⟩ := c.exists_has hk
      refine .inr ⟨s, rfl, ?_⟩
      cases hgives s hs with
      | set hvalue given =>
        obtain rfl := Option.some.inj (hvalue.symm.trans hn)
        exact given
      | kept hvalue => cases hvalue.symm.trans hn
  · intro h
    obtain ⟨c, hc⟩ := exists_of_settings fun _ => h.exists_gives
    exact ⟨c, ofFields_eq_some_iff.mpr ⟨fun _ => h.hasSection, hc⟩⟩

/-- The configuration has the settings that the document gives, and no others. -/
theorem Config.has_iff_gives {c : Config} (h : ofFields doc = some c) (s : Setting) :
    c.Has s ↔ Gives doc s := by
  obtain ⟨-, hgives⟩ := ofFields_eq_some_iff.mp h
  refine ⟨hgives s, fun hs => ?_⟩
  -- The configuration has a setting for the key, and the document gives only one.
  obtain ⟨s', hkey, hs'⟩ := c.exists_has s.not_isSection_key
  obtain rfl := (hgives s' hs').unique hs hkey
  exact hs'

/-! ### What does not count

Two documents are compared through what they have for the known keys. The order of fields, unknown
keys, and the form of a section are not seen there.
-/

/-- The documents have the same for the keys of the settings, and what stands for a section is one in both
    or in neither. -/
structure SameSettings (doc doc' : Fields) : Prop where
  settings : ∀ s : Setting, s.key.value? doc' = s.key.value? doc
  sections : ∀ k : Key, k.IsSection → (k.HasSection doc' ↔ k.HasSection doc)

/-- Whether a document gives a setting depends on what it has for its key, and on nothing else. -/
theorem Gives.congr {s : Setting} (h : s.key.value? doc' = s.key.value? doc) (hs : Gives doc s) :
    Gives doc' s := by
  cases hs with
  | set hvalue given => exact .set (h.trans hvalue) given
  | kept hvalue hdefault => exact .kept (h.trans hvalue) hdefault

/-- Documents with the same settings are read alike. -/
theorem Config.ofFields_congr (h : SameSettings doc doc') : ofFields doc' = ofFields doc := by
  apply Option.ext
  intro c
  -- The equivalence speaks of the document through the known keys alone, so it carries over.
  have hsections : (∀ k : Key, k.IsSection → k.HasSection doc') ↔
      ∀ k : Key, k.IsSection → k.HasSection doc := forall₂_congr h.sections
  have hsettings : (∀ s, c.Has s → Gives doc' s) ↔ ∀ s, c.Has s → Gives doc s :=
    forall₂_congr fun s _ => ⟨.congr (h.settings s).symm, .congr (h.settings s)⟩
  rw [ofFields_eq_some_iff, ofFields_eq_some_iff, hsections, hsettings]

/-- The documents have the same for the keys of section `s`. -/
def AlikeWithin (s : Key) (doc doc' : Fields) : Prop :=
  ∀ k : Key, k.home? = some s → k.value? doc' = k.value? doc

/-- The documents have the same for the keys that stand beside `s`. -/
def AlikeBeside (s : Key) (doc doc' : Fields) : Prop :=
  ∀ k : Key, k ≠ s → k.home? = s.home? → k.value? doc' = k.value? doc

/-- Documents have the same settings if they have the same in a section and beside it. -/
theorem SameSettings.of_alike {s : Key} (hs : s.IsSection) (hwithin : AlikeWithin s doc doc')
    (hbeside : AlikeBeside s doc doc') (hself : s.HasSection doc' ↔ s.HasSection doc)
    (hhome : ∀ k, s.home? = some k → (k.HasSection doc' ↔ k.HasSection doc)) :
    SameSettings doc doc' := by
  rcases hs with rfl | rfl
  · have haccess := hwithin .access rfl
    refine ⟨fun s => ?_, ?_⟩
    · cases s with
      | variadic => exact hwithin .variadic rfl
      | warnUnsupported => exact hwithin .warnUnsupported rfl
      | cacheProxyTypes => exact hwithin .cacheProxyTypes rfl
      | global | types =>
        -- Its section is within this one.
        exact congrArg (Option.bind · _) haccess
    · rintro k (rfl | rfl)
      · exact hself
      · rw [Key.HasSection, haccess, Key.HasSection]
  · refine ⟨fun s => ?_, ?_⟩
    · cases s with
      | variadic => exact hbeside .variadic (by decide) rfl
      | warnUnsupported => exact hbeside .warnUnsupported (by decide) rfl
      | cacheProxyTypes => exact hbeside .cacheProxyTypes (by decide) rfl
      | global => exact hwithin .global rfl
      | types => exact hwithin .types rfl
    · rintro k (rfl | rfl)
      · exact hhome .bridge rfl
      · exact hself

/-- A list, and a table with the same under the names as the list has in the places. -/
theorem SameSettings.of_positional {s : Key} {m : Node} {items : List Node} {o : Origin} {fs : Fields}
    (hs : s.IsSection) (hm : s.value? doc = some m) (hitems : m = .array items ∨ m = .tables items)
    (hfs : s.value? doc' = some (.table o fs))
    (hparts : ∀ k : Key, k.home? = some s → fs.lookup k.name = items[k.place]?)
    (hbeside : AlikeBeside s doc doc') : SameSettings doc doc' := by
  -- Both sorts of list have a part in the place of the key, or none.
  obtain ⟨hsection, hplaces⟩ : m.IsSection ∧ ∀ k : Key, m.part? k = items[k.place]? := by
    rcases hitems with rfl | rfl
    · exact ⟨.array items, fun _ => rfl⟩
    · exact ⟨.tables items, fun _ => rfl⟩
  have hwithin : AlikeWithin s doc doc' := by
    intro k hk
    rw [Key.value?_of_home? hk, Key.value?_of_home? hk, hm, hfs]
    exact (hparts k hk).trans (hplaces k).symm
  have hself := Key.hasSection_of_isSection hm hsection
  have hself' := Key.hasSection_of_isSection hfs (.table o fs)
  refine .of_alike hs hwithin hbeside (iff_of_true hself' hself) fun k hk => ?_
  exact iff_of_true (Key.hasSection_of_value? hk hfs) (Key.hasSection_of_value? hk hm)

/-- A section without a known key, and none. -/
theorem SameSettings.of_idle {s : Key} {n : Node} (hs : s.IsSection) (hn : s.value? doc = some n)
    (hsection : n.IsSection) (hparts : ∀ k : Key, k.home? = some s → n.part? k = none)
    (hnone : s.value? doc' = none) (hhome : ∀ k, s.home? = some k → k.HasSection doc')
    (hbeside : AlikeBeside s doc doc') : SameSettings doc doc' := by
  have hwithin : AlikeWithin s doc doc' := by
    intro k hk
    rw [Key.value?_of_home? hk, Key.value?_of_home? hk, hn, hnone]
    exact (hparts k hk).symm
  have hself := Key.hasSection_of_isSection hn hsection
  have hself' : s.HasSection doc' := by
    intro m hm
    cases hnone.symm.trans hm
  refine .of_alike hs hwithin hbeside (iff_of_true hself' hself) fun k hk => ?_
  exact iff_of_true (hhome k hk) (Key.hasSection_of_value? hk hn)

end Documents

namespace Config

variable {doc : Fields}

/-- The configuration that a document comes to. -/
def ofDocument (doc : Fields) : Except ConfigError Config :=
  match ofFields doc with
  | some c => .ok c
  | none => .error .malformed

/-- What a document comes to as a configuration. -/
structure OverrideLaws (doc : Fields) : Prop where
  /-- A text comes to what the document in it comes to. -/
  text : ∀ text, Toml.parse text = some doc → parse text = ofDocument doc
  /-- If all that it has for known keys is right for them, it comes to the default configuration, changed
      exactly at these keys. -/
  changed : Accepted doc → ∃ c, ofDocument doc = .ok c ∧ ∀ s, c.Has s ↔ Gives doc s
  /-- If anything is not, it is malformed, whatever else it says. -/
  spoiled : ∀ (k : Key) n, k.value? doc = some n → ¬ k.Accepts n →
    ofDocument doc = .error .malformed
  /-- Other keys, the order of the keys and the form of the sections do not count. -/
  settings : ∀ doc', SameSettings doc doc' → ofDocument doc' = ofDocument doc
  /-- A list comes to the same as a table that has under the names what the list, as far as it goes, has in
      the places. -/
  positional : ∀ (s : Key) doc' m items o fs, s.IsSection →
    s.value? doc = some m → m = .array items ∨ m = .tables items →
    s.value? doc' = some (.table o fs) →
    (∀ k : Key, k.home? = some s → fs.lookup k.name = items[k.place]?) →
    AlikeBeside s doc doc' → ofDocument doc' = ofDocument doc
  /-- A section without a known key comes to the same as none. -/
  idle : ∀ (s : Key) doc' n, s.IsSection → s.value? doc = some n → n.IsSection →
    (∀ k : Key, k.home? = some s → n.part? k = none) → s.value? doc' = none →
    (∀ k, s.home? = some k → k.HasSection doc') →
    AlikeBeside s doc doc' → ofDocument doc' = ofDocument doc
  /-- Without any setting, with or without sections, it comes to the default configuration. -/
  silent : (∀ k : Key, k.IsSection → k.HasSection doc) → (∀ s : Setting, s.key.value? doc = none) →
    ofDocument doc = .ok {}

/-- Documents with the same settings come to the same. -/
theorem ofDocument_congr {doc' : Fields} (h : SameSettings doc doc') :
    ofDocument doc' = ofDocument doc := by
  rw [ofDocument, ofFields_congr h, ofDocument]

/-- The laws hold of every document. -/
theorem overrideLaws (doc : Fields) : OverrideLaws doc where
  text := by
    intro text h
    unfold parse
    rw [h]
    rfl
  changed := by
    intro h
    obtain ⟨c, hc⟩ := exists_ofFields_iff.mpr h
    exact ⟨c, by rw [ofDocument, hc], has_iff_gives hc⟩
  spoiled := by
    intro k n hn hnot
    have hnone : ofFields doc = none := by
      cases hc : ofFields doc with
      | none => rfl
      | some c => exact absurd (exists_ofFields_iff.mp ⟨c, hc⟩ k n hn) hnot
    rw [ofDocument, hnone]
  settings _ h := ofDocument_congr h
  positional _ _ _ _ _ _ hs hm hitems hfs hparts hbeside :=
    ofDocument_congr (.of_positional hs hm hitems hfs hparts hbeside)
  idle _ _ _ hs hn hsection hparts hnone hhome hbeside :=
    ofDocument_congr (.of_idle hs hn hsection hparts hnone hhome hbeside)
  silent := by
    intro hsections hnone
    have hread : ofFields doc = some {} :=
      ofFields_eq_some_iff.mpr ⟨hsections, fun s hs => .kept (hnone s) hs⟩
    rw [ofDocument, hread]

/-- Lists and tables, with an unknown key and another order, come to the same. -/
example :
    let config : Config := { variadic := .declared, access := { global := "NONE" } }
    (parse "bridge=['declared',true,true,['NONE']]").toOption = some config ∧
      (parse "bridge.access.global='NONE'\nbridge.x=3\nbridge.variadic='declared'").toOption =
        some config := by
  decide +kernel

end Config

end Interop
