import Interop.Toml.Node

namespace Interop.Toml

/-!
# From statements to a document

* `Statement` — a line of a document that says something: a header or a key with its value.
* `update` — change the table at the end of a path, making the tables that are missing on the way.
* `assemble` — the fields of the document that the statements describe, if they agree.
-/

/-- A line of a document. A key is a path of tables and a last part. -/
inductive Statement
  | assign (path : List String) (key : String) (value : Node)
  | header (path : List String) (key : String)
  | arrayHeader (path : List String) (key : String)

/-- Put `n` in the place of the value of `k`. -/
def replaceField (k : String) (n : Node) (fs : Fields) : Fields :=
  fs.map fun f => if f.1 == k then (k, n) else f

/-- Change the table at the end of a path with `change`, which may refuse. Missing tables are made;
    dotted keys make tables that only dotted keys may enter again, and do not enter a table with a
    header of its own. Under a repeated header the path leads into the last table. -/
def update (viaDots : Bool) (change : Origin → Fields → Option (Origin × Fields)) :
    List String → Origin → Fields → Option (Origin × Fields)
  | [], origin, fs => change origin fs
  | k :: ks, origin, fs =>
    match fs.lookup k with
    | none => do
      let (o, gs) ← update viaDots change ks (if viaDots then .dotted else .implied) []
      return (origin, fs ++ [(k, .table o gs)])
    | some (.table o gs) =>
      if o = .inline ∨ (viaDots ∧ o = .header) then none
      else do
        let (o', gs') ← update viaDots change ks o gs
        return (origin, replaceField k (.table o' gs') fs)
    | some (.tables items) =>
      match items.getLast? with
      | some (.table o gs) => do
        let (o', gs') ← update viaDots change ks o gs
        return (origin, replaceField k (.tables (items.dropLast ++ [.table o' gs'])) fs)
      | _ => none
    | some _ => none

/-- Give a table a new field. A table made by dotted keys takes fields by dotted keys alone, any
    other table by undotted keys alone. -/
def assignField (path : List String) (key : String) (value : Node) (origin : Origin) (fs : Fields) :
    Option (Origin × Fields) :=
  if decide (origin = .dotted) = path.isEmpty then none
  else match fs.lookup key with
    | some _ => none
    | none => some (origin, fs ++ [(key, value)])

/-- Assign a dotted key within a table. -/
def assign (path : List String) (key : String) (value : Node) (origin : Origin) (fs : Fields) :
    Option (Origin × Fields) :=
  update true (assignField path key value) path origin fs

/-- Open the table `key` under a header of its own. Only a table that was implied so far may exist
    already. -/
def openTable (key : String) (origin : Origin) (fs : Fields) : Option (Origin × Fields) :=
  match fs.lookup key with
  | none => some (origin, fs ++ [(key, .table .header [])])
  | some (.table .implied gs) => some (origin, replaceField key (.table .header gs) fs)
  | some _ => none

/-- Open one more table under the repeated header `key`. -/
def openArrayTable (key : String) (origin : Origin) (fs : Fields) : Option (Origin × Fields) :=
  match fs.lookup key with
  | none => some (origin, fs ++ [(key, .tables [.table .header []])])
  | some (.tables items) =>
    some (origin, replaceField key (.tables (items ++ [.table .header []])) fs)
  | some _ => none

/-- A document in the making: its fields and the path of the table whose header came last. -/
structure Draft where
  fields : Fields := []
  current : List String := []

/-- Change a table of the draft, reached by headers. -/
def Draft.change (d : Draft) (path : List String)
    (change : Origin → Fields → Option (Origin × Fields)) : Option Fields :=
  (update false change path .header d.fields).map (·.2)

/-- Take in one statement. -/
def Draft.add (d : Draft) : Statement → Option Draft
  | .assign path key value => do
    return { d with fields := ← d.change d.current (assign path key value) }
  | .header path key => do
    return { fields := ← d.change path (openTable key), current := path ++ [key] }
  | .arrayHeader path key => do
    return { fields := ← d.change path (openArrayTable key), current := path ++ [key] }

/-- The fields of the document that the statements describe. -/
def assemble (ss : List Statement) : Option Fields :=
  (ss.foldlM Draft.add {}).map Draft.fields

end Interop.Toml
