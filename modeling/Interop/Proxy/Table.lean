import Interop.Interface
import Interop.Error

namespace Interop

/-!
# Dispatch tables

A proxy type flattens the methods of its interfaces into slots. Look-up is by signature; where
several interfaces declare one signature, the first declaration owns the slot, and all of them must
agree on the return type.

* `DispatchTable` — the slots and an index of their signatures, which go together.
* `DispatchTable.slotOf`, `DispatchTable.slot?`, `DispatchTable.resolve` — the index of a signature, the
  slot at an index, the slot of a signature; `DispatchTable.slot?_slotOf` ties the three together.
* `DispatchTable.push`, `DispatchTable.add` — one more slot; one more declaration.
* `DispatchTable.build` — the table of an ordered interface list.

The index could be computed from the slots, and `indexed` says that it always agrees with them. So a
table in which the two disagree cannot be built, and statements about tables are statements about
slots. That no signature has two slots follows, since the index has one place for it.
-/

/-- The slots of a proxy type in order of first declaration, and the index of every signature that has
    a slot. -/
structure DispatchTable where
  slots : List Method
  index : List (Signature × Nat)
  /-- The index of a signature is where its slot stands. -/
  indexed : ∀ s n, index.lookup s = some n ↔ (slots.map (·.signature))[n]? = some s
deriving DecidableEq

namespace DispatchTable

/-- The table without slots. -/
def empty : DispatchTable where
  slots := []
  index := []
  indexed := by simp

variable (t : DispatchTable)

/-- The index of the slot that answers calls of signature `s`. -/
def slotOf (s : Signature) : Option Nat :=
  t.index.lookup s

/-- The slot at index `n`. -/
def slot? (n : Nat) : Option Method :=
  t.slots[n]?

/-- The number of slots. -/
def size : Nat :=
  t.slots.length

/-- Whether the table has no slot. -/
def isEmpty : Bool :=
  t.slots.isEmpty

/-- A signature has the index of its slot. -/
theorem slotOf_eq_some_iff {s : Signature} {n : Nat} :
    t.slotOf s = some n ↔ ∃ m, t.slot? n = some m ∧ m.signature = s := by
  rw [slotOf, t.indexed, List.getElem?_map, Option.map_eq_some_iff]
  rfl

/-- No index points beyond the slots. -/
theorem lt_length_of_slotOf {s : Signature} {n : Nat} (h : t.slotOf s = some n) :
    n < t.slots.length := by
  obtain ⟨m, hm, -⟩ := t.slotOf_eq_some_iff.mp h
  exact (List.getElem?_eq_some_iff.mp hm).1

/-- The slot that answers calls of signature `s`. -/
def resolve (s : Signature) : Option Method :=
  match h : t.slotOf s with
  | none => none
  | some n => some (t.slots.get ⟨n, t.lt_length_of_slotOf h⟩)

/-- The slot at the index of a signature is the slot of the signature. -/
theorem slot?_slotOf (s : Signature) : (t.slotOf s).bind t.slot? = t.resolve s := by
  unfold resolve
  split
  next h => simp [h]
  next n h => simp [h, slot?]

/-- A signature is resolved to the slot that carries it. -/
theorem resolve_eq_some_iff {s : Signature} {m : Method} :
    t.resolve s = some m ↔ m ∈ t.slots ∧ m.signature = s := by
  simp only [← slot?_slotOf, Option.bind_eq_some_iff, slotOf_eq_some_iff]
  constructor
  · rintro ⟨n, ⟨m', hm', hs⟩, hm⟩
    obtain rfl := Option.some.inj (hm'.symm.trans hm)
    exact ⟨List.mem_of_getElem? hm, hs⟩
  · rintro ⟨hm, hs⟩
    obtain ⟨n, hn⟩ := List.getElem?_of_mem hm
    exact ⟨n, ⟨m, hn, hs⟩, hn⟩

/-- A signature has an index iff it has a slot. -/
theorem isSome_slotOf (s : Signature) : (t.slotOf s).isSome = (t.resolve s).isSome := by
  rw [← slot?_slotOf]
  cases hn : t.slotOf s with
  | none => rfl
  | some n =>
    obtain ⟨m, hm, -⟩ := t.slotOf_eq_some_iff.mp hn
    rw [Option.bind_some, hm]
    rfl

/-- Slots have signatures of their own. -/
theorem nodup_signatures : (t.slots.map (·.signature)).Nodup := by
  refine List.pairwise_iff_getElem.mpr fun i j hi hj hlt heq => ?_
  have hfirst := (t.indexed _ i).mpr (List.getElem?_eq_getElem hi)
  have hsecond := (t.indexed _ j).mpr (List.getElem?_eq_getElem hj)
  rw [heq, hsecond] at hfirst
  exact Nat.ne_of_gt hlt (Option.some.inj hfirst)

/-- What is resolved is the only slot of the signature, so a search of the slots finds it. -/
theorem resolve_eq_find? (s : Signature) : t.resolve s = t.slots.find? (·.signature == s) := by
  cases hm : t.slots.find? (·.signature == s) with
  | none =>
    have hno : ∀ m ∈ t.slots, m.signature ≠ s := by simpa using hm
    cases hr : t.resolve s with
    | none => rfl
    | some m => exact absurd (t.resolve_eq_some_iff.mp hr).2 (hno m (t.resolve_eq_some_iff.mp hr).1)
  | some m =>
    exact t.resolve_eq_some_iff.mpr ⟨List.mem_of_find?_eq_some hm, by simpa using List.find?_some hm⟩

/-- With one more slot, for a signature that had none, the index of that signature is the last. -/
theorem indexed_push (m : Method) (h : t.resolve m.signature = none) (s : Signature) (n : Nat) :
    ((m.signature, t.slots.length) :: t.index).lookup s = some n ↔
      ((t.slots ++ [m]).map (·.signature))[n]? = some s := by
  have hnone : t.index.lookup m.signature = none := by
    simpa [slotOf, h] using t.isSome_slotOf m.signature
  have hold := t.indexed s n
  rw [List.map_append, List.getElem?_append, List.length_map]
  by_cases hs : s = m.signature
  · -- The signature was nowhere among the old slots, so it stands at the last one only.
    subst hs
    rw [hnone] at hold
    rw [List.lookup_cons_self]
    split
    next hn =>
      rw [← hold]
      simp [Nat.ne_of_gt hn]
    next hn =>
      rw [List.map_singleton, List.getElem?_singleton, Option.some.injEq]
      simp only [Option.ite_none_right_eq_some, and_true]
      omega
  · -- Any other signature is not that of the last slot.
    rw [List.lookup_cons, beq_false_of_ne hs, hold]
    split
    next hn => rfl
    next hn =>
      have hbeyond : (t.slots.map (·.signature))[n]? = none := by simpa using hn
      simp [hbeyond, List.getElem?_cons, Ne.symm hs]

/-- Give a signature that has no slot a new one, behind the others. -/
def push (m : Method) (h : t.resolve m.signature = none) : DispatchTable where
  slots := t.slots ++ [m]
  index := (m.signature, t.slots.length) :: t.index
  indexed := t.indexed_push m h

/-- Take in one declaration: a new signature gets a slot, a known one keeps its owner and has to
    repeat the owner's return type. -/
def add (m : Method) : Except ConstructionError DispatchTable :=
  match h : t.resolve m.signature with
  | none => .ok (t.push m h)
  | some first =>
    if first.ret = m.ret then .ok t
    else .error (.conflictingReturnTypes m.signature.text first.ret.name m.ret.name)

/-- A declaration of a new signature gets a slot. -/
theorem add_of_none {m : Method} (h : t.resolve m.signature = none) : t.add m = .ok (t.push m h) := by
  unfold add
  split
  next => rfl
  next first hsome => cases h.symm.trans hsome

/-- A declaration of a known signature changes nothing, or conflicts with its owner. -/
theorem add_of_some {m first : Method} (h : t.resolve m.signature = some first) :
    t.add m =
      if first.ret = m.ret then .ok t
      else .error (.conflictingReturnTypes m.signature.text first.ret.name m.ret.name) := by
  unfold add
  split
  next hnone => cases h.symm.trans hnone
  next first' hsome => rw [Option.some.inj (h.symm.trans hsome)]

/-- Take in declarations in order, up to the first that conflicts. -/
def addAll (t : DispatchTable) : List Method → Except ConstructionError DispatchTable
  | [] => .ok t
  | m :: ms =>
    match t.add m with
    | .error e => .error e
    | .ok t' => t'.addAll ms

/-- All declarations of an interface list, in order. -/
def declarations (is : List Interface) : List Method :=
  is.flatMap (·.methods)

/-- The table of an ordered interface list. -/
def build (is : List Interface) : Except ConstructionError DispatchTable :=
  addAll empty (declarations is)

/-- The text of a table in diagnostics. -/
def text : String :=
  "DispatchTable \x7b count: " ++ toString t.size ++ " \x7d"

end DispatchTable

end Interop
