import Mathlib.Data.List.Nodup
import Interop.Proxy.Table

namespace Interop

/-!
# How interfaces are flattened

A dispatch table takes in declarations one after the other. This file says of a whole list of
declarations, without a table, which of them own a slot and which one is in conflict.

* `Interface.Made` — the descriptors that can be made; their methods name them as declarers.
* `DispatchTable.first?`, `DispatchTable.firsts`, `DispatchTable.Clash` — the first declaration of a
  signature, the declarations without later repetitions, a declaration that differs in its result
  from the first of its signature.
* `DispatchTable.addAll_of_firsts` — the invariant of the loop: a table whose slots are the first of the
  declarations so far comes to one of the first of them all, or stops at the first clash.
* `DispatchTable.buildLaws` — hence what `build` gives for every interface list.

The loop looks every declaration up in the table, and the table is what the declarations before have
made of it. Here the list of declarations is described without a table: which ones are the first of
their signature, and which one differs from the first of its own. `add_of_firsts` compares the two for
one declaration, and the induction over the rest of the list carries it to all of them. The invariant
is that the slots are the first declarations of what was taken in, in order; so a look-up in the table
is a search of the list, and an error of the loop is a clash in the list.
-/

/-- A descriptor as it comes about: empty at first, then given methods and an identity, any number of
    times in any order. -/
inductive Interface.Made : Interface → Prop
  | new (name : String) (domain : Domain) (kind : DescriptorKind) : Made (.new name domain kind)
  | declare {i : Interface} (h : Made i) (m : Method) : Made (i.declare m)
  | build {i : Interface} (h : Made i) (serial : Nat) : Made (i.build serial)

/-- The methods of a descriptor name it as their declarer. -/
theorem Interface.Made.declaring_eq {i : Interface} (h : i.Made) :
    ∀ m ∈ i.methods, m.declaring = i.name := by
  induction h with
  | new name domain kind => simp [Interface.new]
  | @declare i h m ih =>
    intro m' hm'
    rcases List.mem_append.mp hm' with hm' | hm'
    · exact ih m' hm'
    · rw [List.mem_singleton.mp hm']
      rfl
  | build h serial ih => exact ih

namespace DispatchTable

/-! ### First declarations -/

/-- The first of the declarations with the signature. -/
def first? (ms : List Method) (s : Signature) : Option Method :=
  ms.find? (·.signature == s)

/-- The declarations without those that repeat the signature of an earlier one. -/
def firsts : List Method → List Method
  | [] => []
  | m :: ms => m :: (firsts ms).filter (·.signature != m.signature)

/-- The first declaration of a signature has it. -/
theorem signature_of_first? {ms : List Method} {s : Signature} {m : Method}
    (h : first? ms s = some m) : m.signature = s := by
  simpa using List.find?_some h

/-- There is a first declaration iff there is one at all. -/
theorem isSome_first?_iff (ms : List Method) (s : Signature) :
    (first? ms s).isSome = true ↔ ∃ m ∈ ms, m.signature = s := by
  simp [first?]

/-- A declaration is the first of its signature, or comes after that. -/
theorem exists_first? {ms : List Method} {m : Method} (hm : m ∈ ms) :
    ∃ first, first? ms m.signature = some first ∧ first ∈ ms ∧ first.signature = m.signature := by
  obtain ⟨first, hfirst⟩ := Option.isSome_iff_exists.mp
    ((isSome_first?_iff ms m.signature).mpr ⟨m, hm, rfl⟩)
  exact ⟨first, hfirst, List.mem_of_find?_eq_some hfirst, signature_of_first? hfirst⟩

/-- What comes first among the declarations so far is not changed by later ones. -/
theorem first?_append (ms ms' : List Method) (s : Signature) :
    first? (ms ++ ms') s = (first? ms s).or (first? ms' s) :=
  List.find?_append

/-- To leave out repetitions does not change what comes first. -/
theorem first?_firsts (ms : List Method) (s : Signature) : first? (firsts ms) s = first? ms s := by
  induction ms with
  | nil => rfl
  | cons m ms ih =>
    by_cases hm : m.signature = s
    · simp [first?, firsts, hm]
    · -- The filter drops the head's signature, and `s` is another one.
      have hkeep : ∀ m' : Method,
          (decide ((m'.signature != m.signature) = true ∧ (m'.signature == s) = true)) =
            (m'.signature == s) := by
        intro m'
        by_cases hs : m'.signature = s
        · simp [hs, Ne.symm hm]
        · simp [hs]
      simp only [first?] at ih
      simp only [first?, firsts, List.find?_cons, hm, beq_false_of_ne, ne_eq, not_false_eq_true,
        List.find?_filter, hkeep, ih]

/-- The declarations that are left have signatures of their own. -/
theorem nodup_firsts (ms : List Method) : ((firsts ms).map (·.signature)).Nodup := by
  induction ms with
  | nil => simp [firsts]
  | cons m ms ih =>
    rw [firsts, List.map_cons, List.nodup_cons]
    constructor
    · simp
    · -- The rest was filtered, and what is left of it differs from the head.
      exact ih.sublist (List.filter_sublist.map _)

/-- What is left are the declarations that come first under their signature. -/
theorem mem_firsts_iff (ms : List Method) (m : Method) :
    m ∈ firsts ms ↔ first? ms m.signature = some m := by
  rw [← first?_firsts]
  constructor
  · intro hm
    obtain ⟨m', hfirst, hm', hsig⟩ := exists_first? hm
    rw [hfirst, List.inj_on_of_nodup_map (nodup_firsts ms) hm' hm hsig]
  · exact List.mem_of_find?_eq_some

/-- One more declaration is left if its signature is new. -/
theorem firsts_snoc (ms : List Method) (m : Method) :
    firsts (ms ++ [m]) =
      if (first? ms m.signature).isSome then firsts ms else firsts ms ++ [m] := by
  induction ms with
  | nil => rfl
  | cons m' ms ih =>
    rw [List.cons_append, firsts, ih]
    by_cases hm : m'.signature = m.signature
    · -- The head has the signature already, so the new declaration is dropped in any case.
      have hdrop : [m].filter (·.signature != m'.signature) = [] := by simp [hm]
      have hhead : (first? (m' :: ms) m.signature).isSome = true := by simp [first?, hm]
      rw [if_pos hhead]
      split
      · rfl
      · rw [List.filter_append, hdrop, List.append_nil, firsts]
    · have hkeep : [m].filter (·.signature != m'.signature) = [m] := by simp [Ne.symm hm]
      have hhead : first? (m' :: ms) m.signature = first? ms m.signature := by
        simp [first?, hm]
      rw [hhead]
      split
      · rfl
      · rw [List.filter_append, hkeep, firsts, List.cons_append]

/-! ### Clashes

A declaration is compared with the first one of its signature among all, and that this is among the
ones before it is a lemma: what comes first is not changed by later declarations.
-/

/-- Among the declarations, `first` comes first under the signature of `m`, and has another result. -/
structure Clash (ms : List Method) (first m : Method) : Prop where
  comes : first? ms m.signature = some first
  differs : first.ret ≠ m.ret

/-- How a clash is reported. -/
def clashError (first m : Method) : ConstructionError :=
  .conflictingReturnTypes m.signature.text first.ret.name m.ret.name

/-- What there is to report of `m` among the declarations. -/
def clash? (ms : List Method) (m : Method) : Option ConstructionError :=
  (first? ms m.signature).bind fun first =>
    if first.ret = m.ret then none else some (clashError first m)

/-- There is something to report of a declaration iff it clashes. -/
theorem clash?_eq_some_iff {ms : List Method} {m : Method} {e : ConstructionError} :
    clash? ms m = some e ↔ ∃ first, Clash ms first m ∧ e = clashError first m := by
  simp only [clash?, Option.bind_eq_some_iff, Option.ite_none_left_eq_some]
  constructor
  · rintro ⟨first, hfirst, hne, heq⟩
    exact ⟨first, ⟨hfirst, hne⟩, (Option.some.inj heq).symm⟩
  · rintro ⟨first, h, rfl⟩
    exact ⟨first, h.comes, h.differs, rfl⟩

/-- There is nothing to report iff it clashes with no first one. -/
theorem clash?_eq_none_iff {ms : List Method} {m : Method} :
    clash? ms m = none ↔ ∀ first, ¬ Clash ms first m := by
  constructor
  · intro hnone first h
    have hsome := clash?_eq_some_iff.mpr ⟨first, h, rfl⟩
    rw [hnone] at hsome
    cases hsome
  · intro hno
    cases hc : clash? ms m with
    | none => rfl
    | some e =>
      obtain ⟨first, h, -⟩ := clash?_eq_some_iff.mp hc
      exact absurd h (hno first)

/-- Some declaration clashes iff two of one signature have different results. -/
theorem exists_clash_iff (ms : List Method) :
    (∃ m ∈ ms, ∃ first, Clash ms first m) ↔
      ∃ m ∈ ms, ∃ m' ∈ ms, m.signature = m'.signature ∧ m.ret ≠ m'.ret := by
  constructor
  · rintro ⟨m, hm, first, h⟩
    exact ⟨first, List.mem_of_find?_eq_some h.comes, m, hm, signature_of_first? h.comes, h.differs⟩
  · rintro ⟨m, hm, m', hm', hsig, hne⟩
    obtain ⟨first, hfirst, -, -⟩ := exists_first? hm
    -- The first declaration cannot have both results.
    by_cases hret : first.ret = m.ret
    · exact ⟨m', hm', first, hsig ▸ hfirst, hret ▸ hne⟩
    · exact ⟨m, hm, first, hfirst, hret⟩

/-! ### The loop -/

variable {t : DispatchTable}

/-- A table of the first declarations resolves a signature to the first of them. -/
theorem resolve_of_firsts {ms : List Method} (h : t.slots = firsts ms) (s : Signature) :
    t.resolve s = first? ms s := by
  rw [resolve_eq_find?, h]
  exact first?_firsts ms s

/-- A table of the first declarations so far takes in one more, unless that clashes with them. -/
theorem add_of_firsts {done : List Method} (h : t.slots = firsts done) (m : Method) :
    match clash? done m with
    | some e => t.add m = .error e
    | none => ∃ t', t.add m = .ok t' ∧ t'.slots = firsts (done ++ [m]) := by
  -- Both sides look the signature up in the table, and ask nothing else of the declarations.
  rw [clash?, firsts_snoc, ← resolve_of_firsts h m.signature, ← h]
  cases hslot : t.resolve m.signature with
  | none => exact ⟨_, t.add_of_none hslot, rfl⟩
  | some first =>
    have hadd := t.add_of_some hslot
    by_cases hret : first.ret = m.ret
    · simp [hret, hadd]
    · simp [hret, hadd, clashError]

/-- A declaration clashes with those before it iff it clashes among all. -/
theorem clash?_append_cons (done : List Method) (m : Method) (rest : List Method) :
    clash? (done ++ m :: rest) m = clash? done m := by
  unfold clash?
  rw [first?_append]
  cases first? done m.signature with
  | none => simp [first?]
  | some first => rfl

/-- From a table of the first declarations so far the loop comes to one of the first of them all, or it
    reports the first clash. -/
theorem addAll_of_firsts {done : List Method} (h : t.slots = firsts done) (rest : List Method) :
    match rest.findSome? (clash? (done ++ rest)) with
    | some e => t.addAll rest = .error e
    | none => ∃ t', t.addAll rest = .ok t' ∧ t'.slots = firsts (done ++ rest) := by
  -- What was taken in varies with the table: `m` goes over to it from the rest.
  induction rest generalizing t done with
  | nil => exact ⟨t, rfl, by rw [h, List.append_nil]⟩
  | cons m rest ih =>
    have hadd := add_of_firsts h m
    rw [addAll, List.findSome?_cons, clash?_append_cons]
    cases hclash : clash? done m with
    | some e =>
      rw [hclash] at hadd
      rw [hadd]
    | none =>
      rw [hclash] at hadd
      obtain ⟨t', ht', hslots⟩ := hadd
      rw [ht', List.append_cons]
      exact ih hslots

variable {is : List Interface}

/-- The table of an interface list, or the first clash in it. -/
theorem build_spec (is : List Interface) :
    match (declarations is).findSome? (clash? (declarations is)) with
    | some e => build is = .error e
    | none => ∃ t, build is = .ok t ∧ t.slots = firsts (declarations is) :=
  addAll_of_firsts (show empty.slots = firsts [] from rfl) (declarations is)

/-- A table that was built has the first declarations as its slots, and none of them clashes. -/
theorem of_build_eq_ok (h : build is = .ok t) :
    t.slots = firsts (declarations is) ∧
      ∀ m ∈ declarations is, ∀ first, ¬ Clash (declarations is) first m := by
  have hspec := build_spec is
  cases hclash : (declarations is).findSome? (clash? (declarations is)) with
  | some e =>
    rw [hclash] at hspec
    cases h.symm.trans hspec
  | none =>
    rw [hclash] at hspec
    obtain ⟨t', ht', hslots⟩ := hspec
    obtain rfl := Except.ok.inj (h.symm.trans ht')
    exact ⟨hslots, fun m hm => clash?_eq_none_iff.mp (List.findSome?_eq_none_iff.mp hclash m hm)⟩

/-- A list is refused for the first declaration that clashes, and for nothing else. -/
theorem build_eq_error_iff {e : ConstructionError} :
    build is = .error e ↔
      ∃ before m after first, declarations is = before ++ m :: after ∧
        (∀ m' ∈ before, ∀ f, ¬ Clash (declarations is) f m') ∧
          Clash (declarations is) first m ∧ e = clashError first m := by
  have hbuild : build is = .error e ↔
      (declarations is).findSome? (clash? (declarations is)) = some e := by
    have hspec := build_spec is
    cases hclash : (declarations is).findSome? (clash? (declarations is)) with
    | some e' =>
      rw [hclash] at hspec
      simp [hspec]
    | none =>
      rw [hclash] at hspec
      obtain ⟨t, ht, -⟩ := hspec
      simp [ht]
  rw [hbuild, List.findSome?_eq_some_iff]
  simp only [clash?_eq_some_iff, clash?_eq_none_iff]
  constructor
  · rintro ⟨before, m, after, hms, ⟨first, hc, he⟩, hbefore⟩
    exact ⟨before, m, after, first, hms, hbefore, hc, he⟩
  · rintro ⟨before, m, after, first, hms, hbefore, hc, he⟩
    exact ⟨before, m, after, hms, ⟨first, hc, he⟩, hbefore⟩

/-! ### Tables that were built -/

/-- A table that was built resolves a signature to its first declaration. -/
theorem resolve_of_build (h : build is = .ok t) (s : Signature) :
    t.resolve s = first? (declarations is) s :=
  resolve_of_firsts (of_build_eq_ok h).1 s

/-- The declarations are the methods of the interfaces. -/
theorem exists_declaration_iff (P : Method → Prop) :
    (∃ m ∈ declarations is, P m) ↔ ∃ i ∈ is, ∃ m ∈ i.methods, P m := by
  simp only [declarations, List.mem_flatMap]
  constructor
  · rintro ⟨m, ⟨i, hi, hm⟩, hP⟩
    exact ⟨i, hi, m, hm, hP⟩
  · rintro ⟨i, hi, m, hm, hP⟩
    exact ⟨m, ⟨i, hi, hm⟩, hP⟩

/-- A table has a slot for a signature iff some interface declares it. -/
theorem isSome_resolve_iff (h : build is = .ok t) (s : Signature) :
    (t.resolve s).isSome = true ↔ ∃ i ∈ is, ∃ m ∈ i.methods, m.signature = s := by
  rw [resolve_of_build h, isSome_first?_iff, exists_declaration_iff]

/-- The first declaration of a signature stands in the first interface that declares it. -/
theorem first?_declarations_eq_some {s : Signature} {m : Method}
    (h : first? (declarations is) s = some m) :
    ∃ before i after, is = before ++ i :: after ∧ m ∈ i.methods ∧
      ∀ j ∈ before, ∀ m' ∈ j.methods, m'.signature ≠ s := by
  rw [first?, declarations, List.find?_flatMap, List.findSome?_eq_some_iff] at h
  obtain ⟨before, i, after, his, hm, hbefore⟩ := h
  refine ⟨before, i, after, his, List.mem_of_find?_eq_some hm, fun j hj m' hm' => ?_⟩
  simpa using List.find?_eq_none.mp (hbefore j hj) m' hm'

/-- What `build` gives for an interface list. -/
structure BuildLaws (is : List Interface) : Prop where
  /-- There is no table iff two declarations of one signature have different results. -/
  refused : (∃ e, build is = .error e) ↔
    ∃ m ∈ declarations is, ∃ m' ∈ declarations is, m.signature = m'.signature ∧ m.ret ≠ m'.ret
  /-- The error names the first declaration that differs from the first one of its signature, and
      the results of the two. -/
  reported : ∀ e, build is = .error e ↔
    ∃ before m after first, declarations is = before ++ m :: after ∧
      (∀ m' ∈ before, ∀ f, ¬ Clash (declarations is) f m') ∧ Clash (declarations is) first m ∧
        e = .conflictingReturnTypes m.signature.text first.ret.name m.ret.name
  /-- The slots are the declarations in order, without later repetitions of a signature. -/
  slots : ∀ t, build is = .ok t → t.slots = firsts (declarations is)
  /-- The signatures of the slots are pairwise distinct. -/
  distinct : ∀ t, build is = .ok t → (t.slots.map (·.signature)).Nodup
  /-- A signature has a slot iff some interface declares it. -/
  resolves : ∀ t, build is = .ok t → ∀ s,
    (t.resolve s).isSome = true ↔ ∃ i ∈ is, ∃ m ∈ i.methods, m.signature = s
  /-- So it is with the index of a signature. -/
  indexes : ∀ t, build is = .ok t → ∀ s,
    (t.slotOf s).isSome = true ↔ ∃ i ∈ is, ∃ m ∈ i.methods, m.signature = s
  /-- Every index is that of the signature of its slot. -/
  index : ∀ t, build is = .ok t → ∀ n, n < t.size →
    ∃ m, t.slot? n = some m ∧ t.slotOf m.signature = some n
  /-- The slot at the index of a signature is the slot of the signature. -/
  slot : ∀ t, build is = .ok t → ∀ s, (t.slotOf s).bind t.slot? = t.resolve s
  /-- A slot is declared by the first interface of the list that declares its signature. -/
  owner : ∀ t, build is = .ok t → ∀ m ∈ t.slots,
    ∃ before i after, is = before ++ i :: after ∧ m ∈ i.methods ∧ m.declaring = i.name ∧
      ∀ j ∈ before, ∀ m' ∈ j.methods, m'.signature ≠ m.signature

/-- The laws of flattening hold for every list of descriptors. -/
theorem buildLaws (hmade : ∀ i ∈ is, i.Made) : BuildLaws is := by
  have hslots : ∀ t, build is = .ok t → t.slots = firsts (declarations is) := by
    intro t ht
    exact (of_build_eq_ok ht).1
  refine ⟨?_, fun e => build_eq_error_iff, hslots, fun t _ => t.nodup_signatures,
    fun t ht => isSome_resolve_iff ht, fun t ht s => ?_, fun t _ n hn => ?_,
    fun t _ => t.slot?_slotOf, fun t ht m hm => ?_⟩
  · rw [← exists_clash_iff]
    constructor
    · rintro ⟨e, he⟩
      obtain ⟨before, m, after, first, hms, -, hc, -⟩ := build_eq_error_iff.mp he
      exact ⟨m, by simp [hms], first, hc⟩
    · rintro ⟨m, hm, first, hc⟩
      cases hb : build is with
      | error e => exact ⟨e, rfl⟩
      | ok t => exact absurd hc ((of_build_eq_ok hb).2 m hm first)
  · rw [isSome_slotOf]
    exact isSome_resolve_iff ht s
  · have hslot : t.slot? n = some t.slots[n] := List.getElem?_eq_getElem hn
    exact ⟨_, hslot, t.slotOf_eq_some_iff.mpr ⟨_, hslot, rfl⟩⟩
  · rw [hslots t ht, mem_firsts_iff] at hm
    obtain ⟨before, i, after, his, hmem, hbefore⟩ := first?_declarations_eq_some hm
    -- The declarer is named by the descriptor, whose methods name it.
    have hi : i ∈ is := by simp [his]
    exact ⟨before, i, after, his, hmem, (hmade i hi).declaring_eq m hmem, hbefore⟩

/-- Of two descriptors the second repeats a method of the first, with another arity, and adds one: the
    table has the first declaration and the new one. -/
theorem buildLaws_of_repeated :
    let d : Domain := .root 1 "app"
    let a : Interface := ((Interface.new "A" d .interface).declare
      ⟨"A", "close", [.int], .void, false⟩).build 1
    let b : Interface := (((Interface.new "B" d .interface).declare
      ⟨"B", "close", [.int], .void, true⟩).declare ⟨"B", "size", [], .int, false⟩).build 2
    (∀ i ∈ [a, b], i.Made) ∧
      (build [a, b]).map (·.slots) =
        .ok [⟨"A", "close", [.int], .void, false⟩, ⟨"B", "size", [], .int, false⟩] ∧
      BuildLaws [a, b] := by
  intro d a b
  have hmade : ∀ i ∈ [a, b], i.Made := by
    intro i hi
    simp only [List.mem_cons, List.not_mem_nil, or_false] at hi
    rcases hi with rfl | rfl
    · exact .build (.declare (.new ..) _) 1
    · exact .build (.declare (.declare (.new ..) _) _) 2
  exact ⟨hmade, by rfl, buildLaws hmade⟩

end DispatchTable

end Interop
