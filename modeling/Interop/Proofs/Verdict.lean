import Interop.Proofs.Acceptance
import Interop.Proofs.Flattening
import Interop.Proofs.Visibility
import Interop.Proxy.Platform

namespace Interop

/-!
# Which lists are refused, and how

A list may have several faults at once. The check counts the members, reads them from the left with a
set of the serial numbers seen, and builds the table last. This file says which fault is reported,
without a set and without an order of reading.

* `Fault` — what is wrong with an interface behind others; `Fault.unique` says that it is one thing.
* `FaultAt`, `FirstFault` — the faults of a list by position, and the one at the least position.
* `validateFrom_cons`, `validateFrom_spec` — one step of the loop; from it the invariant: behind members
  without fault the loop comes to the first fault, or finds that there is none.
* `Verdict` — what a list comes to; `Foundry.proxyType_uncached_eq_iff` says that a platform without a
  cache answers so.

A fault is said of one interface and of the interfaces in front of it, so it has no order of its own:
the three kinds exclude each other, and which one it is does not depend on what stands behind. The
loop keeps a set of serial numbers, and the invariant ties it to the list: the set holds the numbers
of the members that the loop has passed, and none of these had a fault. A step of the loop then either
meets the first fault or makes the passed part longer by one, and the induction is on what is still to
be read.

Size is checked before the loop and the table is built behind it. So the verdict has one rule for each
of these three, in this order, and one for a list that comes through.
-/

/-- What is wrong in `d` with the interface `i` behind the interfaces `before`. A class is not asked
    for its domain, nor an invisible interface for its serial number. -/
inductive Fault (d : Domain) (before : List Interface) (i : Interface) : ConstructionError → Prop
  | cls (hk : i.kind = .cls) : Fault d before i (.notAnInterface i.name)
  | invisible (hk : i.kind = .interface) (hv : ¬ d.Sees i.domain) :
      Fault d before i (.notVisible i.name d.name)
  | repeated (hk : i.kind = .interface) (hv : d.Sees i.domain)
      (hs : ∃ j ∈ before, j.serial = i.serial) : Fault d before i (.duplicateInterface i.name)

/-- The interface at position `n` of the list has the fault `e`. -/
def FaultAt (d : Domain) (is : List Interface) (n : Nat) (e : ConstructionError) : Prop :=
  ∃ i, is[n]? = some i ∧ Fault d (is.take n) i e

/-- The fault `e` is at the least position that has one. -/
def FirstFault (d : Domain) (is : List Interface) (e : ConstructionError) : Prop :=
  ∃ n, FaultAt d is n e ∧ ∀ m < n, ∀ e', ¬ FaultAt d is m e'

variable {d : Domain} {e e' : ConstructionError}

/-- What is wrong with an interface is one thing: each kind of fault excludes the others. -/
theorem Fault.unique {before : List Interface} {i : Interface} (h : Fault d before i e)
    (h' : Fault d before i e') : e = e' := by
  cases h with
  | cls hk =>
    cases h' with
    | cls => rfl
    | invisible hk' | repeated hk' => cases hk.symm.trans hk'
  | invisible hk hv =>
    cases h' with
    | cls hk' => cases hk.symm.trans hk'
    | invisible => rfl
    | repeated _ hv' => exact absurd hv' hv
  | repeated hk hv =>
    cases h' with
    | cls hk' => cases hk.symm.trans hk'
    | invisible _ hv' => exact absurd hv hv'
    | repeated => rfl

/-- So there is one fault at the least position that has one. -/
theorem FirstFault.unique {is : List Interface} (h : FirstFault d is e) (h' : FirstFault d is e') :
    e = e' := by
  obtain ⟨n, hn, hleast⟩ := h
  obtain ⟨n', hn', hleast'⟩ := h'
  -- Neither of the two positions can be less than the other.
  obtain hlt | rfl | hlt := Nat.lt_trichotomy n n'
  · exact absurd hn (hleast' n hlt e)
  · obtain ⟨i, hi, hf⟩ := hn
    obtain ⟨j, hj, hf'⟩ := hn'
    obtain rfl := Option.some.inj (hi.symm.trans hj)
    exact hf.unique hf'
  · exact absurd hn' (hleast n' hlt e')

/-! ### The loop -/

/-- A member is judged by what stands in front of it, and not by what stands behind. -/
theorem faultAt_append_cons (done : List Interface) (i : Interface) (rest : List Interface) :
    FaultAt d (done ++ i :: rest) done.length e ↔ Fault d done i e := by
  simp [FaultAt]

/-- A visible interface with a new serial number has no fault. -/
theorem not_fault {before : List Interface} {i : Interface} (hk : i.kind = .interface)
    (hv : d.Sees i.domain) (hs : ¬ ∃ j ∈ before, j.serial = i.serial) (e : ConstructionError) :
    ¬ Fault d before i e := by
  intro hf
  cases hf with
  | cls hcls => cases hk.symm.trans hcls
  | invisible _ hnot => exact hnot hv
  | repeated _ _ hrep => exact hs hrep

/-- A member without fault goes over to the members without fault before it. -/
theorem clean_snoc {done : List Interface} {i : Interface} {rest : List Interface}
    (hclean : ∀ m < done.length, ∀ e, ¬ FaultAt d (done ++ i :: rest) m e)
    (hnone : ∀ e, ¬ Fault d done i e) :
    ∀ m < (done ++ [i]).length, ∀ e, ¬ FaultAt d (done ++ [i] ++ rest) m e := by
  intro m hm e hf
  rw [← List.append_cons] at hf
  rw [List.length_append, List.length_singleton] at hm
  obtain hlt | rfl := Nat.lt_succ_iff_lt_or_eq.mp hm
  · exact hclean m hlt e hf
  · exact hnone e ((faultAt_append_cons done i rest).mp hf)

/-- The loop stops at a member with a fault, and goes on behind any other, whose serial number was then
    seen. -/
theorem validateFrom_cons {seen : Std.HashSet Nat} {done : List Interface}
    (hseen : ∀ s, s ∈ seen ↔ ∃ j ∈ done, j.serial = s) (i : Interface) (rest : List Interface) :
    (∃ e, Fault d done i e ∧ validateFrom d seen (i :: rest) = .error e) ∨
      (∀ e, ¬ Fault d done i e) ∧
        validateFrom d seen (i :: rest) = validateFrom d (seen.insert i.serial) rest := by
  -- The cases are in the order of the checks, since each is made only if those before it pass.
  by_cases hk : i.kind = .interface
  case neg =>
    have hcls : i.kind = .cls := by
      cases hkind : i.kind with
      | interface => exact absurd hkind hk
      | cls => rfl
    exact .inl ⟨_, .cls hcls, by simp [validateFrom, Interface.isInterface, hcls]⟩
  by_cases hv : d.canSee i.domain = true
  case neg =>
    have hnot : ¬ d.Sees i.domain := by rwa [← Domain.canSee_eq_true_iff]
    exact .inl ⟨_, .invisible hk hnot, by simp [validateFrom, Interface.isInterface, hk, hv]⟩
  have hsees := (d.canSee_eq_true_iff i.domain).mp hv
  by_cases hs : i.serial ∈ seen
  · have hrep := (hseen _).mp hs
    exact .inl ⟨_, .repeated hk hsees hrep, by simp [validateFrom, Interface.isInterface, hk, hv, hs]⟩
  · have hnew := fun hrep => hs ((hseen _).mpr hrep)
    exact .inr ⟨not_fault hk hsees hnew, by simp [validateFrom, Interface.isInterface, hk, hv, hs]⟩

/-- Behind members without fault, whose serial numbers were seen, the loop comes to the first fault of
    the list, or finds that the list has none. -/
theorem validateFrom_spec {seen : Std.HashSet Nat} {done : List Interface}
    (hseen : ∀ s, s ∈ seen ↔ ∃ j ∈ done, j.serial = s) {rest : List Interface}
    (hclean : ∀ m < done.length, ∀ e, ¬ FaultAt d (done ++ rest) m e) :
    match validateFrom d seen rest with
    | .error e => FirstFault d (done ++ rest) e
    | .ok () => ∀ n e, ¬ FaultAt d (done ++ rest) n e := by
  -- Members go over from the rest to what was seen.
  induction rest generalizing seen done with
  | nil =>
    rintro n e ⟨i, hi, hf⟩
    have hn : n < done.length := by simpa using (List.getElem?_eq_some_iff.mp hi).1
    exact hclean n hn e ⟨i, hi, hf⟩
  | cons i rest ih =>
    rcases validateFrom_cons hseen i rest with ⟨e, hf, hstop⟩ | ⟨hnone, hgo⟩
    · rw [hstop]
      exact ⟨done.length, (faultAt_append_cons done i rest).mpr hf, hclean⟩
    · have hseen' : ∀ s, s ∈ seen.insert i.serial ↔ ∃ j ∈ done ++ [i], j.serial = s := by
        intro s
        simp [hseen, or_and_right, exists_or, or_comm]
      have hrest := ih hseen' (clean_snoc hclean hnone)
      rw [← List.append_cons] at hrest
      rwa [hgo]

/-! ### Verdicts -/

/-- The list has members, and not too many. -/
structure Sized (is : List Interface) : Prop where
  nonempty : is ≠ []
  bounded : is.length ≤ interfaceLimit

/-- What a list comes to in `d` as the number `next` is the next one. -/
inductive Verdict (next : Nat) (d : Domain) (is : List Interface) :
    Except ConstructionError ProxyType → Prop
  | empty (h : is = []) : Verdict next d is (.error .emptyInterfaceSet)
  | tooMany (h : interfaceLimit < is.length) :
      Verdict next d is (.error (.tooManyInterfaces is.length))
  | faulty (hsize : Sized is) {e : ConstructionError} (h : FirstFault d is e) :
      Verdict next d is (.error e)
  | conflicting (hsize : Sized is) (hclean : ∀ n e, ¬ FaultAt d is n e)
      {method first second : String}
      (h : DispatchTable.build is = .error (.conflictingReturnTypes method first second)) :
      Verdict next d is (.error (.conflictingReturnTypes method first second))
  | made (hsize : Sized is) (hclean : ∀ n e, ¬ FaultAt d is n e) {table : DispatchTable}
      (h : DispatchTable.build is = .ok table) : Verdict next d is (.ok ⟨next, d, is, table, some {}⟩)

variable {next : Nat} {is : List Interface} {r : Except ConstructionError ProxyType}

/-- A list that is too long is not read. -/
theorem validate_of_tooMany (h : interfaceLimit < is.length) :
    validate d is = .error (.tooManyInterfaces is.length) := by
  have hne : is ≠ [] := List.ne_nil_of_length_pos (by omega)
  simp [validate, hne, h]

/-- A list of a fitting size is read from the left, with nothing seen so far. -/
theorem validate_of_sized (h : Sized is) : validate d is = validateFrom d ∅ is := by
  have hempty : is.isEmpty = false := by simpa using h.nonempty
  have hbound := h.bounded
  rw [validate, hempty, if_neg Bool.false_ne_true, if_neg (by omega)]

/-- A list of a fitting size is read to its first fault, or to the end if there is none. -/
theorem validate_spec (h : Sized is) :
    match validate d is with
    | .error e => FirstFault d is e
    | .ok () => ∀ n e, ¬ FaultAt d is n e := by
  rw [validate_of_sized h]
  -- Nothing was read yet and nothing was seen.
  have hseen : ∀ s, s ∈ (∅ : Std.HashSet Nat) ↔ ∃ j ∈ ([] : List Interface), j.serial = s := by simp
  exact validateFrom_spec hseen (by simp)

/-- The first fault is the one that is reported. -/
theorem validate_eq_error_of_firstFault (hsize : Sized is) (h : FirstFault d is e) :
    validate d is = .error e := by
  have hspec := validate_spec (d := d) hsize
  cases hv : validate d is with
  | error e' =>
    rw [hv] at hspec
    rw [hspec.unique h]
  | ok u =>
    rw [hv] at hspec
    obtain ⟨n, hn, -⟩ := h
    exact absurd hn (hspec n e)

/-- A list without fault is passed. -/
theorem validate_eq_ok_of_clean (hsize : Sized is) (h : ∀ n e, ¬ FaultAt d is n e) :
    validate d is = .ok () := by
  have hspec := validate_spec (d := d) hsize
  cases hv : validate d is with
  | error e' =>
    rw [hv] at hspec
    obtain ⟨n, hn, -⟩ := hspec
    exact absurd hn (h n e')
  | ok u => rfl

/-- Synthesis comes to a verdict. -/
theorem verdict_synthesize (next : Nat) (d : Domain) (is : List Interface) :
    Verdict next d is (synthesize next d is) := by
  by_cases hne : is = []
  · subst hne
    exact .empty rfl
  by_cases hb : interfaceLimit < is.length
  · rw [synthesize, validate_of_tooMany hb]
    exact .tooMany hb
  have hsize : Sized is := ⟨hne, by omega⟩
  have hspec := validate_spec (d := d) hsize
  cases hv : validate d is with
  | error e =>
    rw [hv] at hspec
    rw [synthesize, hv]
    exact .faulty hsize hspec
  | ok u =>
    rw [hv] at hspec
    cases hbuild : DispatchTable.build is with
    | error e =>
      -- A list fails to have a table for one reason only.
      obtain ⟨_, m, _, first, -, -, -, rfl⟩ := DispatchTable.build_eq_error_iff.mp hbuild
      rw [synthesize, hv, hbuild]
      exact .conflicting hsize hspec hbuild
    | ok table =>
      rw [synthesize, hv, hbuild]
      exact .made hsize hspec hbuild

/-- A verdict is what synthesis comes to. -/
theorem Verdict.synthesize_eq (h : Verdict next d is r) : synthesize next d is = r := by
  cases h with
  | empty h =>
    subst h
    rfl
  | tooMany h => rw [synthesize, validate_of_tooMany h]
  | faulty hsize h => rw [synthesize, validate_eq_error_of_firstFault hsize h]
  | conflicting hsize hclean h => rw [synthesize, validate_eq_ok_of_clean hsize hclean, h]
  | made hsize hclean h => rw [synthesize, validate_eq_ok_of_clean hsize hclean, h]

namespace Foundry

variable (f : Foundry) (alive : Nat → Bool) (d : Domain) (is : List Interface)

/-- A platform without a cache answers with what synthesis comes to. -/
theorem proxyType_uncached : (f.proxyType alive .uncached d is).1 = Interop.synthesize f.next d is := by
  rw [proxyType, Foundry.synthesize]
  cases Interop.synthesize f.next d is with
  | error e => rfl
  | ok t => rfl

/-- A platform without a cache answers as the verdict on the list says, and in no other way. -/
theorem proxyType_uncached_eq_iff (r : Except ConstructionError ProxyType) :
    (f.proxyType alive .uncached d is).1 = r ↔ Verdict f.next d is r := by
  rw [proxyType_uncached]
  constructor
  · rintro rfl
    exact verdict_synthesize f.next d is
  · exact Verdict.synthesize_eq

end Foundry

end Interop
