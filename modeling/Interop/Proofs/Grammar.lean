import Mathlib.Data.List.Forall2
import Interop.Access.Permission
import Interop.Proofs.Spelling

namespace Interop

/-!
# The grammar of permissions

A permission is written as a list of words with bars between them. Each word names a permission, and the
list their union.

* `Permission.vocabulary` — the words, with what they name; `Permission.parsePart_eq_some_iff` says that a
  part is read iff it spells one of them.
* `Permission.parseParts_eq_some_iff` — a list is read iff all of its parts are, and grants what they grant;
  so `Permission.parseParts_congr`, it matters only which parts there are.
* `Permission.bits`, `Permission.gather` — a permission as a byte, and the bytes of the parts gathered from
  left to right.
* `Permission.grammarLaws` — which texts are read, and as what.

The reader forms the union of the permissions of the parts from the right, and stops at a part that it
cannot read. Two facts about unions make the order of this irrelevant: a union grants what one of its
members grants, and a permission is what it grants. So a list is characterized by two sets, the parts
that are read and the kinds that some part grants, and what does not change the sets does not change
the reading: another order, a part said twice, blanks, the case of letters. What a part spells is a
matter of words, and is dealt with before any list comes in.
-/

/-- The word that names a kind of members. There is none for members of no kind. -/
def MemberKind.word? : MemberKind → Option String
  | .field => some "FIELDS"
  | .method => some "METHODS"
  | .constructor => some "CONSTRUCTORS"
  | .other => none

namespace Permission

/-- The words of the grammar, with the permissions that they name. -/
def vocabulary : List (String × Permission) :=
  [("PUBLIC_ONLY", publicOnly), ("NONE", publicOnly), ("FIELDS", onlyFields),
    ("METHODS", onlyMethods), ("CONSTRUCTORS", onlyConstructors), ("ALL", all)]

/-! ### A part -/

/-- A word is read as what the vocabulary says. -/
theorem ofWord_eq_some_iff {word : List Char} {p : Permission} :
    ofWord word = some p ↔ (String.ofList word, p) ∈ vocabulary := by
  unfold ofWord
  generalize String.ofList word = w
  split <;> simp_all [vocabulary, eq_comm]

/-- No word has a blank in it. -/
theorem solid_of_mem_vocabulary {e : String × Permission} (h : e ∈ vocabulary) :
    ∀ c ∈ e.1.toList, Text.isBlank c = false := by
  have hcheck : vocabulary.all (fun e => e.1.toList.all fun c => !Text.isBlank c) = true := by decide
  intro c hc
  have hblank := List.all_eq_true.mp (List.all_eq_true.mp hcheck e h) c hc
  simpa using hblank

/-- A part is read as a permission iff it spells a word for it. -/
theorem parsePart_eq_some_iff {part : String} {p : Permission} :
    parsePart part.toList = some p ↔ ∃ w, (w, p) ∈ vocabulary ∧ Spells part w := by
  rw [parsePart, ofWord_eq_some_iff]
  constructor
  · intro h
    exact ⟨_, h, (spells_iff (solid_of_mem_vocabulary h)).mpr (String.toList_ofList).symm⟩
  · rintro ⟨w, hw, hspells⟩
    rw [(spells_iff (solid_of_mem_vocabulary hw)).mp hspells, String.ofList_toList]
    exact hw

/-- What the word of a kind, or the word for all kinds, grants the kind, and no other word does. -/
theorem grants_iff_of_mem_vocabulary {w word : String} {p : Permission} (h : (w, p) ∈ vocabulary)
    {kind : MemberKind} (hkind : kind.word? = some word) :
    p.grants kind = true ↔ w = word ∨ w = "ALL" := by
  -- There are six words and three kinds, so it is enough to look.
  have hcheck : ∀ e ∈ vocabulary, ∀ word' ∈ kind.word?,
      (e.2.grants kind = true ↔ e.1 = word' ∨ e.1 = "ALL") := by
    cases kind <;> decide
  exact hcheck _ h word hkind

/-- These words are in the vocabulary. -/
theorem exists_mem_vocabulary {w word : String} {kind : MemberKind} (hkind : kind.word? = some word)
    (hw : w = word ∨ w = "ALL") : ∃ p, (w, p) ∈ vocabulary := by
  rcases hw with rfl | rfl
  · cases kind with
    | other => cases hkind
    | field | method | constructor =>
      obtain rfl := Option.some.inj hkind
      simp [vocabulary]
  · simp [vocabulary]

/-! ### A list of parts -/

/-- A permission is what it grants to the kinds that have a word. -/
theorem ext_grants {p q : Permission}
    (h : ∀ kind, kind ≠ .other → (p.grants kind = true ↔ q.grants kind = true)) : p = q := by
  have hfields := Bool.eq_iff_iff.mpr (h .field (by decide))
  have hmethods := Bool.eq_iff_iff.mpr (h .method (by decide))
  have hconstructors := Bool.eq_iff_iff.mpr (h .constructor (by decide))
  cases p
  cases q
  rw [mk.injEq]
  exact ⟨hfields, hmethods, hconstructors⟩

/-- A union grants what one of the two grants. -/
theorem grants_union (p q : Permission) {kind : MemberKind} (hkind : kind ≠ .other) :
    (p.union q).grants kind = true ↔ p.grants kind = true ∨ q.grants kind = true := by
  cases kind with
  | other => exact absurd rfl hkind
  | field | method | constructor => exact Bool.or_eq_true_iff

/-- The permission without any bit grants nothing. -/
theorem grants_publicOnly (kind : MemberKind) : publicOnly.grants kind = false := by
  cases kind <;> rfl

/-- A list is read iff its first part and the rest are. -/
theorem parseParts_cons_eq_some_iff {part : List Char} {parts : List (List Char)} {q : Permission} :
    parseParts (part :: parts) = some q ↔
      ∃ p r, parsePart part = some p ∧ parseParts parts = some r ∧ p.union r = q := by
  rw [parseParts]
  cases parsePart part with
  | none => simp
  | some p =>
    cases parseParts parts with
    | none => simp
    | some r => simp

/-- A list is read if all of its parts are. -/
theorem exists_parseParts {parts : List (List Char)} (h : none ∉ parts.map parsePart) :
    ∃ q, parseParts parts = some q := by
  induction parts with
  | nil => exact ⟨_, rfl⟩
  | cons part parts ih =>
    -- Each part is read, and so is the list, from the last part to the first.
    rw [List.map_cons, List.mem_cons, not_or] at h
    obtain ⟨p, hp⟩ := Option.ne_none_iff_exists'.mp (Ne.symm h.1)
    obtain ⟨r, hr⟩ := ih h.2
    exact ⟨_, parseParts_cons_eq_some_iff.mpr ⟨p, r, hp, hr, rfl⟩⟩

/-- If a list is read, then all of its parts are, and it grants what they grant. -/
theorem of_parseParts_eq_some {parts : List (List Char)} {q : Permission}
    (h : parseParts parts = some q) :
    none ∉ parts.map parsePart ∧ ∀ kind, kind ≠ .other →
      (q.grants kind = true ↔ ∃ p, some p ∈ parts.map parsePart ∧ p.grants kind = true) := by
  induction parts generalizing q with
  | nil =>
    obtain rfl := Option.some.inj h
    simp [grants_publicOnly]
  | cons part parts ih =>
    obtain ⟨p, r, hp, hr, rfl⟩ := parseParts_cons_eq_some_iff.mp h
    obtain ⟨hread, hgrants⟩ := ih hr
    rw [List.map_cons, hp]
    refine ⟨by simpa using hread, fun kind hkind => ?_⟩
    rw [grants_union p r hkind, hgrants kind hkind]
    simp only [List.mem_cons, Option.some.injEq, or_and_right, exists_or, exists_eq_left]

/-- A list is read as the permission that grants what its parts grant, if all of them are read. -/
theorem parseParts_eq_some_iff {parts : List (List Char)} {q : Permission} :
    parseParts parts = some q ↔ none ∉ parts.map parsePart ∧ ∀ kind, kind ≠ .other →
      (q.grants kind = true ↔ ∃ p, some p ∈ parts.map parsePart ∧ p.grants kind = true) := by
  refine ⟨of_parseParts_eq_some, fun ⟨hread, hgrants⟩ => ?_⟩
  obtain ⟨q', hq'⟩ := exists_parseParts hread
  -- The list is read as something, and that grants the same.
  have heq : q' = q := by
    apply ext_grants
    intro kind hkind
    rw [hgrants kind hkind, (of_parseParts_eq_some hq').2 kind hkind]
  rw [hq', heq]

/-- It matters only which parts there are, and of these only what they are read as. -/
theorem parseParts_congr {parts parts' : List (List Char)}
    (h : ∀ x, x ∈ parts.map parsePart ↔ x ∈ parts'.map parsePart) :
    parseParts parts = parseParts parts' := by
  apply Option.ext
  intro q
  simp only [parseParts_eq_some_iff, h]

/-- Unions may be formed from either end. -/
theorem union_assoc (p q r : Permission) : (p.union q).union r = p.union (q.union r) := by
  simp only [union, Bool.or_assoc]

/-- Two lists in one are read iff both are. -/
theorem parseParts_append_eq_some_iff {parts parts' : List (List Char)} {r : Permission} :
    parseParts (parts ++ parts') = some r ↔
      ∃ p q, parseParts parts = some p ∧ parseParts parts' = some q ∧ p.union q = r := by
  induction parts generalizing r with
  | nil => simp [parseParts, union, publicOnly]
  | cons part parts ih =>
    simp only [List.cons_append, parseParts_cons_eq_some_iff, ih]
    constructor
    · rintro ⟨p, s, hp, ⟨q, t, hq, ht, rfl⟩, rfl⟩
      exact ⟨_, t, ⟨p, q, hp, hq, rfl⟩, ht, union_assoc p q t⟩
    · rintro ⟨s, t, ⟨p, q, hp, hq, rfl⟩, ht, rfl⟩
      exact ⟨p, _, hp, ⟨q, t, hq, ht, rfl⟩, (union_assoc p q t).symm⟩

/-! ### Bytes

The program keeps a permission as a byte. The record that is used here has the same bits, so to gather
bytes from the left is to form unions.
-/

/-- A permission as a byte, with one bit for each kind of members. -/
def bits (p : Permission) : UInt8 :=
  (if p.fields then 1 else 0) ||| (if p.methods then 2 else 0) ||| (if p.constructors then 4 else 0)

/-- The byte of a union has the bits of both. -/
theorem bits_union (p q : Permission) : (p.union q).bits = p.bits ||| q.bits := by
  obtain ⟨f, m, c⟩ := p
  obtain ⟨f', m', c'⟩ := q
  revert f m c f' m' c'
  decide

/-- No permission has a bit besides those of the kinds. -/
theorem bits_and_all (p : Permission) : p.bits &&& all.bits = p.bits := by
  obtain ⟨f, m, c⟩ := p
  revert f m c
  decide

/-- Gather the bits of the parts from left to right, up to the first part that is not read. -/
def gather (parts : List String) : Option UInt8 :=
  parts.foldlM (fun acc part => (parsePart part.toList).map (acc ||| ·.bits)) publicOnly.bits

/-- To gather parts is to read them. -/
theorem gather_eq (parts : List String) :
    gather parts = (parseParts (parts.map String.toList)).map bits := by
  -- Said of any byte to start from, since the bits are gathered from the left and the list is read
  -- from the right.
  have hacc : ∀ acc : UInt8,
      parts.foldlM (fun acc part => (parsePart part.toList).map (acc ||| ·.bits)) acc =
        (parseParts (parts.map String.toList)).map (acc ||| ·.bits) := by
    induction parts with
    | nil =>
      intro acc
      simp [parseParts, publicOnly, bits]
    | cons part parts ih =>
      intro acc
      rw [List.foldlM_cons, List.map_cons, parseParts]
      cases parsePart part.toList with
      | none => rfl
      | some p =>
        rw [Option.map_some, Option.bind_eq_bind, Option.bind_some, ih]
        cases parseParts (parts.map String.toList) with
        | none => rfl
        | some q => simp [bits_union, UInt8.or_assoc]
  have hstart : publicOnly.bits = 0 := by decide
  rw [gather, hacc]
  simp only [hstart, UInt8.zero_or]

/-! ### Texts -/

/-- The parts with bars between them. -/
def join (parts : List String) : String :=
  "|".intercalate parts

/-- There are parts, and none of them has a bar. -/
structure Separable (parts : List String) : Prop where
  nonempty : parts ≠ []
  barless : ∀ part ∈ parts, '|' ∉ part.toList

variable {parts parts' : List String}

/-- Parts that were joined are read one by one. -/
theorem parse_join (h : Separable parts) : parse (join parts) = parseParts (parts.map String.toList) := by
  have hbars : ∀ cs ∈ parts.map String.toList, '|' ∉ cs := by simpa using h.barless
  rw [parse, join, String.toList_intercalate]
  exact congrArg parseParts (List.splitOn_intercalate '|' hbars (by simpa using h.nonempty))

/-- It matters only as what the parts are read. -/
theorem parse_join_congr (h : Separable parts) (h' : Separable parts')
    (hread : ∀ x, (∃ part ∈ parts, parsePart part.toList = x) ↔
      ∃ part ∈ parts', parsePart part.toList = x) :
    parse (join parts) = parse (join parts') := by
  rw [parse_join h, parse_join h']
  apply parseParts_congr
  simpa using hread

/-- Blanks around a part do not matter. -/
theorem parsePart_of_padded {part part' : String} (h : Padded part part') :
    parsePart part'.toList = parsePart part.toList := by
  obtain ⟨l, r, hpart, hl, hr⟩ := h
  rw [parsePart, parsePart, hpart, Text.trim_pad hl hr]

/-- No letter becomes a bar in upper case. -/
theorem toUpper_eq_bar_iff {c : Char} : c.toUpper = '|' ↔ c = '|' := by
  rcases Text.toUpper_cases c with h | ⟨hlow, hhigh, hupper⟩
  · rw [h]
  · constructor
    · intro hbar
      -- A letter that became a bar would stand 32 places behind it, where there is none.
      rw [hbar] at hupper
      have hnat : '|'.toNat = 124 := rfl
      omega
    · rintro rfl
      rfl

/-- Bars are where they were when a text is written in upper case. -/
theorem splitOn_upper (cs : List Char) :
    (Text.upper cs).splitOn '|' = (cs.splitOn '|').map Text.upper := by
  induction cs with
  | nil => rfl
  | cons c cs ih =>
    -- A character is a bar before iff it is one after, so the text is cut in the same places.
    have hbar : (c.toUpper == '|') = (c == '|') := by
      rw [Bool.eq_iff_iff, beq_iff_eq, beq_iff_eq, toUpper_eq_bar_iff]
    obtain ⟨part, parts, hsplit⟩ := List.exists_cons_of_ne_nil (List.splitOn_ne_nil '|' cs)
    rw [Text.upper] at *
    rw [List.map_cons, List.splitOn_cons_eq_if_modifyHead, List.splitOn_cons_eq_if_modifyHead, hbar,
      ih, hsplit]
    split <;> rfl

/-- The case of letters does not matter. -/
theorem parse_upper (s t : String) (h : Text.upper s.toList = Text.upper t.toList) :
    parse s = parse t := by
  have hpart : parsePart = (fun cs => ofWord (Text.trim cs)) ∘ Text.upper := by
    funext part
    rw [parsePart, Function.comp_apply, Text.trim_upper]
  have hparts : (s.toList.splitOn '|').map parsePart = (t.toList.splitOn '|').map parsePart := by
    rw [hpart, ← List.map_map, ← List.map_map, ← splitOn_upper, ← splitOn_upper, h]
  rw [parse, parse]
  apply parseParts_congr
  rw [hparts]
  exact fun _ => .rfl

/-! ### The laws of the grammar -/

/-- Which texts are read as permissions, and as what. -/
structure GrammarLaws : Prop where
  /-- A list is read iff every part spells a word. -/
  accepted : ∀ parts, Separable parts →
    (parse (join parts) ≠ none ↔ ∀ part ∈ parts, ∃ e ∈ vocabulary, Spells part e.1)
  /-- A part spells a word iff it is the word once it is trimmed and in upper case. -/
  trimmed : ∀ part, ∀ e ∈ vocabulary,
    (Spells part e.1 ↔ Text.upper (Text.trim part.toList) = e.1.toList)
  /-- A list grants a kind iff some part spells the word of the kind, or that of all kinds. -/
  granted : ∀ parts q, Separable parts → parse (join parts) = some q →
    ∀ kind word, kind.word? = some word →
      (q.grants kind = true ↔ ∃ part ∈ parts, Spells part word ∨ Spells part "ALL")
  /-- As a byte, a list is what its parts gather. -/
  gathered : ∀ parts, Separable parts → gather parts = (parse (join parts)).map bits
  /-- That byte has no bit but those of all kinds. -/
  bounded : ∀ parts b, gather parts = some b → b &&& all.bits = b
  /-- Two texts with a bar between them are read iff both are, as the union. -/
  barred : ∀ s t r, parse (s ++ "|" ++ t) = some r ↔
    ∃ p q, parse s = some p ∧ parse t = some q ∧ p.union q = r
  /-- The order of the parts does not matter, nor how often each is there. -/
  reordered : ∀ parts parts', Separable parts → (∀ part, part ∈ parts ↔ part ∈ parts') →
    parse (join parts) = parse (join parts')
  /-- The case of letters does not matter. -/
  cased : ∀ s t : String, Text.upper s.toList = Text.upper t.toList → parse s = parse t
  /-- Blanks around the parts do not matter. -/
  padded : ∀ parts parts', Separable parts → List.Forall₂ Padded parts parts' →
    parse (join parts) = parse (join parts')
  /-- A part that is blank or spells no word spoils the list. -/
  spoiled : ∀ parts, Separable parts → ∀ part ∈ parts,
    Text.Blanks part.toList ∨ (∀ e ∈ vocabulary, ¬ Spells part e.1) → parse (join parts) = none

/-- A part is read iff it spells some word. -/
theorem parsePart_ne_none_iff {part : String} :
    parsePart part.toList ≠ none ↔ ∃ e ∈ vocabulary, Spells part e.1 := by
  simp only [Option.ne_none_iff_exists', parsePart_eq_some_iff, Prod.exists]
  exact exists_comm

/-- A part grants a kind iff it spells the word of the kind, or that of all kinds. -/
theorem grants_parsePart_iff {part word : String} {kind : MemberKind} (hkind : kind.word? = some word) :
    (∃ p, parsePart part.toList = some p ∧ p.grants kind = true) ↔
      Spells part word ∨ Spells part "ALL" := by
  constructor
  · rintro ⟨p, hp, hgrants⟩
    obtain ⟨w, hw, hspells⟩ := parsePart_eq_some_iff.mp hp
    rcases (grants_iff_of_mem_vocabulary hw hkind).mp hgrants with rfl | rfl
    · exact .inl hspells
    · exact .inr hspells
  · have hgrants : ∀ w, w = word ∨ w = "ALL" → Spells part w →
        ∃ p, parsePart part.toList = some p ∧ p.grants kind = true := by
      intro w hw hspells
      obtain ⟨p, hp⟩ := exists_mem_vocabulary hkind hw
      exact ⟨p, parsePart_eq_some_iff.mpr ⟨w, hp, hspells⟩,
        (grants_iff_of_mem_vocabulary hp hkind).mpr hw⟩
    rintro (h | h)
    · exact hgrants _ (.inl rfl) h
    · exact hgrants _ (.inr rfl) h

/-- A list is read iff every part spells a word. -/
theorem parse_join_ne_none_iff (h : Separable parts) :
    parse (join parts) ≠ none ↔ ∀ part ∈ parts, ∃ e ∈ vocabulary, Spells part e.1 := by
  simp only [← parsePart_ne_none_iff]
  rw [parse_join h]
  constructor
  · intro hread part hpart hnone
    obtain ⟨q, hq⟩ := Option.ne_none_iff_exists'.mp hread
    apply (of_parseParts_eq_some hq).1
    simpa using ⟨part, hpart, hnone⟩
  · intro hread
    have hparts : none ∉ (parts.map String.toList).map parsePart := by simpa using hread
    obtain ⟨q, hq⟩ := exists_parseParts hparts
    rw [hq]
    exact Option.some_ne_none q

/-- A list grants a kind iff some part spells the word of the kind, or that of all kinds. -/
theorem grants_parse_join (h : Separable parts) {q : Permission} (hq : parse (join parts) = some q)
    {kind : MemberKind} {word : String} (hkind : kind.word? = some word) :
    q.grants kind = true ↔ ∃ part ∈ parts, Spells part word ∨ Spells part "ALL" := by
  have hknown : kind ≠ .other := by
    rintro rfl
    cases hkind
  rw [parse_join h] at hq
  rw [(of_parseParts_eq_some hq).2 kind hknown]
  simp only [← grants_parsePart_iff hkind, List.mem_map, exists_exists_and_eq_and]
  constructor
  · rintro ⟨p, ⟨part, hpart, hp⟩, hgrants⟩
    exact ⟨part, hpart, p, hp, hgrants⟩
  · rintro ⟨part, hpart, p, hp, hgrants⟩
    exact ⟨p, ⟨part, hpart, hp⟩, hgrants⟩

/-- Every padded part comes of one without the blanks. -/
theorem exists_of_mem_padded (h : List.Forall₂ Padded parts parts') {part' : String}
    (hmem : part' ∈ parts') : ∃ part ∈ parts, Padded part part' := by
  induction h with
  | nil => cases hmem
  | cons hpadded _ ih =>
    rcases List.mem_cons.mp hmem with rfl | hmem
    · exact ⟨_, List.mem_cons_self, hpadded⟩
    · obtain ⟨part, hpart, hpadded'⟩ := ih hmem
      exact ⟨part, List.mem_cons_of_mem _ hpart, hpadded'⟩

/-- Blanks make no bar. -/
theorem Separable.of_padded (h : Separable parts) (hpadded : List.Forall₂ Padded parts parts') :
    Separable parts' := by
  have hbar : Text.isBlank '|' = false := by decide
  constructor
  · rintro rfl
    exact h.nonempty (List.forall₂_nil_right_iff.mp hpadded)
  · intro part' hpart' hmem
    obtain ⟨part, hpart, l, r, heq, hl, hr⟩ := exists_of_mem_padded hpadded hpart'
    rw [heq, List.mem_append, List.mem_append] at hmem
    rcases hmem with (hmem | hmem) | hmem
    · cases hbar.symm.trans (hl _ hmem)
    · exact h.barless part hpart hmem
    · cases hbar.symm.trans (hr _ hmem)

/-- Blanks around the parts do not change what they are read as. -/
theorem map_parsePart_of_padded (h : List.Forall₂ Padded parts parts') :
    parts'.map (fun part => parsePart part.toList) = parts.map fun part => parsePart part.toList := by
  induction h with
  | nil => rfl
  | cons hpart _ ih => rw [List.map_cons, List.map_cons, parsePart_of_padded hpart, ih]

/-- A blank part spells no word. -/
theorem not_spells_of_blanks {part : String} (h : Text.Blanks part.toList) :
    ∀ e ∈ vocabulary, ¬ Spells part e.1 := by
  have hwords : ∀ e ∈ vocabulary, e.1.toList ≠ [] := by decide
  intro e he hspells
  have hnone : Text.trim part.toList = [] := by simpa [Text.trim] using Text.trim_pad h Text.Blanks.nil []
  rw [spells_iff (solid_of_mem_vocabulary he), hnone] at hspells
  exact hwords e he hspells.symm

/-- The laws hold for all texts. -/
theorem grammarLaws : GrammarLaws where
  accepted parts h := parse_join_ne_none_iff h
  trimmed part e he := spells_iff (solid_of_mem_vocabulary he)
  granted parts q h hq kind word hkind := grants_parse_join h hq hkind
  gathered parts h := by rw [gather_eq, parse_join h]
  bounded parts b hb := by
    rw [gather_eq] at hb
    obtain ⟨q, -, rfl⟩ := Option.map_eq_some_iff.mp hb
    exact bits_and_all q
  barred s t r := by
    have hsplit : (s ++ "|" ++ t).toList.splitOn '|' = s.toList.splitOn '|' ++ t.toList.splitOn '|' := by
      rw [String.toList_append, String.toList_append, List.append_assoc]
      exact List.splitOn_append_cons_self _ _
    rw [parse, hsplit]
    exact parseParts_append_eq_some_iff
  reordered parts parts' h hsame := by
    have h' : Separable parts' := by
      refine ⟨?_, fun part hpart => h.barless part ((hsame part).mpr hpart)⟩
      obtain ⟨part, hpart⟩ := List.exists_mem_of_ne_nil _ h.nonempty
      exact List.ne_nil_of_mem ((hsame part).mp hpart)
    exact parse_join_congr h h' fun x => by simp only [hsame]
  cased := parse_upper
  padded parts parts' h hpadded := by
    apply parse_join_congr h (h.of_padded hpadded)
    intro x
    rw [← List.mem_map, ← List.mem_map, map_parsePart_of_padded hpadded]
  spoiled parts h part hpart hbad := by
    have hno : ∀ e ∈ vocabulary, ¬ Spells part e.1 := hbad.elim not_spells_of_blanks id
    apply Decidable.not_not.mp
    intro hread
    obtain ⟨e, he, hspells⟩ := (parse_join_ne_none_iff h).mp hread part hpart
    exact hno e he hspells

/-- A wide blank is a blank, and behind a bar at the end there is an empty part. -/
example : parse "fields|\u2003Methods" = some ⟨true, true, false⟩ ∧ parse "FIELDS|" = none := by
  decide

end Permission

end Interop
