import Licensing.Text.Folding
import Licensing.Unicode.Grapheme
import Licensing.Unicode.Lowercase
import Mathlib.Data.List.Chain

set_option maxRecDepth 100000

namespace Licensing.Unicode

open Licensing.Text

theorem Ranges.exists_of_search {ranges : Array (Nat × Nat)} {x lo hi : Nat}
    (h : search ranges x lo hi) : ∃ range ∈ ranges, range.1 ≤ x ∧ x ≤ range.2 := by
  fun_induction search ranges x lo hi with
  | case1 => cases h
  | case2 lo hi hlt mid first last hmid hx ih => exact ih h
  | case3 lo hi hlt mid first last hmid hx hx' ih => exact ih h
  | case4 lo hi hlt mid first last hmid hx hx' =>
    exact ⟨(first, last), Array.mem_of_getElem? hmid, Nat.le_of_not_lt hx, Nat.le_of_not_lt hx'⟩
  | case5 => cases h

namespace Mapping

variable {α β : Type} {entries : Array (Nat × α)} {x lo hi : Nat} {a : α}

theorem mem_of_search (h : search entries x lo hi = some a) : (x, a) ∈ entries := by
  fun_induction search entries x lo hi with
  | case1 => cases h
  | case2 lo hi hlt mid key b hmid hx ih => exact ih h
  | case3 lo hi hlt mid key b hmid hx hx' ih => exact ih h
  | case4 lo hi hlt mid key b hmid hx hx' =>
    obtain rfl := Option.some.inj h
    obtain rfl : x = key := Nat.le_antisymm (Nat.le_of_not_lt hx') (Nat.le_of_not_lt hx)
    exact Array.mem_of_getElem? hmid
  | case5 => cases h

theorem key_lt (h : entries.toList.Pairwise (·.1 < ·.1)) {i j key key' : Nat} {b : α}
    (hi : entries[i]? = some (key, a)) (hj : entries[j]? = some (key', b)) (hlt : i < j) :
    key < key' := by
  obtain ⟨hi, heq⟩ := Array.getElem?_eq_some_iff.1 hi
  obtain ⟨hj, heq'⟩ := Array.getElem?_eq_some_iff.1 hj
  have hkeys := List.pairwise_iff_getElem.1 h i j hi hj hlt
  rwa [Array.getElem_toList, Array.getElem_toList, heq, heq'] at hkeys

theorem index_lt (h : entries.toList.Pairwise (·.1 < ·.1)) {i j key key' : Nat} {b : α}
    (hi : entries[i]? = some (key, a)) (hj : entries[j]? = some (key', b)) (hlt : key < key') :
    i < j := by
  by_contra hle
  rcases Nat.lt_or_eq_of_le (Nat.le_of_not_lt hle) with hback | rfl
  · exact absurd (key_lt h hj hi hback) (Nat.lt_asymm hlt)
  · rw [hi] at hj
    cases hj
    exact absurd hlt (Nat.lt_irrefl _)

theorem search_eq_some (h : entries.toList.Pairwise (·.1 < ·.1)) {i : Nat}
    (hat : entries[i]? = some (x, a)) (hlo : lo ≤ i) (hhi : i < hi) (hsize : hi ≤ entries.size) :
    search entries x lo hi = some a := by
  fun_induction search entries x lo hi with
  | case1 lo hi hlt mid hmid =>
    have hle := Array.getElem?_eq_none_iff.1 hmid
    omega
  | case2 lo hi hlt mid key b hmid hx ih =>
    have hbefore : i < mid := index_lt h hat hmid hx
    exact ih hlo hbefore (by omega)
  | case3 lo hi hlt mid key b hmid hx hx' ih => exact ih (index_lt h hmid hat hx') hhi hsize
  | case4 lo hi hlt mid key b hmid hx hx' =>
    rcases Nat.lt_trichotomy i mid with hback | rfl | hback
    · exact absurd (key_lt h hat hmid hback) hx
    · rw [hmid] at hat
      cases hat
      rfl
    · exact absurd (key_lt h hmid hat hback) hx'
  | case5 lo hi hle => omega

theorem search_map (g : α → β) : search (entries.map fun (key, a) => (key, g a)) x lo hi =
    (search entries x lo hi).map g := by
  fun_induction search entries x lo hi with
  | case1 lo hi hlt mid hmid => 
    rw [search, if_pos hlt]
    simp [mid, hmid]
  | case2 lo hi hlt mid key b hmid hx ih => 
    rw [search, if_pos hlt]
    simp [mid, hmid, hx, ih]
  | case3 lo hi hlt mid key b hmid hx hx' ih => 
    rw [search, if_pos hlt]
    simp [mid, hmid, hx, hx', ih]
  | case4 lo hi hlt mid key b hmid hx hx' => 
    rw [search, if_pos hlt]
    simp [mid, hmid, hx, hx']
  | case5 lo hi hle => 
    rw [search, if_neg hle]
    rfl

theorem get?_map (g : α → β) (m : Mapping α) (c : Char) : (m.map g).get? c = (m.get? c).map g := by
  rw [get?, map, Array.size_map]
  exact search_map g

end Mapping

/-- The characters that texts are spelled with. -/
inductive SpelledBy : List String → List (List Char) → Prop
  | nil : SpelledBy [] []
  | cons {table : String} {text : List Char} {tables : List String} {texts : List (List Char)}
      (htable : table = String.ofList text) (h : SpelledBy tables texts) :
      SpelledBy (table :: tables) (text :: texts)

namespace SpelledBy

variable {tables : List String} {texts : List (List Char)} {c : Char} {image : List Nat}

theorem exists_mem (h : SpelledBy tables texts) {table : String} (hmem : table ∈ tables) :
    ∃ text ∈ texts, table.toList = text := by
  induction h with
  | nil => cases hmem
  | @cons _ text _ _ htable _ ih =>
    rcases List.mem_cons.1 hmem with rfl | hmem
    · exact ⟨text, List.mem_cons_self, by rw [htable, String.toList_ofList]⟩
    · obtain ⟨text, htext, heq⟩ := ih hmem
      exact ⟨text, List.mem_cons_of_mem _ htext, heq⟩

theorem entries_parse (h : SpelledBy tables texts) :
    (Mapping.parse tables).entries.toList = texts.flatMap Mapping.written := by
  rw [Mapping.parse, List.toList_toArray]
  induction h with
  | nil => rfl
  | cons htable _ ih =>
    rw [List.flatMap_cons, List.flatMap_cons, ih, htable, String.toList_ofList]

theorem mem_of_get? (h : SpelledBy tables texts)
    (hget : (Mapping.parse tables).get? c = some image) :
    (c.toNat, image) ∈ texts.flatMap Mapping.written := by
  rw [← h.entries_parse]
  exact (Mapping.mem_of_search hget).val

theorem get?_eq_some (h : SpelledBy tables texts)
    (hascends : ((texts.flatMap Mapping.written).map (·.1)).IsChain (· < ·))
    (hmem : (c.toNat, image) ∈ texts.flatMap Mapping.written) :
    (Mapping.parse tables).get? c = some image := by
  rw [← h.entries_parse] at hascends hmem
  obtain ⟨i, hi⟩ := List.getElem?_of_mem hmem
  rw [Array.getElem?_toList] at hi
  exact Mapping.search_eq_some (List.pairwise_map.1 (List.isChain_iff_pairwise.1 hascends)) hi
    (Nat.zero_le i) (Array.getElem?_eq_some_iff.1 hi).1 (Nat.le_refl _)

end SpelledBy

def wideBlanks : List Nat :=
  [0x85, 0xA0, 0x1680] ++ List.range' 0x2000 11 ++ [0x2028, 0x2029, 0x202F, 0x205F, 0x3000]

/-- A blank, a quote or a dash: what stands between words and is dropped. -/
def isFiller (c : Char) : Bool :=
  c = ' ' || c = '\'' || c = '-' || isQuote c || isDash c

def fillerPoints : List Nat :=
  [0x20, 0x22, 0x27, 0x2D, 0x60, 0xAB, 0xB4, 0xBB] ++ List.range' 0x2010 6 ++
    List.range' 0x2018 8 ++ [0x2032, 0x2033, 0x2212, 0xFE58, 0xFE63, 0xFF0D]

/-- The list is looked through only for code points near a blank, a quote or a dash. -/
def isFillerPoint (n : Nat) : Bool :=
  (n ≤ 0xBB || 0x2010 ≤ n && n ≤ 0x2212 || 0xFE58 ≤ n && n ≤ 0xFF0D) && fillerPoints.contains n

def isClearOf (points : List Nat) (text : List Char) : Bool :=
  (Ranges.written text).all fun range => points.all fun n => n < range.1 || range.2 < n

def classTables : List String :=
  open Data in [controls, extenders, spacingMarks, prependers, pictographs, leadingJamo, vowelJamo,
    trailingJamo, conjunctLinkers, conjunctConsonants, conjunctExtenders]

theorem classTables_clear :
    ∃ texts, SpelledBy classTables texts ∧ texts.all (isClearOf fillerPoints) := by
  -- The characters are what the literals unify with; after that they are computed with.
  constructor
  constructor
  · unfold classTables
    repeat apply SpelledBy.cons rfl
    exact .nil
  · decide +kernel

theorem clingingTables_clear :
    ∃ texts, SpelledBy [Data.extenders, Data.spacingMarks, Data.prependers] texts ∧
      texts.all (isClearOf wideBlanks) := by
  constructor
  constructor
  · repeat apply SpelledBy.cons rfl
    exact .nil
  · decide +kernel

def fillerDecompositions : List (Nat × List Nat) :=
  [(0xB4, [0x20, 0x301]), (0x2011, [0x2010]), (0x2033, [0x2032, 0x2032]), (0xFE58, [0x2014]),
    (0xFE63, [0x2D]), (0xFF0D, [0x2D])]

theorem decompositions_spelled : ∃ texts, SpelledBy Data.decompositions texts ∧
    ((texts.flatMap Mapping.written).map (·.1)).IsChain (· < ·) ∧
    (texts.flatMap Mapping.written).filter (isFillerPoint ·.1) = fillerDecompositions := by
  constructor
  constructor
  · unfold Data.decompositions
    repeat apply SpelledBy.cons rfl
    exact .nil
  · decide +kernel

theorem combiningClasses_spelled : ∃ texts, SpelledBy Data.combiningClasses texts ∧
    ((texts.flatMap Mapping.written).map (·.1)).IsChain (· < ·) ∧
    (texts.flatMap Mapping.written).filter (fun entry =>
      entry.1 = 0x301 || isFillerPoint entry.1) = [(0x301, [0xE6])] := by
  constructor
  constructor
  · unfold Data.combiningClasses
    repeat apply SpelledBy.cons rfl
    exact .nil
  · decide +kernel

theorem compositions_spelled : ∃ texts, SpelledBy Data.compositions texts ∧
    (texts.flatMap Mapping.written).all fun entry =>
      (entry.1 :: entry.2).all (!isFillerPoint ·) := by
  constructor
  constructor
  · unfold Data.compositions
    repeat apply SpelledBy.cons rfl
    exact .nil
  · decide +kernel

theorem lowercase_spelled : ∃ texts, SpelledBy Data.lowercase texts ∧
    (texts.flatMap Mapping.written).all fun entry => (entry.1 :: entry.2).all (· ≠ 0x301) := by
  constructor
  constructor
  · unfold Data.lowercase
    repeat apply SpelledBy.cons rfl
    exact .nil
  · decide +kernel

section

variable {tables : List String} {table : String} {points : List Nat} {c : Char}

theorem SpelledBy.contains_eq_false
    (h : ∃ texts, SpelledBy tables texts ∧ texts.all (isClearOf points)) (htable : table ∈ tables)
    (hc : c.toNat ∈ points) : (Ranges.parse table).contains c = false := by
  obtain ⟨texts, hspelled, hclear⟩ := h
  obtain ⟨text, htext, heq⟩ := hspelled.exists_mem htable
  rw [Bool.eq_false_iff]
  intro hcontains
  obtain ⟨range, hrange, hfirst, hlast⟩ := Ranges.exists_of_search hcontains
  rw [Ranges.parse, heq] at hrange
  have hall := List.all_eq_true.1 (List.all_eq_true.1 hclear text htext) range hrange.val
  have houtside := List.all_eq_true.1 hall c.toNat hc
  simp only [Bool.or_eq_true, decide_eq_true_eq] at houtside
  omega

theorem mem_wideBlanks (h : isWhitespace c) (hwide : 0x80 ≤ c.toNat) : c.toNat ∈ wideBlanks := by
  have hmem (n : Nat) : n ∈ wideBlanks ↔ n = 0x85 ∨ n = 0xA0 ∨ n = 0x1680 ∨
      (0x2000 ≤ n ∧ n ≤ 0x200A) ∨ n = 0x2028 ∨ n = 0x2029 ∨ n = 0x202F ∨ n = 0x205F ∨
      n = 0x3000 := by
    simp only [wideBlanks, List.mem_append, List.mem_cons, List.not_mem_nil, List.mem_range'_1,
      or_false]
    omega
  rw [hmem]
  simp only [isWhitespace, Bool.or_eq_true, Bool.and_eq_true, decide_eq_true_eq] at h
  omega

theorem isFiller_iff : isFiller c ↔ c.toNat ∈ fillerPoints := by
  have hpoint (d : Char) : c = d ↔ c.toNat = d.toNat := Char.toNat_inj.symm
  have hquote : '"'.toNat = 0x22 ∧ '`'.toNat = 0x60 := ⟨rfl, rfl⟩
  have hplain : ' '.toNat = 0x20 ∧ '\''.toNat = 0x27 ∧ '-'.toNat = 0x2D := ⟨rfl, rfl, rfl⟩
  simp only [isFiller, isQuote, isDash, fillerPoints, hpoint, hquote, hplain, Bool.or_eq_true,
    Bool.and_eq_true, decide_eq_true_eq, List.mem_append, List.mem_cons, List.not_mem_nil,
    List.mem_range'_1, or_false]
  omega

theorem isFillerPoint_iff {n : Nat} : isFillerPoint n ↔ n ∈ fillerPoints := by
  have hbounds : ∀ n ∈ fillerPoints, n ≤ 0xBB ∨ 0x2010 ≤ n ∧ n ≤ 0x2212 ∨
      0xFE58 ≤ n ∧ n ≤ 0xFF0D := by decide
  simp only [isFillerPoint, Bool.and_eq_true, List.contains_iff_mem, Bool.or_eq_true,
    decide_eq_true_eq]
  exact ⟨fun h => h.2, fun h => ⟨or_assoc.2 (hbounds n h), h⟩⟩

end

/-- The classes of the characters that a cluster goes on with, or that draw the next one in. -/
def Clings (k : GraphemeClass) : Prop :=
  k = .extend ∨ k = .joiner ∨ k = .spacing ∨ k = .prepend

instance (k : GraphemeClass) : Decidable (Clings k) :=
  inferInstanceAs (Decidable (_ ∨ _))

section

variable {c : Char} {p : Prop} [Decidable p] {a k : GraphemeClass}

theorem of_ite_clings (h : Clings (if p then a else k)) (ha : ¬ Clings a) : ¬ p ∧ Clings k := by
  by_cases hp : p
  · rw [if_pos hp] at h
    exact absurd h ha
  · rw [if_neg hp] at h
    exact ⟨hp, h⟩

theorem or_of_ite_clings (h : Clings (if p then a else k)) : p ∨ Clings k := by
  by_cases hp : p
  · exact .inl hp
  · rw [if_neg hp] at h
    exact .inr h

open GraphemeTables in
theorem contains_of_clings (h : Clings (graphemeClass c)) :
    0x80 ≤ c.toNat ∧ (c.toNat = 0x200D ∨ extenders.contains c ∨ spacingMarks.contains c ∨
      prependers.contains c) := by
  unfold graphemeClass at h
  have h := (of_ite_clings h (by decide)).2
  have h := (of_ite_clings h (by decide)).2
  obtain ⟨hwide, h⟩ := of_ite_clings h (by split <;> decide)
  refine ⟨Nat.le_of_not_lt hwide, (or_of_ite_clings h).imp_right fun h => ?_⟩
  have h := (of_ite_clings h (by decide)).2
  refine (or_of_ite_clings h).imp_right fun h => (or_of_ite_clings h).imp_right fun h => ?_
  have h := (of_ite_clings h (by decide)).2
  have h := (of_ite_clings h (by split <;> decide)).2
  have h := (of_ite_clings h (by decide)).2
  have h := (of_ite_clings h (by decide)).2
  have h := (of_ite_clings h (by decide)).2
  have h := (of_ite_clings h (by decide)).2
  exact (or_of_ite_clings h).resolve_right (by decide)

theorem not_isWhitespace_of_contains {table : String}
    (htable : table ∈ [Data.extenders, Data.spacingMarks, Data.prependers])
    (hwide : 0x80 ≤ c.toNat) (h : (Ranges.parse table).contains c) : isWhitespace c = false := by
  rw [Bool.eq_false_iff]
  intro hspace
  rw [SpelledBy.contains_eq_false clingingTables_clear htable (mem_wideBlanks hspace hwide)] at h
  cases h

theorem Clings.wide (h : Clings (graphemeClass c)) :
    0x80 ≤ c.toNat ∧ isWhitespace c = false := by
  obtain ⟨hwide, hjoiner | hextend | hspacing | hprepend⟩ := contains_of_clings h
  · refine ⟨hwide, ?_⟩
    simp [isWhitespace, hjoiner]
  · exact ⟨hwide, not_isWhitespace_of_contains (by simp) hwide hextend⟩
  · exact ⟨hwide, not_isWhitespace_of_contains (by simp) hwide hspacing⟩
  · exact ⟨hwide, not_isWhitespace_of_contains (by simp) hwide hprepend⟩

end

end Licensing.Unicode
