import Licensing.Matching.Search
import Licensing.Proofs.Spans

namespace Licensing.Matching

open Licensing.Text Licensing.Template

/-- The tokens from `start` up to `stop` have the given texts, one for one. -/
def Spells (d : Document) (start stop : Nat) (texts : List String) : Prop :=
  stop = start + texts.length ∧
    ∀ k (h : k < texts.length), d.text? (start + k) = some texts[k]

/-- The ranges of tokens of a document that a body derives. -/
inductive Derives [Engine] (f : Folding) (d : Document) : Body → Nat → Nat → Prop where
  | done (i : Nat) : Derives f d .done i i
  | text {content rest i j k} (htext : Spells d i j (textTokens f content))
      (hrest : Derives f d rest j k) : Derives f d (.text content rest) i k
  | taken {rule inner rest i j k} (hinner : Derives f d inner i j)
      (hrest : Derives f d rest j k) : Derives f d (.optional rule inner rest) i k
  | skipped {rule inner rest i k} (hrest : Derives f d rest i k) :
      Derives f d (.optional rule inner rest) i k
  | «variable» {rule rest i j k} (hle : i ≤ j) (hsize : j ≤ d.size)
      (haccepts : acceptsSpan d rule (literal? f rule) i j) (hrest : Derives f d rest j k) :
      Derives f d (.variable rule rest) i k

section

variable {f : Folding} {d : Document} {i j k : Nat} {body inner rest : Body}
  {rule : VariableRule} {region : OptionalRule} {content : List Char}

theorem text?_isSome_iff : (d.text? i).isSome ↔ i < d.size := by
  simp [Document.text?, Document.size]

theorem lt_size_of_text? {token : String} (h : d.text? i = some token) : i < d.size := by
  rw [← text?_isSome_iff, h]
  rfl

theorem mem_occurrences {token : String} : i ∈ d.occurrences token ↔ d.text? i = some token := by
  simp only [Document.occurrences, List.mem_filter, List.mem_range, beq_iff_eq]
  constructor
  · exact And.right
  · intro h
    exact ⟨lt_size_of_text? h, h⟩

@[simp] theorem spells_nil : Spells d i j [] ↔ j = i := by
  simp [Spells]

theorem spells_cons {token : String} {texts : List String} :
    Spells d i j (token :: texts) ↔ d.text? i = some token ∧ Spells d (i + 1) j texts := by
  constructor
  · rintro ⟨hstop, htexts⟩
    refine ⟨htexts 0 (Nat.succ_pos _), ?_, ?_⟩
    · rw [hstop, List.length_cons]
      omega
    · intro k hk
      have htext := htexts (k + 1) (Nat.succ_lt_succ hk)
      rw [show i + 1 + k = i + (k + 1) by omega]
      exact htext
  · rintro ⟨hfirst, hstop, htexts⟩
    refine ⟨?_, ?_⟩
    · rw [hstop, List.length_cons]
      omega
    · intro k hk
      cases k with
      | zero => exact hfirst
      | succ k =>
        have htext := htexts k (Nat.lt_of_succ_lt_succ hk)
        rw [show i + (k + 1) = i + 1 + k by omega]
        exact htext

theorem spells_append {texts later : List String} :
    Spells d i k (texts ++ later) ↔ ∃ j, Spells d i j texts ∧ Spells d j k later := by
  induction texts generalizing i with
  | nil => simp only [List.nil_append, spells_nil, exists_eq_left]
  | cons token texts ih => simp only [List.cons_append, spells_cons, ih, exists_and_left, and_assoc]

theorem Spells.le_size {texts : List String} (h : Spells d i j texts) (hi : i ≤ d.size) :
    i ≤ j ∧ j ≤ d.size := by
  induction texts generalizing i with
  | nil =>
    rw [spells_nil] at h
    omega
  | cons token texts ih =>
    obtain ⟨hfirst, hrest⟩ := spells_cons.1 h
    have hlt := lt_size_of_text? hfirst
    have hle := ih hrest hlt
    omega

theorem spells_zero_iff {texts : List String} :
    Spells d 0 k texts ↔ k ≤ d.size ∧ d.texts.take k = texts := by
  constructor
  · intro h
    have hsize := (h.le_size (Nat.zero_le _)).2
    obtain ⟨hstop, htexts⟩ := h
    refine ⟨hsize, List.ext_getElem? fun j => ?_⟩
    rw [Nat.zero_add] at hstop
    rw [List.getElem?_take, Document.getElem?_texts, hstop]
    split
    · rename_i hj
      rw [List.getElem?_eq_getElem hj, ← htexts j hj, Nat.zero_add]
    · rename_i hj
      rw [List.getElem?_eq_none (Nat.le_of_not_lt hj)]
  · rintro ⟨hk, rfl⟩
    refine ⟨by simp [hk], fun j hj => ?_⟩
    rw [Nat.zero_add, ← Document.getElem?_texts, List.getElem_take, List.getElem?_eq_getElem]

theorem Derives.le_size [Engine] (h : Derives f d body i j) (hi : i ≤ d.size) :
    i ≤ j ∧ j ≤ d.size := by
  induction h with
  | done i => exact ⟨Nat.le_refl i, hi⟩
  | text htext hrest ih =>
    have hle := htext.le_size hi
    have hle' := ih hle.2
    omega
  | taken hinner hrest ihInner ihRest =>
    have hle := ihInner hi
    have hle' := ihRest hle.2
    omega
  | skipped hrest ih => exact ih hi
  | «variable» hle hsize haccepts hrest ih =>
    have hle' := ih hsize
    omega

theorem derives_done [Engine] : Derives f d .done i j ↔ j = i := by
  constructor
  · intro h
    cases h
    rfl
  · rintro rfl
    exact .done _

theorem derives_text [Engine] :
    Derives f d (.text content rest) i k ↔
      ∃ j, Spells d i j (textTokens f content) ∧ Derives f d rest j k := by
  constructor
  · intro h
    cases h with
    | text htext hrest => exact ⟨_, htext, hrest⟩
  · rintro ⟨j, htext, hrest⟩
    exact .text htext hrest

theorem derives_optional [Engine] :
    Derives f d (.optional region inner rest) i k ↔
      (∃ j, Derives f d inner i j ∧ Derives f d rest j k) ∨ Derives f d rest i k := by
  constructor
  · intro h
    cases h with
    | taken hinner hrest => exact .inl ⟨_, hinner, hrest⟩
    | skipped hrest => exact .inr hrest
  · rintro (⟨j, hinner, hrest⟩ | hrest)
    · exact .taken hinner hrest
    · exact .skipped hrest

theorem derives_variable [Engine] :
    Derives f d (.variable rule rest) i k ↔
      ∃ j, (i ≤ j ∧ j ≤ d.size ∧ acceptsSpan d rule (literal? f rule) i j) ∧
        Derives f d rest j k := by
  constructor
  · intro h
    cases h with
    | «variable» hle hsize haccepts hrest => exact ⟨_, ⟨hle, hsize, haccepts⟩, hrest⟩
  · rintro ⟨j, ⟨hle, hsize, haccepts⟩, hrest⟩
    exact .variable hle hsize haccepts hrest

theorem derives_of_stepCount_zero [Engine] (h : stepCount f body = 0) :
    Derives f d body i j ↔ j = i := by
  induction body with
  | done => exact derives_done
  | text content rest ih =>
    simp only [stepCount, Nat.add_eq_zero_iff, ite_eq_left_iff, Nat.one_ne_zero, imp_false,
      Bool.not_eq_true, Bool.not_eq_false] at h
    rw [derives_text, List.isEmpty_iff.1 h.1]
    simp only [spells_nil, exists_eq_left]
    exact ih h.2
  | optional region inner rest => simp [stepCount, Nat.add_assoc] at h
  | «variable» rule rest => simp [stepCount] at h

end

end Licensing.Matching
