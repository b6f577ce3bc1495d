import Licensing.Proofs.Verdicts
import Mathlib.Algebra.BigOperators.Fin

namespace Licensing.Expression

/-- All members of a conjunction, one member of a disjunction, the text of all else. -/
inductive Choice : Expression → Multiset String → Prop where
  | conjunctive {members : List Expression} (texts : Fin members.length → Multiset String)
      (h : ∀ i, Choice (members.get i) (texts i)) :
      Choice (.conjunctive members) (∑ i, texts i)
  | disjunctive {members : List Expression} {texts : Multiset String} (i : Fin members.length)
      (h : Choice (members.get i) texts) :
      Choice (.disjunctive members) texts
  | leaf {e : Expression} (h : e.isSet = false) : Choice e {e.text}

section

variable {e : Expression} {members : List Expression} {test : String → Bool}

theorem exists_choice_leaf (h : e.isSet = false) :
    (∃ texts, Choice e texts ∧ ∀ text ∈ texts, test text) ↔ test e.text := by
  constructor
  · rintro ⟨texts, hchoice, htest⟩
    cases hchoice with
    | conjunctive => cases h
    | disjunctive => cases h
    | leaf => exact htest _ (Multiset.mem_singleton_self _)
  · intro htest
    refine ⟨{e.text}, .leaf h, ?_⟩
    intro text hmem
    rwa [Multiset.mem_singleton.1 hmem]

theorem exists_choice_conjunctive :
    (∃ texts, Choice (.conjunctive members) texts ∧ ∀ text ∈ texts, test text) ↔
      ∀ e ∈ members, ∃ texts, Choice e texts ∧ ∀ text ∈ texts, test text := by
  constructor
  · rintro ⟨texts, hchoice, htest⟩ e hmem
    cases hchoice with
    | conjunctive texts h =>
      obtain ⟨i, rfl⟩ := List.mem_iff_get.1 hmem
      refine ⟨texts i, h i, ?_⟩
      intro text htext
      apply htest
      exact Multiset.mem_sum.2 ⟨i, Finset.mem_univ i, htext⟩
    | leaf h => cases h
  · intro h
    choose texts hchoice htest using fun i : Fin members.length =>
      h (members.get i) (List.get_mem members i)
    refine ⟨∑ i, texts i, .conjunctive texts hchoice, ?_⟩
    intro text hmem
    obtain ⟨i, -, htext⟩ := Multiset.mem_sum.1 hmem
    exact htest i text htext

theorem exists_choice_disjunctive :
    (∃ texts, Choice (.disjunctive members) texts ∧ ∀ text ∈ texts, test text) ↔
      ∃ e ∈ members, ∃ texts, Choice e texts ∧ ∀ text ∈ texts, test text := by
  constructor
  · rintro ⟨texts, hchoice, htest⟩
    cases hchoice with
    | disjunctive i h => exact ⟨members.get i, List.get_mem members i, texts, h, htest⟩
    | leaf h => cases h
  · rintro ⟨e, hmem, texts, hchoice, htest⟩
    obtain ⟨i, rfl⟩ := List.mem_iff_get.1 hmem
    exact ⟨texts, .disjunctive i hchoice, htest⟩

theorem passes_iff_exists_choice :
    passes test e ↔ ∃ texts, Choice e texts ∧ ∀ text ∈ texts, test text := by
  induction e using memberInduction with
  | conjunctive members ih =>
    rw [passes, allPass_eq_all, List.all_eq_true, exists_choice_conjunctive]
    exact forall₂_congr ih
  | disjunctive members ih =>
    rw [passes, anyPasses_eq_any, List.any_eq_true, exists_choice_disjunctive]
    exact exists_congr fun e => and_congr_right fun hmem => ih e hmem
  | simple id => exact (exists_choice_leaf rfl).symm
  | custom id => exact (exists_choice_leaf rfl).symm
  | noAssertion => exact (exists_choice_leaf rfl).symm
  | none => exact (exists_choice_leaf rfl).symm
  | withException license exception => exact (exists_choice_leaf rfl).symm
  | orLater license => exact (exists_choice_leaf rfl).symm

theorem passesWhitelist_iff {list : List String} :
    passesWhitelist e list ↔
      list ≠ [] ∧ ∃ texts, Choice e texts ∧ ∀ text ∈ texts, text ∈ list := by
  rw [passesWhitelist, Bool.and_eq_true, passes_iff_exists_choice, Bool.not_eq_true',
    List.isEmpty_eq_false_iff]
  simp only [List.contains_iff_mem]

theorem passesBlacklist_iff {list : List String} :
    passesBlacklist e list ↔
      list = [] ∨ ∃ texts, Choice e texts ∧ ∀ text ∈ texts, text ∉ list := by
  rw [passesBlacklist, Bool.or_eq_true, passes_iff_exists_choice, List.isEmpty_iff]
  simp only [Bool.not_eq_true', ← Bool.not_eq_true, List.contains_iff_mem]

/-- An expression passes a whitelist or a blacklist exactly if some choice of its texts does. -/
theorem policies_iff_exists_choice (e : Expression) :
    (∀ list : List String, list ≠ [] →
      (passesWhitelist e list ↔ ∃ texts, Choice e texts ∧ ∀ text ∈ texts, text ∈ list) ∧
        (passesBlacklist e list ↔ ∃ texts, Choice e texts ∧ ∀ text ∈ texts, text ∉ list)) ∧
      ∀ list list' : List String, list ⊆ list' →
        (passesWhitelist e list → passesWhitelist e list') ∧
          (passesBlacklist e list' → passesBlacklist e list) := by
  constructor
  · intro list hne
    rw [passesWhitelist_iff, passesBlacklist_iff]
    exact ⟨and_iff_right hne, or_iff_right hne⟩
  · intro list list' hsubset
    rw [passesWhitelist_iff, passesWhitelist_iff, passesBlacklist_iff, passesBlacklist_iff]
    constructor
    · rintro ⟨hne, texts, hchoice, hlisted⟩
      have hne' : list' ≠ [] := by
        rintro rfl
        exact hne (List.subset_nil.1 hsubset)
      exact ⟨hne', texts, hchoice, fun text hmem => hsubset (hlisted text hmem)⟩
    · rintro (rfl | ⟨texts, hchoice, hunlisted⟩)
      · exact .inl (List.subset_nil.1 hsubset)
      · exact .inr ⟨texts, hchoice, fun text hmem hlist => hunlisted text hmem (hsubset hlist)⟩

theorem policies_iff_exists_choice_nested :
    let exempt : Expression := .withException (.simple "GPL-2.0-only") "Classpath-exception-2.0"
    let e : Expression := .conjunctive [.disjunctive [exempt, .simple "MIT"],
      .disjunctive [.conjunctive [], .custom "MIT"]]
    let list := ["MIT", "GPL-2.0-only"]
    list ≠ [] ∧ list ⊆ "Zlib" :: list ∧ passesWhitelist e list = true ∧
      (∃ texts, Choice e texts ∧ ∀ text ∈ texts, text ∈ list) ∧
      (∃ texts, Choice e texts ∧ ∀ text ∈ texts, text ∉ list) ∧
      passesWhitelist e ("Zlib" :: list) = true := by
  intro exempt e list
  obtain ⟨hchoices, hlarger⟩ := policies_iff_exists_choice e
  have hne : list ≠ [] := List.cons_ne_nil _ _
  have hsubset : list ⊆ "Zlib" :: list := List.subset_cons_self _ _
  have hwhite : passesWhitelist e list = true := by decide +kernel
  have hblack : passesBlacklist e list = true := by decide +kernel
  exact ⟨hne, hsubset, hwhite, (hchoices list hne).1.1 hwhite, (hchoices list hne).2.1 hblack,
    (hlarger list _ hsubset).1 hwhite⟩

end

end Licensing.Expression
