import Licensing.Expression.Policy
import Licensing.Proofs.Renaming

namespace Licensing.Expression

mutual

/-- What a policy checks by its text: whatever is not a set, outside of anything that is not one. -/
def leaves : Expression → List Expression
  | conjunctive members => membersLeaves members
  | disjunctive members => membersLeaves members
  | leaf => [leaf]

def membersLeaves : List Expression → List Expression
  | [] => []
  | e :: rest => e.leaves ++ membersLeaves rest

end

mutual

/-- No set in the expression has two members, so that there is no order to change. -/
def isOrderless : Expression → Bool
  | conjunctive members => members.length ≤ 1 && areOrderless members
  | disjunctive members => members.length ≤ 1 && areOrderless members
  | withException license _ => license.isOrderless
  | orLater license => license.isOrderless
  | _ => true

def areOrderless : List Expression → Bool
  | [] => true
  | e :: rest => e.isOrderless && areOrderless rest

end

section

variable {a b e : Expression} {as bs members : List Expression} {test : String → Bool}

theorem allPass_eq_all : allPass test members = members.all (passes test) := by
  induction members with
  | nil => rfl
  | cons e rest ih => rw [allPass, ih, List.all_cons]

theorem anyPasses_eq_any : anyPasses test members = members.any (passes test) := by
  induction members with
  | nil => rfl
  | cons e rest ih => rw [anyPasses, ih, List.any_cons]

theorem areOrderless_eq_all : areOrderless members = members.all isOrderless := by
  induction members with
  | nil => rfl
  | cons e rest ih => rw [areOrderless, ih, List.all_cons]

theorem leaves_subset_of_mem (h : e ∈ members) : e.leaves ⊆ membersLeaves members := by
  induction members with
  | nil => cases h
  | cons first rest ih =>
    rw [membersLeaves]
    rcases List.mem_cons.1 h with rfl | hrest
    · exact List.subset_append_left _ _
    · exact List.subset_append_of_subset_right _ (ih hrest)

theorem all_eq_of_pairing {f : Expression → Bool} (pairing : Fin as.length ≃ Fin bs.length)
    (h : ∀ i, f (as.get i) = f (bs.get (pairing i))) : as.all f = bs.all f := by
  rw [Bool.eq_iff_iff, List.all_eq_true, List.all_eq_true]
  constructor
  · intro hall b hb
    obtain ⟨i, hi, rfl⟩ := List.getElem_of_mem hb
    have hpair := h (pairing.symm ⟨i, hi⟩)
    simp only [pairing.apply_symm_apply] at hpair
    exact hpair.symm.trans (hall _ (List.getElem_mem _))
  · intro hall a ha
    obtain ⟨i, hi, rfl⟩ := List.getElem_of_mem ha
    exact (h ⟨i, hi⟩).trans (hall _ (List.getElem_mem _))

theorem any_eq_of_pairing {f : Expression → Bool} (pairing : Fin as.length ≃ Fin bs.length)
    (h : ∀ i, f (as.get i) = f (bs.get (pairing i))) : as.any f = bs.any f := by
  rw [List.any_eq_not_all_not, List.any_eq_not_all_not,
    all_eq_of_pairing pairing fun i => congrArg (!·) (h i)]

theorem eq_of_pairing (pairing : Fin as.length ≃ Fin bs.length) (hone : as.length ≤ 1)
    (h : ∀ i, as.get i = bs.get (pairing i)) : as = bs := by
  have hlength : as.length = bs.length := by simpa using Fintype.card_congr pairing
  refine List.ext_getElem hlength fun i hi hi' => ?_
  have hplace : pairing ⟨i, hi⟩ = ⟨i, hi'⟩ := Fin.ext (by omega)
  have hpair := h ⟨i, hi⟩
  simp only [hplace] at hpair
  exact hpair

/-- Equivalent expressions with nothing to permute are the same if no licenses are renamed. -/
theorem Equivalent.eq_of_isOrderless (h : Equivalent [] a b) (ha : a.isOrderless) : a = b := by
  induction h with
  | conjunctive pairing _ ih =>
    rw [isOrderless, areOrderless_eq_all, Bool.and_eq_true, decide_eq_true_eq,
      List.all_eq_true] at ha
    rw [eq_of_pairing pairing ha.1 fun i => ih i (ha.2 _ (List.getElem_mem _))]
  | disjunctive pairing _ ih =>
    rw [isOrderless, areOrderless_eq_all, Bool.and_eq_true, decide_eq_true_eq,
      List.all_eq_true] at ha
    rw [eq_of_pairing pairing ha.1 fun i => ih i (ha.2 _ (List.getElem_mem _))]
  | custom h => cases h
  | withException exception _ ih => rw [ih ha]
  | orLater _ ih => rw [ih ha]
  | value _ heq => exact heq

/-- A test that does not tell equivalent leaves apart does not tell the expressions apart. -/
theorem passes_congr (h : Equivalent [] a b)
    (htest : ∀ x ∈ a.leaves, ∀ y ∈ b.leaves, Equivalent [] x y → test x.text = test y.text) :
    passes test a = passes test b := by
  induction h with
  | conjunctive pairing _ ih =>
    rw [passes, passes, allPass_eq_all, allPass_eq_all]
    refine all_eq_of_pairing pairing fun i => ih i fun x hx y hy => htest x ?_ y ?_
    · exact leaves_subset_of_mem (List.getElem_mem _) hx
    · exact leaves_subset_of_mem (List.getElem_mem _) hy
  | disjunctive pairing _ ih =>
    rw [passes, passes, anyPasses_eq_any, anyPasses_eq_any]
    refine any_eq_of_pairing pairing fun i => ih i fun x hx y hy => htest x ?_ y ?_
    · exact leaves_subset_of_mem (List.getElem_mem _) hx
    · exact leaves_subset_of_mem (List.getElem_mem _) hy
  | custom h => cases h
  | withException exception h _ =>
    exact htest _ List.mem_cons_self _ List.mem_cons_self (.withException exception h)
  | orLater h _ => exact htest _ List.mem_cons_self _ List.mem_cons_self (.orLater h)
  | value _ heq => rw [heq]

/-- A list that does not tell equal leaves apart gives equal expressions the same verdicts. -/
theorem verdicts_of_isEqual (h : isEqual [] a b) :
    (∀ list : List String,
      (∀ x ∈ a.leaves, ∀ y ∈ b.leaves, isEqual [] x y → (x.text ∈ list ↔ y.text ∈ list)) →
        passesBlacklist a list = passesBlacklist b list ∧
          passesWhitelist a list = passesWhitelist b list) ∧
    ((∀ x ∈ a.leaves, x.isOrderless) → ∀ list : List String,
      passesBlacklist a list = passesBlacklist b list ∧
        passesWhitelist a list = passesWhitelist b list) := by
  have hequivalent : Equivalent [] a b := .of_isEqual h
  have hverdicts (list : List String)
      (hlist : ∀ x ∈ a.leaves, ∀ y ∈ b.leaves, Equivalent [] x y →
        list.contains x.text = list.contains y.text) :
      passesBlacklist a list = passesBlacklist b list ∧
        passesWhitelist a list = passesWhitelist b list := by
    rw [passesBlacklist, passesBlacklist, passesWhitelist, passesWhitelist,
      passes_congr hequivalent hlist,
      passes_congr hequivalent fun x hx y hy hxy => congrArg (!·) (hlist x hx y hy hxy)]
    exact ⟨rfl, rfl⟩
  refine ⟨fun list hlist => hverdicts list fun x hx y hy hxy => ?_,
    fun horderless list => hverdicts list fun x hx y hy hxy => ?_⟩
  · rw [Bool.eq_iff_iff, List.contains_iff_mem, List.contains_iff_mem]
    exact hlist x hx y hy hxy.isEqual
  · rw [hxy.eq_of_isOrderless (horderless x hx)]

theorem verdicts_of_isEqual_both_orders :
    let first : Expression := .orLater (.conjunctive [.simple "MIT", .simple "ISC"])
    let second : Expression := .orLater (.conjunctive [.simple "ISC", .simple "MIT"])
    let a : Expression := .disjunctive [.none, first]
    let b : Expression := .disjunctive [second, .none]
    let c : Expression := .conjunctive [.orLater (.simple "MIT"), .noAssertion]
    let d : Expression := .conjunctive [.noAssertion, .orLater (.simple "MIT")]
    let list := ["(MIT AND ISC)+", "Zlib", "(ISC AND MIT)+"]
    ((isEqual [] a b = true ∧ ∀ x ∈ a.leaves, ∀ y ∈ b.leaves,
          isEqual [] x y → (x.text ∈ list ↔ y.text ∈ list)) ∧
        passesBlacklist a list = passesBlacklist b list ∧
          passesWhitelist a list = passesWhitelist b list) ∧
      (isEqual [] c d = true ∧ ∀ x ∈ c.leaves, x.isOrderless) ∧
        passesBlacklist c ["MIT+"] = passesBlacklist d ["MIT+"] ∧
          passesWhitelist c ["MIT+"] = passesWhitelist d ["MIT+"] := by
  intro first second a b c d list
  have h : isEqual [] a b = true := by cbv
  have hleaves : ∀ x ∈ a.leaves, ∀ y ∈ b.leaves,
      isEqual [] x y → (x.text ∈ list ↔ y.text ∈ list) := by
    have hnone : isEqual [] .none second = false := rfl
    have hfirst : isEqual [] first .none = false := rfl
    have hlisted : first.text ∈ list ∧ second.text ∈ list := by decide +kernel
    have ha : a.leaves = [.none, first] := rfl
    have hb : b.leaves = [second, .none] := rfl
    simp [ha, hb, hnone, hfirst, hlisted]
  have h' : isEqual [] c d = true := by cbv
  have horderless : ∀ x ∈ c.leaves, x.isOrderless :=
    List.forall_mem_cons.2 ⟨rfl, List.forall_mem_singleton.2 rfl⟩
  exact ⟨⟨⟨h, hleaves⟩, (verdicts_of_isEqual h).1 list hleaves⟩, ⟨h', horderless⟩,
    (verdicts_of_isEqual h').2 horderless ["MIT+"]⟩

/-- A list that holds the text of one order only tells two equal expressions apart. -/
theorem verdicts_differ_by_order :
    let a : Expression := .orLater (.conjunctive [.simple "MIT", .simple "ISC"])
    let b : Expression := .orLater (.conjunctive [.simple "ISC", .simple "MIT"])
    (a.customIds = [] ∧ b.customIds = [] ∧ isEqual [] a b = true) ∧
      (passesBlacklist a ["(MIT AND ISC)+"] = false ∧
        passesBlacklist b ["(MIT AND ISC)+"] = true) ∧
      passesWhitelist a ["(MIT AND ISC)+"] = true ∧
        passesWhitelist b ["(MIT AND ISC)+"] = false := by
  intro a b
  have h : isEqual [] a b = true := by cbv
  exact ⟨⟨rfl, rfl, h⟩, by decide +kernel, by decide +kernel⟩

end

end Licensing.Expression
