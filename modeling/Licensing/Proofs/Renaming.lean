import Mathlib.Logic.Equiv.Defs
import Licensing.Proofs.Equivalence

namespace Licensing

namespace Renaming

def comp : Renaming → Renaming → Renaming
  | [], _ => []
  | (source, target) :: rest, t =>
    match t.lookup target with
    | some image => (source, image) :: comp rest t
    | none => (comp rest t).erase source

/-- The pairs of a renaming turned around. -/
def inverse : Renaming → Renaming
  | [] => []
  | (source, target) :: rest => (target, source) :: (inverse rest).filter (·.2 != source)

/-- Two identifiers have no common image. -/
def Injective (t : Renaming) : Prop :=
  ∀ ⦃a b target⦄, t.lookup a = some target → t.lookup b = some target → a = b

def identity (ids : List String) : Renaming :=
  ids.map fun id => (id, id)

section

variable {t : Renaming} {source target : String}

theorem lookup_cons (t : Renaming) (id source target : String) :
    List.lookup id ((source, target) :: t) = if id = source then some target else t.lookup id := by
  rw [List.lookup_cons]
  split <;> simp_all

theorem lookup_erase (t : Renaming) (id source : String) :
    (t.erase source).lookup id = if id = source then none else t.lookup id := by
  induction t with
  | nil => exact (ite_self _).symm
  | cons pair rest ih =>
    obtain ⟨first, image⟩ := pair
    have herase : erase ((first, image) :: rest) source =
        if first = source then erase rest source else (first, image) :: erase rest source := by
      by_cases hfirst : first = source <;> simp [erase, hfirst]
    rw [herase, lookup_cons]
    split
    · rename_i hfirst
      rw [ih, hfirst]
      split <;> rfl
    · rename_i hfirst
      rw [lookup_cons, ih]
      split
      · rename_i hid
        rw [if_neg (hid ▸ hfirst)]
      · rfl

theorem lookup_comp (t u : Renaming) (id : String) :
    (t.comp u).lookup id = (t.lookup id).bind fun target => u.lookup target := by
  induction t with
  | nil => rfl
  | cons pair rest ih =>
    obtain ⟨source, target⟩ := pair
    rw [lookup_cons, comp]
    cases himage : u.lookup target with
    | none =>
      dsimp only
      rw [lookup_erase, ih]
      split
      · rw [Option.bind_some, himage]
      · rfl
    | some image =>
      dsimp only
      rw [lookup_cons, ih]
      split
      · rw [Option.bind_some, himage]
      · rfl

theorem mem_inverse : (target, source) ∈ t.inverse ↔ t.lookup source = some target := by
  induction t with
  | nil => simp [inverse]
  | cons pair rest ih =>
    obtain ⟨first, image⟩ := pair
    rw [inverse, List.mem_cons, List.mem_filter, ih, lookup_cons]
    by_cases hsource : source = first
    · simp [hsource, eq_comm (a := target)]
    · simp [hsource]

theorem lookup_inverse (h : t.Injective) :
    t.inverse.lookup target = some source ↔ t.lookup source = some target := by
  have hmem {other : String} (hlookup : t.inverse.lookup target = some other) :
      t.lookup other = some target := by
    obtain ⟨before, after, hsplit, -⟩ := List.lookup_eq_some_iff.1 hlookup
    rw [← mem_inverse, hsplit]
    exact List.mem_append_right _ List.mem_cons_self
  refine ⟨hmem, fun hlookup => ?_⟩
  cases hinverse : t.inverse.lookup target with
  | none =>
    have hnone := List.lookup_eq_none_iff.1 hinverse _ (mem_inverse.2 hlookup)
    simp at hnone
  | some other => rw [h (hmem hinverse) hlookup]

theorem lookup_identity {ids : List String} :
    (identity ids).lookup source = some target ↔ source ∈ ids ∧ target = source := by
  induction ids with
  | nil => simp [identity]
  | cons id ids ih =>
    rw [identity, List.map_cons, lookup_cons, ← identity, List.mem_cons]
    split
    · rename_i hsource
      simp [hsource, eq_comm]
    · rename_i hsource
      rw [ih]
      simp [hsource]

end

end Renaming

namespace Expression

mutual

def customIds : Expression → List String
  | custom id => [id]
  | conjunctive members => membersCustomIds members
  | disjunctive members => membersCustomIds members
  | withException license _ => license.customIds
  | orLater license => license.customIds
  | _ => []

def membersCustomIds : List Expression → List String
  | [] => []
  | e :: rest => e.customIds ++ membersCustomIds rest

end

theorem customIds_subset_of_mem {e : Expression} {members : List Expression} (h : e ∈ members) :
    e.customIds ⊆ membersCustomIds members := by
  induction members with
  | nil => cases h
  | cons first rest ih =>
    rw [membersCustomIds]
    rcases List.mem_cons.1 h with rfl | hrest
    · exact List.subset_append_left _ _
    · exact List.subset_append_of_subset_right _ (ih hrest)

namespace Equivalent

variable {t u v : Renaming} {a b c : Expression}

theorem trans (h : Equivalent t a b) (h' : Equivalent u b c)
    (hv : ∀ x y z, t.lookup x = some y → u.lookup y = some z → v.lookup x = some z) :
    Equivalent v a c := by
  induction h generalizing c with
  | conjunctive pairing _ ih =>
    cases h' with
    | conjunctive pairing' h' =>
      exact .conjunctive (pairing.trans pairing') fun i => ih i (h' (pairing i))
    | value hparts heq => cases heq; cases hparts
  | disjunctive pairing _ ih =>
    cases h' with
    | disjunctive pairing' h' =>
      exact .disjunctive (pairing.trans pairing') fun i => ih i (h' (pairing i))
    | value hparts heq => cases heq; cases hparts
  | custom h =>
    cases h' with
    | custom h' => exact .custom (hv _ _ _ h h')
    | value hparts heq => cases heq; cases hparts
  | withException exception _ ih =>
    cases h' with
    | withException _ h' => exact .withException exception (ih h')
    | value hparts heq => cases heq; cases hparts
  | orLater _ ih =>
    cases h' with
    | orLater h' => exact .orLater (ih h')
    | value hparts heq => cases heq; cases hparts
  | value hparts heq =>
    subst heq
    cases h' with
    | value hparts' heq' => exact .value hparts' heq'
    | _ => cases hparts

theorem symm (h : Equivalent t a b)
    (hu : ∀ x y, t.lookup x = some y → u.lookup y = some x) : Equivalent u b a := by
  induction h with
  | conjunctive pairing _ ih =>
    refine .conjunctive pairing.symm fun i => ?_
    have hi := ih (pairing.symm i)
    simpa only [pairing.apply_symm_apply] using hi
  | disjunctive pairing _ ih =>
    refine .disjunctive pairing.symm fun i => ?_
    have hi := ih (pairing.symm i)
    simpa only [pairing.apply_symm_apply] using hi
  | custom h => exact .custom (hu _ _ h)
  | withException exception _ ih => exact .withException exception ih
  | orLater _ ih => exact .orLater ih
  | value hparts heq =>
    subst heq
    exact .value hparts rfl

theorem refl (h : ∀ id ∈ a.customIds, t.lookup id = some id) : Equivalent t a a := by
  induction a using memberInduction with
  | simple id => exact .value rfl rfl
  | custom id => exact .custom (h id List.mem_cons_self)
  | conjunctive members ih =>
    refine .conjunctive (.refl _) fun i => ih _ (List.getElem_mem _) fun id hid => h id ?_
    exact customIds_subset_of_mem (List.getElem_mem _) hid
  | disjunctive members ih =>
    refine .disjunctive (.refl _) fun i => ih _ (List.getElem_mem _) fun id hid => h id ?_
    exact customIds_subset_of_mem (List.getElem_mem _) hid
  | noAssertion => exact .value rfl rfl
  | none => exact .value rfl rfl
  | withException license exception ih => exact .withException exception (ih h)
  | orLater license ih => exact .orLater (ih h)

end Equivalent

/-- Renamings compose, turn around and keep expressions as they are. -/
theorem isEqual_comp_inverse_identity :
    (∀ t u : Renaming, (∀ id, (t.comp u).lookup id = (t.lookup id).bind (u.lookup ·)) ∧
      ∀ a b c, isEqual t a b → isEqual u b c → isEqual (t.comp u) a c) ∧
    (∀ t : Renaming, t.Injective →
      (∀ source target, t.inverse.lookup target = some source ↔ t.lookup source = some target) ∧
        ∀ a b, isEqual t a b → isEqual t.inverse b a) ∧
    ∀ (t : Renaming) (a : Expression), (∀ id ∈ a.customIds, t.lookup id = some id) →
      isEqual t a a := by
  refine ⟨fun t u => ⟨t.lookup_comp u, fun a b c h h' => ?_⟩,
    fun t ht => ⟨fun source target => Renaming.lookup_inverse ht, fun a b h => ?_⟩,
    fun t a h => ?_⟩
  · refine (Equivalent.trans (.of_isEqual h) (.of_isEqual h') fun x y z hy hz => ?_).isEqual
    rw [Renaming.lookup_comp, hy, Option.bind_some, hz]
  · exact ((Equivalent.of_isEqual h).symm fun x y => (Renaming.lookup_inverse ht).2).isEqual
  · exact (Equivalent.refl h).isEqual

theorem isEqual_comp_inverse_identity_nested :
    let t : Renaming := [("a", "x"), ("b", "y")]
    let u : Renaming := [("x", "1"), ("y", "1")]
    let e : Expression := .conjunctive [.custom "a", .orLater (.disjunctive [.custom "b", .none])]
    let e' : Expression := .conjunctive [.orLater (.disjunctive [.none, .custom "y"]), .custom "x"]
    let e'' : Expression := .conjunctive [.custom "1", .orLater (.disjunctive [.none, .custom "1"])]
    (t.Injective ∧ isEqual t e e' = true ∧ isEqual u e' e'' = true ∧
        ∀ id ∈ e.customIds, [("b", "b"), ("a", "a")].lookup id = some id) ∧
      isEqual (t.comp u) e e'' = true ∧ isEqual t.inverse e' e = true ∧
        isEqual [("b", "b"), ("a", "a")] e e = true := by
  intro t u e e' e''
  have ht : t.Injective := by
    intro a b target ha hb
    have hpairs : ∀ p ∈ t.inverse, ∀ q ∈ t.inverse, p.1 = q.1 → p.2 = q.2 := by decide +kernel
    exact hpairs _ (Renaming.mem_inverse.2 ha) _ (Renaming.mem_inverse.2 hb) rfl
  have h : isEqual t e e' = true := by
    simp [t, e, e', isEqual, candidates, positionsOf, Pairing.isPerfect, Pairing.findAll,
      Pairing.augment, Pairing.visit, Pairing.assign, Renaming.lookup_cons]
  have h' : isEqual u e' e'' = true := by
    simp [u, e', e'', isEqual, candidates, positionsOf, Pairing.isPerfect, Pairing.findAll,
      Pairing.augment, Pairing.visit, Pairing.assign, Renaming.lookup_cons]
  have hkept : ∀ id ∈ e.customIds, [("b", "b"), ("a", "a")].lookup id = some id := by
    decide +kernel
  obtain ⟨hcomp, hinverse, hidentity⟩ := isEqual_comp_inverse_identity
  exact ⟨⟨ht, h, h', hkept⟩, (hcomp t u).2 e e' e'' h h', (hinverse t ht).2 e e' h,
    hidentity _ e hkept⟩

end Expression

end Licensing
