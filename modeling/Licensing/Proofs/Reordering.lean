import Mathlib.Data.List.Perm.Basic
import Licensing.Proofs.Renaming

namespace Licensing.Expression

/-- The same expression with the members of its sets in other orders, at any depth. -/
inductive Reordered : Expression → Expression → Prop where
  | refl (e : Expression) : Reordered e e
  | conjunctive {members changed permuted : List Expression}
      (hlength : members.length = changed.length)
      (h : ∀ i : Fin members.length, Reordered members[i] changed[i.cast hlength])
      (hperm : changed.Perm permuted) : Reordered (.conjunctive members) (.conjunctive permuted)
  | disjunctive {members changed permuted : List Expression}
      (hlength : members.length = changed.length)
      (h : ∀ i : Fin members.length, Reordered members[i] changed[i.cast hlength])
      (hperm : changed.Perm permuted) : Reordered (.disjunctive members) (.disjunctive permuted)
  | withException {license license' : Expression} (exception : String)
      (h : Reordered license license') :
      Reordered (.withException license exception) (.withException license' exception)
  | orLater {license license' : Expression} (h : Reordered license license') :
      Reordered (.orLater license) (.orLater license')

def pairingOfPerm {members changed permuted : List Expression}
    (hlength : members.length = changed.length) (hperm : changed.Perm permuted) :
    Fin members.length ≃ Fin permuted.length :=
  (finCongr hlength).trans
    ⟨hperm.idxBij, hperm.symm.idxBij, hperm.idxBij_rightInverse_idxBij_symm,
      hperm.idxBij_leftInverse_idxBij_symm⟩

section

variable {t : Renaming} {a a' b b' : Expression} {members changed permuted : List Expression}

theorem getElem_pairingOfPerm (hlength : members.length = changed.length)
    (hperm : changed.Perm permuted) (i : Fin members.length) :
    permuted[pairingOfPerm hlength hperm i] = changed[i.cast hlength] :=
  hperm.getElem_idxBij_eq_getElem (i.cast hlength)

theorem Reordered.equivalent (h : Reordered a b)
    (ht : ∀ id ∈ a.customIds, t.lookup id = some id) : Equivalent t a b := by
  induction h with
  | refl e => exact .refl ht
  | conjunctive hlength _ hperm ih =>
    refine .conjunctive (pairingOfPerm hlength hperm) fun i => ?_
    rw [getElem_pairingOfPerm]
    exact ih i fun id hid => ht id (customIds_subset_of_mem (List.getElem_mem _) hid)
  | disjunctive hlength _ hperm ih =>
    refine .disjunctive (pairingOfPerm hlength hperm) fun i => ?_
    rw [getElem_pairingOfPerm]
    exact ih i fun id hid => ht id (customIds_subset_of_mem (List.getElem_mem _) hid)
  | withException exception _ ih => exact .withException exception (ih ht)
  | orLater _ ih => exact .orLater (ih ht)

theorem Equivalent.between {ids ids' : List String} (ha : Equivalent (.identity ids) a' a)
    (h : Equivalent t a b) (hb : Equivalent (.identity ids') b b') : Equivalent t a' b' := by
  have hleft : Equivalent t a' b := ha.trans h fun x y z hy hz => by
    rwa [(Renaming.lookup_identity.1 hy).2] at hz
  exact hleft.trans hb fun x y z hy hz => by
    rwa [(Renaming.lookup_identity.1 hz).2]

theorem Reordered.equivalent_identity (h : Reordered a b) :
    Equivalent (.identity a.customIds) a b ∧ Equivalent (.identity a.customIds) b a := by
  have hkept : Equivalent (.identity a.customIds) a b :=
    h.equivalent fun id hid => Renaming.lookup_identity.2 ⟨hid, rfl⟩
  refine ⟨hkept, hkept.symm fun x y hy => ?_⟩
  obtain ⟨hx, rfl⟩ := Renaming.lookup_identity.1 hy
  exact Renaming.lookup_identity.2 ⟨hx, rfl⟩

/-- Two expressions compare as any two with their members in another order. -/
theorem isEqual_of_reordered (ha : Reordered a a') (hb : Reordered b b') :
    isEqual t a' b' = isEqual t a b := by
  obtain ⟨ha, ha'⟩ := ha.equivalent_identity
  obtain ⟨hb, hb'⟩ := hb.equivalent_identity
  rw [Bool.eq_iff_iff]
  exact ⟨fun h => (ha.between (.of_isEqual h) hb').isEqual,
    fun h => (ha'.between (.of_isEqual h) hb).isEqual⟩

end

theorem isEqual_of_reordered_nested :
    let t : Renaming := [("a", "x")]
    let choice : Expression := .disjunctive [.custom "a", .simple "MIT"]
    let choice' : Expression := .disjunctive [.simple "MIT", .custom "a"]
    let image : Expression := .disjunctive [.custom "x", .simple "MIT"]
    let image' : Expression := .disjunctive [.simple "MIT", .custom "x"]
    let a : Expression := .conjunctive [.orLater choice, .noAssertion]
    let a' : Expression := .conjunctive [.noAssertion, .orLater choice']
    (Reordered (.withException a "E") (.withException a' "E") ∧
        Reordered (.withException (.conjunctive [.noAssertion, .orLater image]) "E")
          (.withException (.conjunctive [.noAssertion, .orLater image']) "E")) ∧
      isEqual t (.withException a' "E")
        (.withException (.conjunctive [.noAssertion, .orLater image']) "E") = true := by
  intro t choice choice' image image' a a'
  have ha : Reordered a a' := by
    have hchoice : Reordered choice choice' := .disjunctive rfl (fun i => .refl _) (.swap _ _ _)
    refine @Reordered.conjunctive _ [.orLater choice', .noAssertion] _ rfl (fun i => ?_)
      (.swap _ _ _)
    match i with
    | ⟨0, _⟩ => exact .orLater hchoice
    | ⟨1, _⟩ => exact .refl _
  have hb : Reordered (.conjunctive [.noAssertion, .orLater image])
      (.conjunctive [.noAssertion, .orLater image']) := by
    have himage : Reordered image image' := .disjunctive rfl (fun i => .refl _) (.swap _ _ _)
    refine @Reordered.conjunctive _ [.noAssertion, .orLater image'] _ rfl (fun i => ?_) (.refl _)
    match i with
    | ⟨0, _⟩ => exact .refl _
    | ⟨1, _⟩ => exact .orLater himage
  have h : isEqual t (.withException a "E")
      (.withException (.conjunctive [.noAssertion, .orLater image]) "E") = true := by
    simp [t, a, choice, image, isEqual, candidates, positionsOf, Pairing.isPerfect, Pairing.findAll,
      Pairing.augment, Pairing.visit, Pairing.assign]
  have ha' := ha.withException "E"
  have hb' := hb.withException "E"
  exact ⟨⟨ha', hb'⟩, (isEqual_of_reordered ha' hb').trans h⟩

end Licensing.Expression
