import Mathlib.Data.Fintype.EquivFin
import Licensing.Proofs.Augmentation

namespace Licensing.Expression

def comparesParts : Expression → Expression → Bool
  | conjunctive _, conjunctive _ | disjunctive _, disjunctive _ | custom _, custom _
  | withException _ _, withException _ _ | orLater _, orLater _ => true
  | _, _ => false

/-- The order of members does not matter, their number does. -/
inductive Equivalent (t : Renaming) : Expression → Expression → Prop where
  | conjunctive {as bs : List Expression} (pairing : Fin as.length ≃ Fin bs.length)
      (h : ∀ i, Equivalent t as[i] bs[pairing i]) :
      Equivalent t (.conjunctive as) (.conjunctive bs)
  | disjunctive {as bs : List Expression} (pairing : Fin as.length ≃ Fin bs.length)
      (h : ∀ i, Equivalent t as[i] bs[pairing i]) :
      Equivalent t (.disjunctive as) (.disjunctive bs)
  | custom {a b : String} (h : t.lookup a = some b) : Equivalent t (.custom a) (.custom b)
  | withException {a b : Expression} (exception : String) (h : Equivalent t a b) :
      Equivalent t (.withException a exception) (.withException b exception)
  | orLater {a b : Expression} (h : Equivalent t a b) : Equivalent t (.orLater a) (.orLater b)
  | value {a b : Expression} (hparts : comparesParts a b = false) (h : a = b) : Equivalent t a b

mutual

theorem eq_of_beq (a b : Expression) (h : beq a b = true) : a = b := by
  cases a with
  | simple a =>
    cases b with
    | simple b => rw [LawfulBEq.eq_of_beq h]
    | _ => simp [beq] at h
  | custom a =>
    cases b with
    | custom b => rw [LawfulBEq.eq_of_beq h]
    | _ => simp [beq] at h
  | conjunctive as =>
    cases b with
    | conjunctive bs => rw [eq_of_beqAll as bs h]
    | _ => simp [beq] at h
  | disjunctive as =>
    cases b with
    | disjunctive bs => rw [eq_of_beqAll as bs h]
    | _ => simp [beq] at h
  | noAssertion =>
    cases b with
    | noAssertion => rfl
    | _ => simp [beq] at h
  | none =>
    cases b with
    | none => rfl
    | _ => simp [beq] at h
  | withException a x =>
    cases b with
    | withException b y =>
      rw [beq, Bool.and_eq_true] at h
      rw [LawfulBEq.eq_of_beq h.1, eq_of_beq a b h.2]
    | _ => simp [beq] at h
  | orLater a =>
    cases b with
    | orLater b => rw [eq_of_beq a b h]
    | _ => simp [beq] at h

theorem eq_of_beqAll (as bs : List Expression) (h : beqAll as bs = true) : as = bs := by
  cases as with
  | nil =>
    cases bs with
    | nil => rfl
    | cons b bs => simp [beqAll] at h
  | cons a as =>
    cases bs with
    | nil => simp [beqAll] at h
    | cons b bs =>
      rw [beqAll, Bool.and_eq_true] at h
      rw [eq_of_beq a b h.1, eq_of_beqAll as bs h.2]

end

mutual

theorem beq_refl (a : Expression) : beq a a = true := by
  cases a with
  | conjunctive as => exact beqAll_refl as
  | disjunctive as => exact beqAll_refl as
  | withException a x => simp [beq, beq_refl a]
  | orLater a => exact beq_refl a
  | _ => simp [beq]

theorem beqAll_refl (as : List Expression) : beqAll as as = true := by
  cases as with
  | nil => rfl
  | cons a as => rw [beqAll, beq_refl a, beqAll_refl as, Bool.and_self]

end

instance : LawfulBEq Expression where
  eq_of_beq := eq_of_beq _ _
  rfl := beq_refl _

theorem isEqual_of_not_comparesParts {t : Renaming} {a b : Expression}
    (h : comparesParts a b = false) : isEqual t a b = (a == b) := by
  unfold isEqual
  split
  case h_6 => rfl
  all_goals cases h

section

variable {t : Renaming} {as bs : List Expression}

theorem candidates_eq_map :
    candidates t as bs = as.map fun a => positionsOf (isEqual t a) 0 bs := by
  induction as with
  | nil => rfl
  | cons a as ih => rw [candidates, ih, List.map_cons]

theorem mem_positionsOf {α : Type} {test : α → Bool} {start i : Nat} {l : List α} :
    i ∈ positionsOf test start l ↔ start ≤ i ∧ l[i - start]?.any test := by
  induction l generalizing start with
  | nil => simp [positionsOf]
  | cons a rest ih =>
    have hcons : i ∈ positionsOf test start (a :: rest) ↔
        (test a ∧ i = start) ∨ i ∈ positionsOf test (start + 1) rest := by
      rw [positionsOf]
      split <;> simp [*]
    rw [hcons, ih]
    rcases Nat.lt_trichotomy i start with hlt | rfl | hlt
    · simp only [Nat.ne_of_lt hlt, and_false, false_or]
      constructor <;> rintro ⟨hle, -⟩ <;> omega
    · simp
    · have hsub : i - start = i - (start + 1) + 1 := by omega
      rw [hsub, List.getElem?_cons_succ]
      simp only [Nat.ne_of_gt hlt, and_false, false_or]
      exact and_congr_left fun _ => by omega

theorem members_iff :
    (as.length == bs.length && Pairing.isPerfect bs.length (candidates t as bs)) = true ↔
      ∃ pairing : Fin as.length ≃ Fin bs.length, ∀ i, isEqual t as[i] bs[pairing i] := by
  rw [Bool.and_eq_true, beq_iff_eq, Pairing.isPerfect_iff, candidates_eq_map]
  have hlength : (as.map fun a => positionsOf (isEqual t a) 0 bs).length = as.length :=
    List.length_map _
  constructor
  · rintro ⟨hsame, f, hinjective, hcandidate⟩
    let g : Fin as.length → Fin bs.length := fun i => f (i.cast hlength.symm)
    have hg : Function.Injective g := hinjective.comp (Fin.cast_injective _)
    have hbijective : Function.Bijective g :=
      (Fintype.bijective_iff_injective_and_card g).2 ⟨hg, by simpa using hsame⟩
    refine ⟨Equiv.ofBijective g hbijective, fun i => ?_⟩
    have hi := hcandidate (i.cast hlength.symm)
    simpa [mem_positionsOf] using hi
  · rintro ⟨pairing, hequal⟩
    have hsame : as.length = bs.length := by simpa using Fintype.card_congr pairing
    refine ⟨hsame, fun i => pairing (i.cast hlength), ?_, fun i => ?_⟩
    · exact pairing.injective.comp (Fin.cast_injective _)
    · have hi := hequal (i.cast hlength)
      simpa [mem_positionsOf] using hi

end

/-- Induction over an expression, in which a set may use what holds of its members. -/
@[elab_as_elim]
theorem memberInduction {motive : Expression → Prop} (simple : ∀ id, motive (.simple id))
    (custom : ∀ id, motive (.custom id))
    (conjunctive : ∀ members, (∀ e ∈ members, motive e) → motive (.conjunctive members))
    (disjunctive : ∀ members, (∀ e ∈ members, motive e) → motive (.disjunctive members))
    (noAssertion : motive .noAssertion) (none : motive .none)
    (withException : ∀ license exception, motive license →
      motive (.withException license exception))
    (orLater : ∀ license, motive license → motive (.orLater license)) (e : Expression) :
    motive e := by
  match e with
  | .simple id => exact simple id
  | .custom id => exact custom id
  | .conjunctive members =>
    exact conjunctive members fun e _ => memberInduction simple custom conjunctive disjunctive
      noAssertion none withException orLater e
  | .disjunctive members =>
    exact disjunctive members fun e _ => memberInduction simple custom conjunctive disjunctive
      noAssertion none withException orLater e
  | .noAssertion => exact noAssertion
  | .none => exact none
  | .withException license exception =>
    exact withException license exception (memberInduction simple custom conjunctive disjunctive
      noAssertion none withException orLater license)
  | .orLater license =>
    exact orLater license (memberInduction simple custom conjunctive disjunctive noAssertion none
      withException orLater license)

section

variable {t : Renaming} {a b : Expression}

theorem Equivalent.of_isEqual_value (hparts : comparesParts a b = false) (h : isEqual t a b) :
    Equivalent t a b := by
  rw [isEqual_of_not_comparesParts hparts] at h
  exact .value hparts (LawfulBEq.eq_of_beq h)

theorem Equivalent.of_isEqual (h : isEqual t a b) : Equivalent t a b := by
  induction a using memberInduction generalizing b with
  | simple id => exact .of_isEqual_value rfl h
  | custom id =>
    cases b with
    | custom id' =>
      rw [isEqual, beq_iff_eq] at h
      exact .custom h
    | _ => exact .of_isEqual_value rfl h
  | conjunctive as ih =>
    cases b with
    | conjunctive bs =>
      rw [isEqual, members_iff] at h
      obtain ⟨pairing, hequal⟩ := h
      exact .conjunctive pairing fun i => ih _ (List.getElem_mem _) (hequal i)
    | _ => exact .of_isEqual_value rfl h
  | disjunctive as ih =>
    cases b with
    | disjunctive bs =>
      rw [isEqual, members_iff] at h
      obtain ⟨pairing, hequal⟩ := h
      exact .disjunctive pairing fun i => ih _ (List.getElem_mem _) (hequal i)
    | _ => exact .of_isEqual_value rfl h
  | noAssertion => exact .of_isEqual_value rfl h
  | none => exact .of_isEqual_value rfl h
  | withException license exception ih =>
    cases b with
    | withException license' exception' =>
      rw [isEqual, Bool.and_eq_true, beq_iff_eq] at h
      obtain ⟨rfl, hlicense⟩ := h
      exact .withException exception (ih hlicense)
    | _ => exact .of_isEqual_value rfl h
  | orLater license ih =>
    cases b with
    | orLater license' =>
      rw [isEqual] at h
      exact .orLater (ih h)
    | _ => exact .of_isEqual_value rfl h

theorem Equivalent.isEqual (h : Equivalent t a b) : isEqual t a b := by
  induction h with
  | conjunctive pairing h ih =>
    rw [Expression.isEqual, members_iff]
    exact ⟨pairing, ih⟩
  | disjunctive pairing h ih =>
    rw [Expression.isEqual, members_iff]
    exact ⟨pairing, ih⟩
  | custom h => rw [Expression.isEqual, h, beq_self_eq_true]
  | withException exception h ih => rw [Expression.isEqual, beq_self_eq_true, ih, Bool.and_self]
  | orLater h ih => rw [Expression.isEqual, ih]
  | value hparts h => rw [isEqual_of_not_comparesParts hparts, h, beq_self_eq_true]

end

/-- Equality decides equivalence, and its searches never share slots or run out of rounds. -/
theorem isEqual_iff_equivalent :
    (∀ (t : Renaming) (a b : Expression), isEqual t a b = true ↔ Equivalent t a b) ∧
      (∀ (n : Nat) (candidates : List (List Nat)), Pairing.isPerfect n candidates = true ↔
        ∃ f, Pairing.IsAssignment candidates n f) ∧
      (∀ (n : Nat) (candidates : List (List Nat)) (members : Nat) (owner : List (Option Nat)),
        Pairing.Reaches candidates n members owner →
          Pairing.Assigned candidates members owner) ∧
      ∀ (candidates : List (List Nat)) (member : Nat) (slots : List Nat)
        (owner : List (Option Nat)) (result : Bool × Pairing),
        Pairing.augment candidates owner.length member slots ⟨owner, owner.map fun _ => false⟩ =
            result ↔
          Pairing.Finds candidates member slots ⟨owner, owner.map fun _ => false⟩ result :=
  ⟨fun _ _ _ => ⟨.of_isEqual, Equivalent.isEqual⟩, Pairing.isPerfect_iff,
    fun _ _ _ _ => Pairing.Reaches.assigned, Pairing.augment_eq_iff_finds⟩

theorem isEqual_iff_equivalent_two_members :
    Pairing.Reaches [[0, 1], [0]] 2 2 [some 1, some 0] ∧
      Pairing.Assigned [[0, 1], [0]] 2 [some 1, some 0] ∧
        Pairing.Finds [[0, 1], [0]] 1 [0] ⟨[some 0, Option.none], [false, false]⟩
          (true, ⟨[some 1, some 0], [true, true]⟩) := by
  have hfirst : Pairing.Reaches [[0, 1], [0]] 2 1 [some 0, Option.none] :=
    .search .start (p := ⟨[some 0, Option.none], [true, false]⟩)
      (by simp [Pairing.augment, Pairing.visit, Pairing.assign])
  have hsecond : Pairing.Reaches [[0, 1], [0]] 2 2 [some 1, some 0] :=
    .search hfirst (p := ⟨[some 1, some 0], [true, true]⟩)
      (by simp [Pairing.augment, Pairing.visit, Pairing.assign])
  obtain ⟨-, -, hassigned, hfinds⟩ := isEqual_iff_equivalent
  refine ⟨hsecond, hassigned _ _ _ _ hsecond, (hfinds _ _ _ [some 0, Option.none] _).1 ?_⟩
  simp [Pairing.augment, Pairing.visit, Pairing.assign]

end Licensing.Expression
