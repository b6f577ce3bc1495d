import Licensing.Pattern.Engine
import Mathlib.Data.Nat.Bitwise

namespace Licensing.Pattern.Regex

/-- The pattern of at least `min` and at most `max` characters, bound to both ends. -/
def anyCharacters (min max : Nat) : Regex Atom :=
  .concat (.atom (.look .textStart))
    (.concat (.repetition (.atom (.char .all)) min (some max))
      (.concat (.atom (.look .textEnd)) .empty))

def anyText : Regex Atom :=
  .concat (.atom (.look .textStart))
    (.concat (.repetition (.atom (.char .all)) 0 none)
      (.concat (.atom (.look .textEnd)) .empty))

def single (n j : Nat) : Nat :=
  if j ≤ n then 2 ^ j else 0

section

variable {n i j : Nat} {s : List Char}

theorem testBit_ofBits (bits : List Bool) (i : Nat) :
    (ofBits bits).testBit i = bits[i]?.getD false := by
  induction bits generalizing i with
  | nil => simp [ofBits]
  | cons b bits ih =>
    have hcons : ofBits (b :: bits) = 2 * ofBits bits + b.toNat := rfl
    rw [hcons]
    cases i with
    | zero => cases b <;> simp [Nat.testBit_zero]
    | succ i =>
      have hhalf : (2 * ofBits bits + b.toNat) / 2 = ofBits bits := by
        have hb := Bool.toNat_lt b
        omega
      rw [Nat.testBit_succ, hhalf, ih, List.getElem?_cons_succ]

theorem map_fst_surroundings (before : Option Char) (s : List Char) :
    (surroundings before s).map (·.1) = before :: s.map some := by
  induction s generalizing before with
  | nil => rfl
  | cons c cs ih =>
    rw [surroundings, List.map_cons, ih]
    rfl

theorem map_snd_surroundings (before : Option Char) (s : List Char) :
    (surroundings before s).map (·.2) = s.map some ++ [none] := by
  induction s generalizing before with
  | nil => rfl
  | cons c cs ih =>
    rw [surroundings, List.map_cons, ih]
    rfl

def places (s : List Char) (a : Atom) : Nat :=
  ofBits ((surroundings none s).map fun (before, after) => a.holds before after)

theorem testBit_places_textStart :
    (places s (.look .textStart)).testBit i = decide (i = 0) := by
  have hbits : ((surroundings none s).map fun (before, after) =>
      (Atom.look .textStart).holds before after) = true :: List.replicate s.length false := by
    calc _ = ((surroundings none s).map (·.1)).map Option.isNone := by rw [List.map_map]; rfl
      _ = _ := by rw [map_fst_surroundings, List.map_cons, List.map_map, ← List.map_const']; rfl
  rw [places, hbits, testBit_ofBits]
  cases i with
  | zero => rfl
  | succ i =>
    rw [List.getElem?_cons_succ, List.getElem?_replicate]
    split <;> rfl

theorem testBit_behind (p : Option Char → Bool) :
    (ofBits ((surroundings none s).map fun place => p place.2)).testBit i =
      if i < s.length then p s[i]? else i = s.length && p none := by
  have hbits : (surroundings none s).map (fun place => p place.2) =
      s.map (p ∘ some) ++ [p none] := by
    calc _ = ((surroundings none s).map (·.2)).map p := by rw [List.map_map]; rfl
      _ = _ := by rw [map_snd_surroundings, List.map_append, List.map_map]; rfl
  rw [hbits, testBit_ofBits]
  split
  · rename_i hi
    rw [List.getElem?_append_left (by simpa using hi)]
    simp [hi]
  · rename_i hi
    rw [List.getElem?_append_right (by simpa using Nat.le_of_not_lt hi), List.length_map]
    by_cases heq : i = s.length
    · simp [heq]
    · have hpos : i - s.length = i - s.length - 1 + 1 := by omega
      rw [hpos]
      simp [heq]

theorem testBit_places_all :
    (places s (.char .all)).testBit i = decide (i < s.length) := by
  rw [places, show (fun (before, after) => (Atom.char .all).holds before after) =
    fun place : Option Char × Option Char => place.2.any CharSet.all.contains from rfl,
    testBit_behind fun after => after.any CharSet.all.contains]
  split
  · rename_i hi
    simp [hi, CharSet.all, CharSet.contains]
  · rename_i hi
    simp [hi]

theorem places_textEnd : places s (.look .textEnd) = 2 ^ s.length := by
  apply Nat.eq_of_testBit_eq
  intro i
  rw [places, show (fun (before, after) => (Atom.look .textEnd).holds before after) =
    fun place : Option Char × Option Char => place.2.isNone from rfl,
    testBit_behind Option.isNone, Nat.testBit_two_pow]
  split
  · rename_i hi
    simp [hi, Nat.ne_of_gt hi]
  · simp [eq_comm]

theorem testBit_single : (single n j).testBit i = (decide (j ≤ n) && decide (i = j)) := by
  unfold single
  split <;> simp [*, Nat.testBit_two_pow, eq_comm]

theorem single_eq_zero_iff : single n j = 0 ↔ n < j := by
  unfold single
  split
  · simp [*, Nat.not_lt_of_le]
  · simp [Nat.lt_of_not_le, *]

theorem apply_single :
    Step.apply ⟨places s (.char .all), true⟩ (single s.length j) = single s.length (j + 1) := by
  have hkept (hj : j ≤ s.length) : 2 ^ j &&& places s (.char .all) =
      if j < s.length then 2 ^ j else 0 := by
    rw [Nat.and_comm, Nat.and_two_pow, testBit_places_all]
    split <;> simp [*]
  unfold Step.apply single
  by_cases hj : j ≤ s.length
  · rw [if_pos hj, if_pos rfl, hkept hj]
    by_cases hlt : j < s.length
    · rw [if_pos hlt, if_pos (Nat.succ_le_of_lt hlt), Nat.shiftLeft_eq, ← Nat.pow_add]
    · rw [if_neg hlt, if_neg (mt Nat.lt_of_succ_le hlt), Nat.zero_shiftLeft]
  · rw [if_neg hj, if_neg (by omega : ¬ j + 1 ≤ s.length)]
    simp

theorem iterate_single (k : Nat) :
    iterate (Step.apply ⟨places s (.char .all), true⟩) k (single s.length j) =
      single s.length (j + k) := by
  induction k generalizing j with
  | zero => rfl
  | succ k ih =>
    rw [iterate]
    split
    · rename_i hzero
      have hlt := single_eq_zero_iff.1 hzero
      exact (single_eq_zero_iff.2 (by omega)).symm
    · rw [apply_single, ih, Nat.add_assoc, Nat.add_comm 1 k]

theorem testBit_spread_single (k reached : Nat) (hreached : ∀ i, reached.testBit i → i ≤ j) :
    (spread (Step.apply ⟨places s (.char .all), true⟩) k (single s.length j) reached).testBit i =
      (reached.testBit i || decide (j < i ∧ i ≤ j + k ∧ i ≤ s.length)) := by
  -- The edge is one position in all rounds, so it is new in each.
  induction k generalizing j reached with
  | zero =>
    have hnone : ¬ (j < i ∧ i ≤ j + 0 ∧ i ≤ s.length) := by omega
    rw [spread, decide_eq_false hnone, Bool.or_false]
  | succ k ih =>
    have hnew : single s.length (j + 1) &&& reached = 0 := by
      apply Nat.eq_of_testBit_eq
      intro i
      rw [Nat.testBit_and, testBit_single, Nat.zero_testBit]
      cases hi : reached.testBit i with
      | false => rw [Bool.and_false]
      | true =>
        have hne : i ≠ j + 1 := Nat.ne_of_lt (Nat.lt_succ_of_le (hreached i hi))
        rw [decide_eq_false hne, Bool.and_false, Bool.false_and]
    simp only [spread, apply_single, hnew, Nat.xor_zero]
    split
    · rename_i hzero
      have hlt := single_eq_zero_iff.1 hzero
      have hnone : ¬ (j < i ∧ i ≤ j + (k + 1) ∧ i ≤ s.length) := by omega
      rw [decide_eq_false hnone, Bool.or_false]
    · rename_i hpos
      have hle := Nat.le_of_not_lt (mt single_eq_zero_iff.2 hpos)
      have hreached' (i : Nat) (hi : (reached ||| single s.length (j + 1)).testBit i) :
          i ≤ j + 1 := by
        rw [Nat.testBit_or, testBit_single, Bool.or_eq_true, Bool.and_eq_true, decide_eq_true_eq,
          decide_eq_true_eq] at hi
        rcases hi with hi | hi
        · exact Nat.le_succ_of_le (hreached i hi)
        · exact Nat.le_of_eq hi.2
      rw [ih _ hreached', Nat.testBit_or, testBit_single, decide_eq_true hle, Bool.true_and,
        Bool.or_assoc, ← Bool.decide_or]
      congr 1
      rw [decide_eq_decide]
      omega

theorem apply_textStart :
    Step.apply ⟨places s (.look .textStart), false⟩
      (ofBits ((surroundings none s).map fun _ => true)) = single s.length 0 := by
  apply Nat.eq_of_testBit_eq
  intro i
  rw [testBit_single, Step.apply, if_neg Bool.false_ne_true, Nat.testBit_and,
    testBit_places_textStart, testBit_behind fun _ => true]
  cases i with
  | zero => cases s <;> simp
  | succ i => simp

theorem apply_textEnd (positions : Nat) :
    Step.apply ⟨places s (.look .textEnd), false⟩ positions ≠ 0 ↔
      positions.testBit s.length := by
  rw [Step.apply, if_neg Bool.false_ne_true, places_textEnd, Nat.and_two_pow]
  cases positions.testBit s.length <;> simp

theorem matchesIn_anyCharacters {min max : Nat} (hle : min ≤ max) :
    (anyCharacters min max).matchesIn s ↔ min ≤ s.length ∧ s.length ≤ max := by
  have hreached : ∀ i, (single s.length min).testBit i → i ≤ min := by
    intro i hi
    rw [testBit_single, Bool.and_eq_true, decide_eq_true_eq, decide_eq_true_eq] at hi
    exact Nat.le_of_eq hi.2
  have himage : (anyCharacters min max).matchesIn s =
      decide (Step.apply ⟨places s (.look .textEnd), false⟩
        (spread (Step.apply ⟨places s (.char .all), true⟩) (max - min)
          (iterate (Step.apply ⟨places s (.char .all), true⟩) min (single s.length 0))
          (iterate (Step.apply ⟨places s (.char .all), true⟩) min (single s.length 0))) ≠ 0) := by
    rw [← apply_textStart]
    rfl
  rw [himage, decide_eq_true_eq, apply_textEnd, iterate_single, Nat.zero_add,
    testBit_spread_single _ _ hreached, testBit_single, Bool.or_eq_true, Bool.and_eq_true]
  simp only [decide_eq_true_eq]
  omega

theorem matchesIn_anyText (s : List Char) : anyText.matchesIn s := by
  have hreached : ∀ i, (single s.length 0).testBit i → i ≤ 0 := by
    intro i hi
    rw [testBit_single, Bool.and_eq_true, decide_eq_true_eq, decide_eq_true_eq] at hi
    exact Nat.le_of_eq hi.2
  have himage : anyText.matchesIn s =
      decide (Step.apply ⟨places s (.look .textEnd), false⟩
        (spread (Step.apply ⟨places s (.char .all), true⟩) (surroundings none s).length
          (single s.length 0) (single s.length 0)) ≠ 0) := by
    rw [← apply_textStart]
    rfl
  have hsize : (surroundings none s).length = s.length + 1 := by
    simpa using congrArg List.length (map_fst_surroundings none s)
  rw [himage, decide_eq_true_eq, apply_textEnd, hsize, testBit_spread_single _ _ hreached,
    testBit_single, Bool.or_eq_true, Bool.and_eq_true]
  simp only [decide_eq_true_eq]
  omega

end

end Licensing.Pattern.Regex

namespace Licensing

open Pattern

/-- An engine that finds in a text bound to both ends as many characters as there are. -/
class LawfulEngine [Engine] : Prop where
  matchesIn_anyText (s : List Char) : Engine.matchesIn .anyText s
  matchesIn_anyCharacters {min max : Nat} (hle : min ≤ max) {s : List Char} :
    Engine.matchesIn (.anyCharacters min max) s ↔ min ≤ s.length ∧ s.length ≤ max

instance : LawfulEngine where
  matchesIn_anyText := Regex.matchesIn_anyText
  matchesIn_anyCharacters hle := Regex.matchesIn_anyCharacters hle

end Licensing
