import Licensing.Proofs.Surroundings

namespace Licensing.Text.Document

/-- The second document has the tokens of the first, in the same order and none besides. -/
structure Alike (d d' : Document) : Prop where
  size : d'.size = d.size
  holds : d'.Holds 0 d

namespace Alike

variable {d d' d'' : Document} {i : Nat}

theorem refl (d : Document) : d.Alike d where
  size := rfl
  holds := by constructor <;> simp

theorem trans (h : d.Alike d') (h' : d'.Alike d'') : d.Alike d'' where
  size := h'.size.trans h.size
  holds := h.holds.trans h'.holds

theorem symm (h : d.Alike d') : d'.Alike d where
  size := h.size.symm
  holds := by
    have hsize := h.size
    have hholds := h.holds
    constructor
    · omega
    · intro i hi
      have htext := hholds.text? i (by omega)
      rw [Nat.zero_add] at htext ⊢
      exact htext.symm
    · intro i j hlt hj
      have hspan := hholds.span i j hlt (by omega)
      rw [Nat.zero_add, Nat.zero_add] at hspan ⊢
      exact hspan.symm
    · intro i j hlt hj
      have hlength := hholds.length i j hlt (by omega)
      rw [Nat.zero_add, Nat.zero_add] at hlength ⊢
      exact hlength.symm
    · intro i j hlt hj
      have hsource := hholds.source i j hlt (by omega)
      rw [Nat.zero_add, Nat.zero_add] at hsource ⊢
      exact hsource.symm

theorem text? (h : d.Alike d') (i : Nat) : d'.text? i = d.text? i := by
  by_cases hi : i < d.size
  · have htext := h.holds.text? i hi
    rwa [Nat.zero_add] at htext
  · have hnone {d : Document} (hi : ¬ i < d.size) : d.text? i = none := by
      rwa [← Matching.text?_isSome_iff, Option.not_isSome_iff_eq_none] at hi
    rw [hnone hi, hnone (by rwa [h.size])]

theorem occurrences (h : d.Alike d') (token : String) :
    d'.occurrences token = d.occurrences token := by
  simp only [Document.occurrences, h.size, h.text?]

end Alike

end Licensing.Text.Document

namespace Licensing.Matching

open Licensing.Text Licensing.Template

section

variable {d d' : Document} {p : Program} {mode : Mode} {id : Nat}

theorem acceptsSpan_of_alike [Engine] (h : d.Alike d') (rule : VariableRule)
    (literal : Option String) (i j : Nat) :
    acceptsSpan d' rule literal i j = acceptsSpan d rule literal i j := by
  by_cases hrange : i ≤ j ∧ j ≤ d.size
  · have haccepts := acceptsSpan_of_holds h.holds rule literal hrange.1 hrange.2
    rwa [Nat.zero_add, Nat.zero_add] at haccepts
  -- No span goes beyond the end of a text.
  · have hsize := h.size
    have hspan : d.normalizedSpan i j = [] := Document.normalizedSpan_of_out (by omega)
    have hspan' : d'.normalizedSpan i j = [] := Document.normalizedSpan_of_out (by omega)
    have hempty : j ≤ i ∨ d.size < j := by omega
    simp [acceptsSpan, Document.normalizedLength, Document.sourceSpan, hsize, h.text?, hspan,
      hspan', hempty]

theorem matchTokens_of_alike (h : d.Alike d') (id offset place : Nat) (tokens : List String) :
    matchTokens d' id offset place tokens = matchTokens d id offset place tokens := by
  induction tokens generalizing offset place with
  | nil => rfl
  | cons token rest ih => rw [matchTokens, matchTokens, h.text?, ih]

theorem endOutcome_of_alike (h : d.Alike d') (place : Nat) :
    endOutcome d' mode place = endOutcome d mode place := by
  unfold endOutcome
  rw [h.size]

theorem following_of_alike (h : d.Alike d') (next : Option Nat) :
    following p d' next = following p d next := by
  simp only [following, h.occurrences]

theorem absentFollower_of_alike (h : d.Alike d') (next : Option Nat) (id place : Nat) :
    absentFollower p d' next id place = absentFollower p d next id place := by
  simp only [absentFollower, funext (matchTokens_of_alike h _ 0 place)]

theorem candidateEnds_of_alike (h : d.Alike d') (place : Nat) (follower : Following) :
    candidateEnds d' mode place follower = candidateEnds d mode place follower := by
  cases follower <;> simp only [candidateEnds, h.size]

theorem stepOutcome_of_alike [Engine] (h : d.Alike d') (goOn : Option Nat → Nat → Outcome)
    (id : Nat) (step : Step) (follower : Following) (place : Nat) :
    stepOutcome p d' mode goOn id step follower place =
      stepOutcome p d mode goOn id step follower place := by
  have haccepts (rule : VariableRule) (literal : Option String) :
      acceptsSpan d' rule literal place = acceptsSpan d rule literal place :=
    funext (acceptsSpan_of_alike h rule literal place)
  unfold stepOutcome
  simp only [matchTokens_of_alike h, candidateEnds_of_alike h, absentFollower_of_alike h, haccepts]

theorem lookUp_of_alike (h : d.Alike d') (table : List Row) :
    lookUp d' mode table id = lookUp d mode table id := by
  funext next place
  cases next with
  | none => exact endOutcome_of_alike h place
  | some next => rfl

theorem row_congr {n n' : Nat} (h : n' = n) (outcome : Nat → Outcome) :
    (Array.ofFn fun place : Fin n' => Thunk.mk fun _ => outcome place) =
      Array.ofFn fun place : Fin n => Thunk.mk fun _ => outcome place := by
  subst h
  rfl

theorem rowsFrom_of_alike [Engine] (h : d.Alike d') (steps : List Step) :
    rowsFrom p d' mode id steps = rowsFrom p d mode id steps := by
  induction steps generalizing id with
  | nil => rfl
  | cons step rest ih =>
    have hfollower : step.follower p d' = step.follower p d := by
      unfold Step.follower
      rw [following_of_alike h]
    rw [rowsFrom_cons, rowsFrom_cons, ih, lookUp_of_alike h, hfollower]
    simp only [stepOutcome_of_alike h]
    rw [row_congr (congrArg (· + 1) h.size)]

theorem entryOutcome_of_alike [Engine] (h : d.Alike d') (place : Nat) :
    entryOutcome p d' mode (rows p d' mode) place =
      entryOutcome p d mode (rows p d mode) place := by
  unfold entryOutcome rows
  rw [rowsFrom_of_alike h, endOutcome_of_alike h]

theorem exactOutcome_of_alike [Engine] (h : d.Alike d') : exactOutcome p d' = exactOutcome p d :=
  entryOutcome_of_alike h 0

theorem occursIn_of_alike [Engine] (h : d.Alike d') : occursIn p d' = occursIn p d := by
  have hstarts : candidateStarts p d' = candidateStarts p d := by
    unfold candidateStarts
    simp only [h.occurrences, h.size]
  simp only [occursIn, h.size, hstarts, entryOutcome_of_alike h]

/-- Reports may quote different places, but they agree on the difference and the regions. -/
theorem compareWith_of_alike [Engine] (h : d.Alike d') (count : UInt64) :
    (compareWith p d' count).found = (compareWith p d count).found ∧
      (compareWith p d' count).regions = (compareWith p d count).regions := by
  have hregions (d : Document) (e : Option Divergence) : (describe p d count e).regions = none := by
    cases e with
    | none => rfl
    | some e => cases e <;> rfl
  rw [compareWith, compareWith, exactOutcome_of_alike h]
  cases exactOutcome p d with
  | matched regions => exact ⟨rfl, rfl⟩
  | failed e => simp only [describe_found, hregions, and_self]

end

end Licensing.Matching
