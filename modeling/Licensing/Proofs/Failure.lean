import Licensing.Matching.Report
import Licensing.Proofs.Simulation

namespace Licensing.Matching

open Licensing.Text Licensing.Template

/-- The divergence of a text step whose token `offset` does not stand at a place. -/
def unmet (d : Document) (place id offset : Nat) : Divergence :=
  if place < d.size then .mismatch place id offset else .missing place id offset

theorem reach_unmet (d : Document) (place id offset : Nat) :
    (unmet d place id offset).reach = place := by
  unfold unmet
  split <;> rfl

theorem Divergence.better_eq (less : Divergence → Divergence → Bool) (e e' : Option Divergence) :
    Divergence.better less e e' = e' ∨ e ≠ none ∧ Divergence.better less e e' = e := by
  cases e with
  | none => exact .inl rfl
  | some δ =>
    cases e' with
    | none => exact .inr ⟨Option.some_ne_none δ, rfl⟩
    | some δ' =>
      rw [better]
      split
      · exact .inl rfl
      · exact .inr ⟨Option.some_ne_none δ, rfl⟩

section

variable {p : Program} {d : Document} {mode : Mode} {id place : Nat} {next : Option Nat}
  {depth : Nat} {e : Option Divergence}

theorem matchTokens_cons_of_ne {offset : Nat} {token : String} {rest : List String}
    (h : d.text? place ≠ some token) :
    matchTokens d id offset place (token :: rest) = .error (unmet d place id offset) := by
  rw [matchTokens, unmet]
  cases htext : d.text? place with
  | none =>
    have hsize : ¬ place < d.size := by simp [← text?_isSome_iff, htext]
    rw [if_neg hsize]
  | some found =>
    have hfound : found ≠ token := fun heq => h (heq ▸ htext)
    simp only [if_neg hfound, if_pos (lt_size_of_text? htext)]

theorem matchTokens_error {offset : Nat} {tokens : List String} {δ : Divergence}
    (h : matchTokens d id offset place tokens = .error δ) :
    ∃ before token after stop, tokens = before ++ token :: after ∧ Spells d place stop before ∧
      d.text? stop ≠ some token ∧ δ = unmet d stop id (offset + before.length) := by
  induction tokens generalizing offset place with
  | nil => cases h
  | cons first rest ih =>
    by_cases hfirst : d.text? place = some first
    · simp only [matchTokens, hfirst, ↓reduceIte] at h
      obtain ⟨before, token, after, stop, rfl, hspells, hne, rfl⟩ := ih h
      refine ⟨first :: before, token, after, stop, rfl, spells_cons.2 ⟨hfirst, hspells⟩, hne, ?_⟩
      rw [List.length_cons, Nat.add_assoc, Nat.add_comm 1]
    · rw [matchTokens_cons_of_ne hfirst] at h
      exact ⟨[], first, rest, place, rfl, spells_nil.2 rfl, hfirst, (Except.error.inj h).symm⟩

theorem tryEnds_eq_failed {size : Nat} {accepts : Nat → Bool} {goOn : Nat → Outcome}
    {rejected : Divergence} {best : Option (Option Divergence)} {ends : List Nat}
    (h : tryEnds size accepts goOn rejected best ends = .failed e) :
    (best = none ∧ (∀ stop ∈ ends, accepts stop = false) ∧ e = some rejected) ∨ best = some e ∨
      ∃ stop ∈ ends, accepts stop ∧ goOn stop = .failed e := by
  induction ends generalizing best with
  | nil =>
    cases best with
    | none =>
      cases h
      exact .inl ⟨rfl, by simp, rfl⟩
    | some best =>
      cases h
      exact .inr (.inl rfl)
  | cons first rest ih =>
    rw [tryEnds] at h
    split at h
    · rename_i haccepts
      split at h
      · cases h
      · rename_i found hgo
        rcases ih h with ⟨hbest, -⟩ | hbest | ⟨stop, hstop, hfailed⟩
        · cases hbest
        · -- What is kept of the best one so far and that of the first end is one of the two.
          obtain rfl := Option.some.inj hbest
          rcases Divergence.better_eq (Divergence.progressesLess size) best.join found with
            hbetter | ⟨hsome, hbetter⟩
          · rw [hbetter]
            exact .inr (.inr ⟨first, List.mem_cons_self, haccepts, hgo⟩)
          · rw [hbetter]
            cases best with
            | none => exact absurd rfl hsome
            | some best => exact .inr (.inl rfl)
        · exact .inr (.inr ⟨stop, List.mem_cons_of_mem first hstop, hfailed⟩)
    · rename_i hrejects
      rcases ih h with ⟨hbest, hall, he⟩ | hbest | ⟨stop, hstop, hfailed⟩
      · refine .inl ⟨hbest, ?_, he⟩
        exact List.forall_mem_cons.2 ⟨eq_false_of_ne_true hrejects, hall⟩
      · exact .inr (.inl hbest)
      · exact .inr (.inr ⟨stop, List.mem_cons_of_mem first hstop, hfailed⟩)

theorem failed_text_step [Engine] {tokens : List String} (hp : p.Forward)
    (hstep : p.steps[id]? = some ⟨.text tokens, next, depth⟩) (hplace : place ≤ d.size)
    (h : outcomeFrom p d mode (some id) place = .failed e) :
    (∃ before token after stop, tokens = before ++ token :: after ∧ Spells d place stop before ∧
        d.text? stop ≠ some token ∧ e = some (unmet d stop id before.length)) ∨
      ∃ stop, Spells d place stop tokens ∧ outcomeFrom p d mode next stop = .failed e := by
  rw [outcomeFrom_step hp hstep hplace, stepOutcome] at h
  dsimp only at h
  split at h
  · rename_i δ hmatch
    obtain ⟨before, token, after, stop, htokens, hspells, hne, rfl⟩ := matchTokens_error hmatch
    cases h
    exact .inl ⟨before, token, after, stop, htokens, hspells, hne, by rw [Nat.zero_add]⟩
  · rename_i stop hmatch
    split at h
    · cases h
    · exact .inr ⟨stop, matchTokens_ok.1 hmatch, h⟩

theorem failed_hollow_step [Engine] (hp : p.Forward)
    (hstep : p.steps[id]? = some ⟨.optional none, next, depth⟩) (hplace : place ≤ d.size)
    (h : outcomeFrom p d mode (some id) place = .failed e) :
    outcomeFrom p d mode next place = .failed e := by
  rw [outcomeFrom_step hp hstep hplace, stepOutcome] at h
  dsimp only at h
  split at h
  · cases h
  · rename_i hnext
    rw [hnext]
    exact h

theorem failed_optional_step [Engine] {first : Nat} (hp : p.Forward)
    (hstep : p.steps[id]? = some ⟨.optional (some first), next, depth⟩) (hplace : place ≤ d.size)
    (h : outcomeFrom p d mode (some id) place = .failed e) :
    ∃ taken skipped, outcomeFrom p d mode (some first) place = .failed taken ∧
      outcomeFrom p d mode next place = .failed skipped ∧
      e = Divergence.better Divergence.reachesLess taken skipped := by
  rw [outcomeFrom_step hp hstep hplace, stepOutcome] at h
  dsimp only at h
  split at h
  · cases h
  · rename_i taken htaken
    split at h
    · cases h
    · rename_i skipped hskipped
      exact ⟨taken, skipped, htaken, hskipped, (Outcome.failed.inj h).symm⟩

theorem failed_variable_step_ends [Engine] {rule : VariableRule} {literal : Option String}
    (hp : p.Forward) (hstep : p.steps[id]? = some ⟨.variable rule literal, next, depth⟩)
    (hplace : place ≤ d.size) (h : outcomeFrom p d mode (some id) place = .failed e) :
    let ends := candidateEnds d mode place (following p d next)
    (ends = [] ∧ e = some (absentFollower p d next id place)) ∨
      (ends ≠ [] ∧ tryEnds p.steps.length (acceptsSpan d rule literal place)
        (outcomeFrom p d mode next) (.variable place id) none ends = .failed e) := by
  intro ends
  rw [outcomeFrom_step hp hstep hplace, stepOutcome, Step.follower] at h
  dsimp only at h
  split at h
  · rename_i hends
    exact .inl ⟨hends, (Outcome.failed.inj h).symm⟩
  · rename_i hends
    exact .inr ⟨hends, h⟩

theorem failed_variable_step [Engine] {rule : VariableRule} {literal : Option String}
    (hp : p.Forward) (hstep : p.steps[id]? = some ⟨.variable rule literal, next, depth⟩)
    (hplace : place ≤ d.size) (h : outcomeFrom p d mode (some id) place = .failed e) :
    let ends := candidateEnds d mode place (following p d next)
    (ends = [] ∧ e = some (absentFollower p d next id place)) ∨
      (ends ≠ [] ∧ (∀ stop ∈ ends, acceptsSpan d rule literal place stop = false) ∧
        e = some (.variable place id)) ∨
      ∃ stop ∈ ends, acceptsSpan d rule literal place stop ∧
        outcomeFrom p d mode next stop = .failed e := by
  refine (failed_variable_step_ends hp hstep hplace h).imp_right fun ⟨hends, htried⟩ => ?_
  rcases tryEnds_eq_failed htried with ⟨-, hall, he⟩ | hbest | hgo
  · exact .inl ⟨hends, hall, he⟩
  · cases hbest
  · exact .inr hgo

theorem exists_failed_of_found [Engine] {count : UInt64}
    (h : (compareWith p d count).found = true) :
    ∃ e, outcomeFrom p d .exact p.entry 0 = .failed e ∧
      compareWith p d count = describe p d count e := by
  rw [← entryOutcome_eq]
  unfold compareWith exactOutcome at h ⊢
  cases houtcome : entryOutcome p d .exact (rows p d .exact) 0 with
  | matched regions =>
    rw [houtcome] at h
    cases h
  | failed e => exact ⟨e, rfl, rfl⟩

end

end Licensing.Matching
