import Licensing.Matching.Program

namespace Licensing.Matching

open Licensing.Text Licensing.Template

def Step.links (step : Step) : List Nat :=
  match step.action with
  | .optional inner => inner.toList ++ step.next.toList
  | _ => step.next.toList

theorem Step.mem_links_of_next {step : Step} {link : Nat} (h : step.next = some link) :
    link ∈ step.links := by
  unfold links
  split <;> simp [h]

theorem Step.mem_links_of_inner {step : Step} {link : Nat}
    (h : step.action = .optional (some link)) : link ∈ step.links := by
  simp [links, h]

/-- Every link of the program leads to a later step. -/
def Program.Forward (p : Program) : Prop :=
  ∀ (id : Nat) (step : Step), p.steps[id]? = some step → ∀ link ∈ step.links, id < link

section

variable {f : Folding} {depth id count : Nat} {after : Option Nat} {body : Body}

theorem layout_length : (layout f depth id after body).length = stepCount f body := by
  induction body generalizing depth id after with
  | done => rfl
  | text content rest ih =>
    simp only [layout, stepCount]
    split
    · rw [ih, Nat.zero_add]
    · rw [List.length_cons, ih, Nat.add_comm]
  | optional rule inner rest ihInner ihRest =>
    simp only [layout, stepCount, List.length_cons, List.length_append, ihInner, ihRest]
    omega
  | «variable» rule rest ih =>
    rw [layout, stepCount, List.length_cons, ih, Nat.add_comm]

@[simp] theorem firstStep_zero : firstStep id 0 after = after := rfl

theorem firstStep_pos (h : count ≠ 0) : firstStep id count after = some id :=
  if_neg h

theorem le_of_mem_firstStep {link : Nat} (hafter : ∀ n ∈ after, id + count ≤ n)
    (h : link ∈ firstStep id count after) : id ≤ link := by
  unfold firstStep at h
  split at h
  · have hle := hafter link h
    omega
  · cases h
    exact Nat.le_refl id

/-- If what comes after the steps of a body lies behind them, their links lead forward. -/
theorem layout_links_forward (hafter : ∀ n ∈ after, id + stepCount f body ≤ n) :
    ∀ (k : Nat) (step : Step), (layout f depth id after body)[k]? = some step → ∀ link ∈ step.links,
      id + k < link := by
  induction body generalizing depth id after with
  | done => intro k step h; cases h
  | text content rest ih =>
    simp only [stepCount] at hafter
    simp only [layout]
    split
    · rename_i hempty
      simp only [hempty, ↓reduceIte, Nat.zero_add] at hafter
      exact ih hafter
    · rename_i hempty
      simp only [hempty, Bool.false_eq_true, ↓reduceIte, ← Nat.add_assoc] at hafter
      intro k step h link hlink
      cases k with
      | zero =>
        cases h
        simp only [Step.links, Option.mem_toList] at hlink
        exact le_of_mem_firstStep hafter hlink
      | succ k =>
        have hlt := ih hafter k step h link hlink
        omega
  | optional rule inner rest ihInner ihRest =>
    simp only [stepCount] at hafter
    have hrest : ∀ n ∈ after, id + 1 + stepCount f inner + stepCount f rest ≤ n := by
      intro n hn
      have hle := hafter n hn
      omega
    have hnext : ∀ n ∈ firstStep (id + 1 + stepCount f inner) (stepCount f rest) after,
        id + 1 + stepCount f inner ≤ n := by
      intro n hn
      exact le_of_mem_firstStep hrest hn
    intro k step h link hlink
    simp only [layout] at h
    cases k with
    | zero =>
      cases h
      simp only [Step.links, List.mem_append, Option.mem_toList] at hlink
      rcases hlink with hlink | hlink
      · exact le_of_mem_firstStep (by simp) hlink
      · have hle := hnext link hlink
        omega
    | succ k =>
      rw [List.getElem?_cons_succ, List.getElem?_append, layout_length] at h
      split at h
      · have hlt := ihInner hnext k step h link hlink
        omega
      · have hlt := ihRest hrest _ step h link hlink
        omega
  | «variable» rule rest ih =>
    simp only [stepCount, ← Nat.add_assoc] at hafter
    intro k step h link hlink
    cases k with
    | zero =>
      cases h
      simp only [Step.links, Option.mem_toList] at hlink
      exact le_of_mem_firstStep hafter hlink
    | succ k =>
      have hlt := ih hafter k step h link hlink
      omega

end

namespace Program

theorem ofBody_forward (f : Folding) (body : Body) : (ofBody f body).Forward := by
  intro id step h link hlink
  have hafter : ∀ n ∈ (none : Option Nat), 0 + stepCount f body ≤ n := by simp
  have hlt := layout_links_forward hafter id step h link hlink
  omega

theorem entry_ofBody (f : Folding) (body : Body) :
    (ofBody f body).entry = firstStep 0 (stepCount f body) none := by
  rw [entry, ofBody, layout_length]

section

variable {p : Program} {id : Nat} {step : Step} {steps later : List Step}

theorem getElem?_of_prefix (h : step :: steps <+: p.steps.drop id) :
    p.steps[id]? = some step := by
  obtain ⟨rest, h⟩ := h
  rw [← Nat.add_zero id, ← List.getElem?_drop, ← h]
  rfl

theorem prefix_tail (h : step :: steps <+: p.steps.drop id) : steps <+: p.steps.drop (id + 1) := by
  obtain ⟨rest, h⟩ := h
  exact ⟨rest, by rw [← List.drop_drop, ← h]; rfl⟩

theorem prefix_right (h : steps ++ later <+: p.steps.drop id) :
    later <+: p.steps.drop (id + steps.length) := by
  obtain ⟨rest, h⟩ := h
  exact ⟨rest, by rw [← List.drop_drop, ← h, List.append_assoc, List.drop_left]⟩

end

end Program

end Licensing.Matching
