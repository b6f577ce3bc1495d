import Licensing.Proofs.Derivation
import Licensing.Proofs.Table

namespace Licensing.Matching

open Licensing.Text Licensing.Template

section

variable {p : Program} {d : Document} {mode : Mode} {id place stop : Nat} {step : Step}

theorem matchTokens_ok {offset : Nat} {tokens : List String} :
    matchTokens d id offset place tokens = .ok stop ↔ Spells d place stop tokens := by
  induction tokens generalizing offset place with
  | nil =>
    rw [spells_nil, matchTokens, Except.ok.injEq]
    exact eq_comm
  | cons token tokens ih =>
    rw [spells_cons, matchTokens]
    cases htext : d.text? place with
    | none => simp
    | some found =>
      by_cases hfound : found = token
      · simp [hfound, ih]
      · simp [hfound]

theorem tryEnds_isMatch {size : Nat} {accepts : Nat → Bool} {goOn : Nat → Outcome}
    {rejected : Divergence} {best : Option (Option Divergence)} {ends : List Nat} :
    (tryEnds size accepts goOn rejected best ends).isMatch ↔
      ∃ stop ∈ ends, accepts stop ∧ (goOn stop).isMatch := by
  induction ends generalizing best with
  | nil => cases best <;> simp [tryEnds]
  | cons first rest ih =>
    simp only [List.mem_cons, exists_eq_or_imp]
    rw [tryEnds]
    cases haccepts : accepts first with
    | false => simpa using ih
    | true =>
      cases hgo : goOn first with
      | matched regions => simp
      | failed divergence => simpa using ih

theorem endOutcome_isMatch :
    (endOutcome d mode place).isMatch ↔ mode = .contains ∨ place = d.size := by
  cases mode with
  | contains => simp [endOutcome]
  | exact =>
    by_cases hplace : place = d.size
    · simp [endOutcome, hplace]
    · simp [endOutcome, hplace]

theorem mem_range'_to_size (hplace : place ≤ d.size) :
    stop ∈ List.range' place (d.size + 1 - place) ↔ place ≤ stop ∧ stop ≤ d.size := by
  rw [List.mem_range'_1]
  omega

theorem candidateEnds_bounds {next : Option Nat} (hplace : place ≤ d.size)
    (h : stop ∈ candidateEnds d mode place (following p d next)) :
    place ≤ stop ∧ stop ≤ d.size := by
  unfold following at h
  split at h
  · rw [candidateEnds, List.mem_filter, List.mem_reverse, mem_occurrences] at h
    obtain ⟨htext, hle⟩ := h
    exact ⟨of_decide_eq_true hle, Nat.le_of_lt (lt_size_of_text? htext)⟩
  · split at h
    · rwa [candidateEnds, List.mem_reverse, mem_range'_to_size hplace] at h
    · cases mode with
      | exact =>
        rw [candidateEnds, List.mem_singleton] at h
        omega
      | contains => rwa [candidateEnds, mem_range'_to_size hplace] at h

end

section

variable {p : Program} {d : Document} {mode : Mode} {id place stop : Nat} {next : Option Nat}
  {depth : Nat}

theorem isMatch_text_step [Engine] {tokens : List String} (hp : p.Forward)
    (hstep : p.steps[id]? = some ⟨.text tokens, next, depth⟩) (hplace : place ≤ d.size) :
    (outcomeFrom p d mode (some id) place).isMatch ↔
      ∃ stop, Spells d place stop tokens ∧ (outcomeFrom p d mode next stop).isMatch := by
  rw [outcomeFrom_step hp hstep hplace]
  have hspells (stop : Nat) :
      Spells d place stop tokens ↔ matchTokens d id 0 place tokens = .ok stop :=
    matchTokens_ok.symm
  simp only [stepOutcome, hspells]
  cases matchTokens d id 0 place tokens with
  | error divergence => simp
  | ok stop =>
    simp only [Except.ok.injEq, exists_eq_left']
    cases outcomeFrom p d mode next stop <;> simp

theorem textAt?_eq_some {tokens : List String} (h : p.textAt? id = some tokens) :
    ∃ next depth, p.steps[id]? = some ⟨.text tokens, next, depth⟩ := by
  obtain ⟨⟨action, next, depth⟩, hstep, haction⟩ := Option.bind_eq_some_iff.1 h
  cases action with
  | text texts =>
    cases haction
    exact ⟨next, depth, hstep⟩
  | optional inner => cases haction
  | «variable» rule literal => cases haction

/-- The token that a step starts with stands where a match from that step on starts. -/
theorem text?_of_leadingToken? [Engine] {token : String} (hp : p.Forward) (hplace : place ≤ d.size)
    (hlead : p.leadingToken? next = some token)
    (hmatch : (outcomeFrom p d mode next place).isMatch) : d.text? place = some token := by
  cases next with
  | none => cases hlead
  | some id =>
    rw [Program.leadingToken?, Option.bind_some] at hlead
    obtain ⟨tokens, htokens, hhead⟩ := Option.bind_eq_some_iff.1 hlead
    obtain ⟨next, depth, hstep⟩ := textAt?_eq_some htokens
    obtain ⟨stop, htext, -⟩ := (isMatch_text_step hp hstep hplace).1 hmatch
    obtain ⟨rest, rfl⟩ := List.head?_eq_some_iff.1 hhead
    exact (spells_cons.1 htext).1

theorem mem_candidateEnds [Engine] (hp : p.Forward) (hle : place ≤ stop)
    (hsize : stop ≤ d.size) (hmatch : (outcomeFrom p d mode next stop).isMatch) :
    stop ∈ candidateEnds d mode place (following p d next) := by
  have hrange := (mem_range'_to_size (Nat.le_trans hle hsize)).2 ⟨hle, hsize⟩
  unfold following
  split
  · rename_i token hlead
    rw [candidateEnds, List.mem_filter, List.mem_reverse, mem_occurrences]
    exact ⟨text?_of_leadingToken? hp hsize hlead hmatch, decide_eq_true hle⟩
  · cases next with
    | some next => exact List.mem_reverse.2 hrange
    | none =>
      cases mode with
      | contains => exact hrange
      | exact =>
        have hend : Mode.exact = .contains ∨ stop = d.size := endOutcome_isMatch.1 hmatch
        simp only [reduceCtorEq, false_or] at hend
        exact List.mem_singleton.2 hend

theorem isMatch_optional_step [Engine] {inner : Option Nat} (hp : p.Forward)
    (hstep : p.steps[id]? = some ⟨.optional inner, next, depth⟩) (hplace : place ≤ d.size) :
    (outcomeFrom p d mode (some id) place).isMatch ↔
      (inner.isSome ∧ (outcomeFrom p d mode inner place).isMatch) ∨
        (outcomeFrom p d mode next place).isMatch := by
  rw [outcomeFrom_step hp hstep hplace]
  simp only [stepOutcome]
  cases inner with
  | none => cases outcomeFrom p d mode next place <;> simp
  | some inner =>
    simp only [Option.isSome_some, true_and]
    cases outcomeFrom p d mode (some inner) place with
    | matched regions => simp
    | failed divergence => cases outcomeFrom p d mode next place <;> simp

theorem isMatch_variable_step [Engine] {rule : VariableRule} {literal : Option String}
    (hp : p.Forward) (hstep : p.steps[id]? = some ⟨.variable rule literal, next, depth⟩)
    (hplace : place ≤ d.size) :
    (outcomeFrom p d mode (some id) place).isMatch ↔
      ∃ stop, (place ≤ stop ∧ stop ≤ d.size ∧ acceptsSpan d rule literal place stop) ∧
        (outcomeFrom p d mode next stop).isMatch := by
  have htry : (outcomeFrom p d mode (some id) place).isMatch ↔
      ∃ stop ∈ candidateEnds d mode place (following p d next),
        acceptsSpan d rule literal place stop ∧ (outcomeFrom p d mode next stop).isMatch := by
    rw [outcomeFrom_step hp hstep hplace, stepOutcome, Step.follower]
    cases candidateEnds d mode place (following p d next) with
    | nil => simp
    | cons first rest => exact tryEnds_isMatch
  rw [htry]
  constructor
  · rintro ⟨stop, hmem, haccepts, hmatch⟩
    obtain ⟨hle, hsize⟩ := candidateEnds_bounds hplace hmem
    exact ⟨stop, ⟨hle, hsize, haccepts⟩, hmatch⟩
  · rintro ⟨stop, ⟨hle, hsize, haccepts⟩, hmatch⟩
    exact ⟨stop, mem_candidateEnds hp hle hsize hmatch, haccepts, hmatch⟩

theorem exists_and_comp {first goesOn last : Nat → Prop} {second : Nat → Nat → Prop}
    (h : ∀ i, first i → (goesOn i ↔ ∃ j, second i j ∧ last j)) :
    (∃ i, first i ∧ goesOn i) ↔ ∃ j, (∃ i, first i ∧ second i j) ∧ last j := by
  constructor
  · rintro ⟨i, hfirst, hgoes⟩
    obtain ⟨j, hsecond, hlast⟩ := (h i hfirst).1 hgoes
    exact ⟨j, ⟨i, hfirst, hsecond⟩, hlast⟩
  · rintro ⟨j, ⟨i, hfirst, hsecond⟩, hlast⟩
    exact ⟨i, hfirst, (h i hfirst).2 ⟨j, hsecond, hlast⟩⟩

/-- The steps of a body match exactly the ranges that it derives, whatever comes after them. -/
theorem isMatch_layout [Engine] {f : Folding} {after : Option Nat} {body : Body} (hp : p.Forward)
    (hlayout : layout f depth id after body <+: p.steps.drop id) (hplace : place ≤ d.size) :
    (outcomeFrom p d mode (firstStep id (stepCount f body) after) place).isMatch ↔
      ∃ stop, Derives f d body place stop ∧ (outcomeFrom p d mode after stop).isMatch := by
  induction body generalizing depth id after place with
  | done => simp [stepCount, derives_done]
  | text content rest ih =>
    simp only [derives_text]
    -- Text without tokens takes no step.
    by_cases hempty : (textTokens f content).isEmpty
    · simp only [layout, hempty, ↓reduceIte] at hlayout
      simp only [stepCount, hempty, ↓reduceIte, Nat.zero_add, ih hlayout hplace]
      simp only [List.isEmpty_iff.1 hempty, spells_nil, exists_eq_left]
    · simp only [layout, hempty, Bool.false_eq_true, ↓reduceIte] at hlayout
      have hstep := Program.getElem?_of_prefix hlayout
      have hrest := Program.prefix_tail hlayout
      simp only [stepCount, hempty, Bool.false_eq_true, ↓reduceIte]
      rw [firstStep_pos (by omega), isMatch_text_step hp hstep hplace]
      apply exists_and_comp
      intro stop htext
      exact ih hrest (htext.le_size hplace).2
  | optional rule inner rest ihInner ihRest =>
    rw [layout] at hlayout
    have hstep := Program.getElem?_of_prefix hlayout
    have htail := Program.prefix_tail hlayout
    have hinner := (List.prefix_append _ _).trans htail
    have hrest := Program.prefix_right htail
    rw [layout_length] at hrest
    simp only [stepCount]
    rw [firstStep_pos (by omega), isMatch_optional_step hp hstep hplace, ihRest hrest hplace]
    simp only [derives_optional, or_and_right, exists_or]
    -- A region without steps is the same taken or skipped, and has no step to go on with.
    by_cases hcount : stepCount f inner = 0
    · simp [hcount, derives_of_stepCount_zero hcount]
    · refine or_congr ?_ Iff.rfl
      have hfirst := ihInner hinner hplace
      rw [firstStep_pos hcount] at hfirst ⊢
      rw [hfirst]
      simp only [Option.isSome_some, true_and]
      apply exists_and_comp
      intro stop hderives
      exact ihRest hrest (hderives.le_size hplace).2
  | «variable» rule rest ih =>
    have hstep := Program.getElem?_of_prefix hlayout
    have hrest := Program.prefix_tail hlayout
    simp only [stepCount, derives_variable]
    rw [firstStep_pos (by omega), isMatch_variable_step hp hstep hplace]
    apply exists_and_comp
    intro stop haccepts
    exact ih hrest haccepts.2.1

end

end Licensing.Matching
