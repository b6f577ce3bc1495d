import Licensing.Proofs.Assembling
import Licensing.Proofs.StepPlaces
import Licensing.Proofs.Walking

namespace Licensing.Matching

open Licensing.Text Licensing.Template

/-- What is put together is the program of a body. -/
structure Assembly.WellFormed (f : Folding) (body : Body) (a : Assembly) : Prop where
  entry_eq : a.entry = if a.steps = [] then none else some 0
  links_lt : ∀ (id : Nat) (step : Step), a.steps[id]? = some step → ∀ link ∈ step.links,
    id < link ∧ link < a.steps.length
  tokens_ne_nil : ∀ (id : Nat) (step : Step) (tokens : List String), a.steps[id]? = some step →
    step.action = .text tokens → tokens ≠ []
  tokenCount_eq : a.tokenCount = (a.steps.map Step.tokenCount).sum
  getElem?_iff : ∀ (id : Nat) (step : Step), a.steps[id]? = some step ↔
    ∃ rest outer, At f body id rest outer ∧ stepAt? f id outer rest = some step

/-- Walks through a program come to an end and only ask for steps that are there. -/
structure Program.Walkable [Engine] (p : Program) : Prop where
  solve : ∀ (d : Document) (mode : Mode) (fuel : Nat) (link : Option Nat) (place : Nat)
    (memo : Memo), p.steps.length ≤ fuel → (∀ id ∈ link, id < p.steps.length) →
    ((Walk.solve p d mode fuel link place).run memo).isSome
  regionsFrom : ∀ (d : Document) (mode : Mode) (fuel : Nat) (link : Option Nat) (place : Nat)
    (found : List Region) (memo : Memo), p.steps.length ≤ fuel →
    (∀ id ∈ link, id < p.steps.length) →
    ((Walk.regionsFrom p d mode fuel link place found).run memo).isSome
  compare : ∀ d : Document, ∃ memo, (Walk.compare p d).run [] = some (exactOutcome p d, memo)
  occurs : ∀ d : Document, ∃ memo, (Walk.occurs p d).run [] = some (occursIn p d, memo)

section

variable {f : Folding} {p : Program} {body : Body}

theorem tokenCount_eq_sum {steps : List Step} :
    Program.tokenCount ⟨steps, f⟩ = (steps.map Step.tokenCount).sum := by
  induction steps with
  | nil => rfl
  | cons step steps ih => rw [tokenCount_cons, ih, List.map_cons, List.sum_cons]

/-- A body that is put together gives its layout. -/
theorem Assembly.steps_extend : (Assembly.extend f {} body).steps = layout f 0 0 none body := by
  simp [Assembly.extend]

theorem Assembly.entry_extend :
    (Assembly.extend f {} body).entry = firstStep 0 (stepCount f body) none := rfl

theorem Assembly.tokenCount_extend :
    (Assembly.extend f {} body).tokenCount = (Program.ofBody f body).tokenCount := by
  rw [Program.ofBody, tokenCount_layout, Assembly.extend]
  exact Nat.zero_add _

theorem Assembly.wellFormed_extend : (Assembly.extend f {} body).WellFormed f body where
  entry_eq := by
    rw [steps_extend, entry_extend, ← layout_length, firstStep]
    exact if_congr List.length_eq_zero_iff rfl rfl
  links_lt id step hstep := by
    rw [steps_extend] at hstep ⊢
    obtain ⟨rest, outer, hat, hplace⟩ := getElem?_layout_iff.1 hstep
    exact hat.links_lt hplace
  tokens_ne_nil id step tokens hstep haction := by
    rw [steps_extend] at hstep
    obtain ⟨rest, outer, -, hplace⟩ := getElem?_layout_iff.1 hstep
    exact Matching.tokens_ne_nil hplace haction
  tokenCount_eq := by
    rw [tokenCount_extend, steps_extend]
    exact tokenCount_eq_sum
  getElem?_iff id step := by
    rw [steps_extend]
    exact getElem?_layout_iff

theorem Program.ofBody_closed (f : Folding) (body : Body) : (ofBody f body).Closed := by
  intro id step hstep link hlink
  obtain ⟨rest, outer, hat, hplace⟩ := getElem?_layout_iff.1 hstep
  exact (hat.links_lt hplace link hlink).2

theorem Program.Walkable.of_forward [Engine] (hforward : p.Forward) (hclosed : p.Closed) :
    p.Walkable where
  solve d mode fuel link place memo hfuel hlink := by
    have hallows := allows_of_le hfuel hlink
    exact (Walk.gives_solve hforward hclosed hallows place).isSome memo
  regionsFrom d mode fuel link place found memo hfuel hlink := by
    have hallows := allows_of_le hfuel hlink
    exact (Walk.gives_regionsFrom hforward hclosed hallows place found).isSome memo
  compare d := by
    obtain ⟨outcome, memo, hrun, rfl⟩ := (Walk.gives_compare (d := d) hforward hclosed).run
    exact ⟨memo, hrun⟩
  occurs d := by
    obtain ⟨found, memo, hrun, rfl⟩ := (Walk.gives_occurs (d := d) hforward hclosed).run
    exact ⟨memo, hrun⟩

end

/-- A template that compiles gives a well-formed program, and all walks through it end. -/
theorem Program.wellFormed_of_compile [Engine] {f : Folding} {template : List Char} {p : Program}
    (h : Program.compile f template = .ok p) :
    ∃ body a, Body.parse (stripComments template) = .ok body ∧
      Assembly.assemble f template = .ok a ∧ p = ⟨a.steps, f⟩ ∧ a.entry = p.entry ∧
      a.tokenCount = p.tokenCount ∧ a.WellFormed f body ∧ p.Walkable := by
  rw [compile_eq_assemble, Assembly.assemble_eq_extend] at h
  rw [Assembly.assemble_eq_extend]
  cases hparse : Body.parse (stripComments template) with
  | error e =>
    rw [hparse] at h
    cases h
  | ok body =>
    rw [hparse] at h
    have hsteps : Program.mk (Assembly.extend f {} body).steps f = ofBody f body :=
      congrArg (Program.mk · f) Assembly.steps_extend
    obtain rfl : p = ofBody f body := (Except.ok.inj h).symm.trans hsteps
    refine ⟨body, .extend f {} body, rfl, rfl, hsteps.symm, ?_, Assembly.tokenCount_extend,
      Assembly.wellFormed_extend, .of_forward (ofBody_forward f body) (ofBody_closed f body)⟩
    rw [entry_ofBody]
    exact Assembly.entry_extend

theorem Program.wellFormed_of_compile_nested_end :
    let template := ("a <<beginOptional>> b <<beginOptional>> <<endOptional>> <<endOptional>> " ++
      "<<var;name=v;match=.*>> c").toList
    ∃ p body a, Program.compile {} template = .ok p ∧
      Body.parse (stripComments template) = .ok body ∧
      Assembly.assemble {} template = .ok a ∧
      a.steps.map (fun step => (step.links, step.depth)) =
        [([1], 0), ([2, 4], 0), ([3], 1), ([4], 1), ([5], 0), ([], 0)] ∧
      a.entry = some 0 ∧ a.tokenCount = 3 ∧ a.WellFormed {} body ∧ p.Walkable := by
  intro template
  have hresult : (Program.compile {} template).toOption.any fun p =>
      p.steps.map (fun step => (step.links, step.depth)) =
        [([1], 0), ([2, 4], 0), ([3], 1), ([4], 1), ([5], 0), ([], 0)] && p.tokenCount = 3 := by
    decide +kernel
  cases hcompile : Program.compile {} template with
  | error e =>
    rw [hcompile] at hresult
    cases hresult
  | ok p =>
    rw [hcompile] at hresult
    obtain ⟨hsteps, hcount⟩ := Bool.and_eq_true_iff.1 (show (_ && _) = true from hresult)
    have hsteps := of_decide_eq_true hsteps
    obtain ⟨body, a, hparse, hassemble, rfl, -, htokens, hwell, hwalks⟩ :=
      Program.wellFormed_of_compile hcompile
    have hne : a.steps ≠ [] := fun hnil => by
      rw [hnil] at hsteps
      cases hsteps
    refine ⟨_, body, a, rfl, hparse, hassemble, hsteps, ?_, ?_, hwell, hwalks⟩
    · rw [hwell.entry_eq, if_neg hne]
    · rw [htokens]
      exact of_decide_eq_true hcount

end Licensing.Matching
