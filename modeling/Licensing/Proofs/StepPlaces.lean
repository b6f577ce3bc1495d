import Licensing.Proofs.Layout

namespace Licensing.Matching

open Licensing.Text Licensing.Template

/-- The first step of bodies that stand one behind the other, numbered from `id` on. -/
def firstOf (f : Folding) (id : Nat) (bodies : List Body) : Option Nat :=
  bodies.foldr (fun body => firstStep id (stepCount f body)) none

/-- A walk that has passed `id` steps, in front of a rest, with the rests around it left open. -/
inductive At (f : Folding) (body : Body) : Nat → Body → List Body → Prop where
  | start : At f body 0 body []
  | blank {id content rest outer} (hempty : (textTokens f content).isEmpty)
      (h : At f body id (.text content rest) outer) : At f body id rest outer
  | text {id content rest outer} (hne : (textTokens f content).isEmpty = false)
      (h : At f body id (.text content rest) outer) : At f body (id + 1) rest outer
  | enter {id rule inner rest outer} (h : At f body id (.optional rule inner rest) outer) :
      At f body (id + 1) inner (rest :: outer)
  | leave {id rest outer} (h : At f body id .done (rest :: outer)) : At f body id rest outer
  | «variable» {id rule rest outer} (h : At f body id (.variable rule rest) outer) :
      At f body (id + 1) rest outer

/-- What follows a step is found behind all regions that end there. -/
def stepAt? (f : Folding) (id : Nat) (outer : List Body) : Body → Option Step
  | .done => none
  | .text content rest =>
    let tokens := textTokens f content
    if tokens.isEmpty then none
    else some ⟨.text tokens, firstOf f (id + 1) (rest :: outer), outer.length⟩
  | .optional _ inner rest =>
    some ⟨.optional (firstOf f (id + 1) [inner]),
      firstOf f (id + 1 + stepCount f inner) (rest :: outer), outer.length⟩
  | .variable rule rest =>
    some ⟨.variable rule (literal? f rule), firstOf f (id + 1) (rest :: outer), outer.length⟩

def layoutRests (f : Folding) (id : Nat) : List Body → List Step
  | [] => []
  | body :: outer =>
    layout f outer.length id (firstOf f (id + stepCount f body) outer) body ++
      layoutRests f (id + stepCount f body) outer

section

variable {f : Folding} {body rest : Body} {bodies outer : List Body} {id link : Nat} {step : Step}

theorem firstOf_cons (f : Folding) (id : Nat) (body : Body) (bodies : List Body) :
    firstOf f id (body :: bodies) =
      firstStep id (stepCount f body) (firstOf f (id + stepCount f body) bodies) := by
  by_cases hcount : stepCount f body = 0
  · rw [hcount]
    exact congrArg (firstStep id · _) hcount
  · rw [firstStep_pos hcount]
    exact firstStep_pos hcount

theorem eq_of_firstOf (h : firstOf f id bodies = some link) :
    link = id ∧ ∃ body ∈ bodies, stepCount f body ≠ 0 := by
  induction bodies with
  | nil => cases h
  | cons body bodies ih =>
    rw [firstOf, List.foldr_cons, firstStep] at h
    split at h
    · obtain ⟨heq, body', hmem, hcount⟩ := ih h
      exact ⟨heq, body', List.mem_cons_of_mem _ hmem, hcount⟩
    · rename_i hcount
      exact ⟨(Option.some.inj h).symm, body, List.mem_cons_self, hcount⟩

theorem layoutRests_ne_nil (h : ∃ body ∈ bodies, stepCount f body ≠ 0) :
    layoutRests f id bodies ≠ [] := by
  induction bodies generalizing id with
  | nil =>
    obtain ⟨body, hmem, -⟩ := h
    cases hmem
  | cons body bodies ih =>
    intro hnil
    obtain ⟨hbody, hrest⟩ := List.append_eq_nil_iff.1 hnil
    obtain ⟨body', hmem, hcount⟩ := h
    rcases List.mem_cons.1 hmem with rfl | hmem
    · rw [← layout_length, hbody] at hcount
      exact hcount rfl
    · exact ih ⟨body', hmem, hcount⟩ hrest

namespace At

theorem done (h : At f body id rest outer) : At f body (id + stepCount f rest) .done outer := by
  induction rest generalizing id outer with
  | done => exact h
  | text content rest ih =>
    cases hempty : (textTokens f content).isEmpty with
    | true =>
      have hrest := ih (h.blank hempty)
      rwa [stepCount, hempty, if_pos rfl, Nat.zero_add]
    | false =>
      have hrest := ih (h.text hempty)
      rwa [stepCount, hempty, if_neg Bool.false_ne_true, ← Nat.add_assoc]
  | optional rule inner rest ihInner ihRest =>
    have hrest := ihRest (ihInner h.enter).leave
    rwa [stepCount, ← Nat.add_assoc, ← Nat.add_assoc]
  | «variable» rule rest ih =>
    have hrest := ih h.variable
    rwa [stepCount, ← Nat.add_assoc]

theorem drop_eq (h : At f body id rest outer) :
    (layout f 0 0 none body).drop id = layoutRests f id (rest :: outer) := by
  induction h with
  | start => exact (List.append_nil _).symm
  | @blank id content rest outer hempty _ ih =>
    rw [ih, layoutRests, layout, stepCount, if_pos hempty, if_pos hempty, Nat.zero_add]
    rfl
  | @text id content rest outer hne _ ih =>
    have htail := congrArg List.tail ih
    rw [List.tail_drop] at htail
    rw [htail, layoutRests, layout, stepCount, hne]
    simp only [Bool.false_eq_true, ↓reduceIte, ← Nat.add_assoc]
    rfl
  | @enter id rule inner rest outer _ ih =>
    have htail := congrArg List.tail ih
    rw [List.tail_drop] at htail
    rw [htail, layoutRests, layout, stepCount, layoutRests, layoutRests, firstOf_cons]
    simp only [← Nat.add_assoc, List.cons_append, List.tail_cons, List.append_assoc,
      List.length_cons]
  | leave _ ih => exact ih
  | @«variable» id rule rest outer _ ih =>
    have htail := congrArg List.tail ih
    rw [List.tail_drop] at htail
    rw [htail, layoutRests, layout, stepCount]
    simp only [← Nat.add_assoc]
    rfl

theorem getElem?_eq (h : At f body id rest outer) (hstep : stepAt? f id outer rest = some step) :
    (layout f 0 0 none body)[id]? = some step := by
  rw [← Nat.add_zero id, ← List.getElem?_drop, h.drop_eq, layoutRests, ← hstep]
  cases rest with
  | done => cases hstep
  | text content rest =>
    cases hempty : (textTokens f content).isEmpty with
    | true =>
      rw [stepAt?, hempty] at hstep
      cases hstep
    | false =>
      simp only [layout, stepCount, stepAt?, hempty, Bool.false_eq_true, ↓reduceIte, firstOf_cons,
        ← Nat.add_assoc]
      rfl
  | optional rule inner rest =>
    simp only [layout, stepCount, stepAt?, firstOf_cons, ← Nat.add_assoc]
    rfl
  | «variable» rule rest =>
    simp only [layout, stepCount, stepAt?, firstOf_cons, ← Nat.add_assoc]
    rfl

theorem exists_stepAt {k : Nat} (h : At f body id rest outer) (hk : k < stepCount f rest) :
    ∃ rest' outer' step, At f body (id + k) rest' outer' ∧
      stepAt? f (id + k) outer' rest' = some step := by
  induction rest generalizing id outer k with
  | done => exact absurd hk (Nat.not_lt_zero k)
  | text content rest ih =>
    cases hempty : (textTokens f content).isEmpty with
    | true =>
      rw [stepCount, hempty, if_pos rfl, Nat.zero_add] at hk
      exact ih (h.blank hempty) hk
    | false =>
      rw [stepCount, hempty, if_neg Bool.false_ne_true] at hk
      cases k with
      | zero => exact ⟨_, _, _, h, by rw [stepAt?, hempty]; rfl⟩
      | succ k =>
        have hfound := ih (h.text hempty) (k := k) (by omega)
        rwa [Nat.add_assoc, Nat.add_comm 1] at hfound
  | optional rule inner rest ihInner ihRest =>
    rw [stepCount] at hk
    cases k with
    | zero => exact ⟨_, _, _, h, rfl⟩
    | succ k =>
      by_cases hinner : k < stepCount f inner
      · have hfound := ihInner h.enter hinner
        rwa [Nat.add_assoc, Nat.add_comm 1] at hfound
      · have hfound := ihRest h.enter.done.leave (k := k - stepCount f inner) (by omega)
        have hnumber : id + 1 + stepCount f inner + (k - stepCount f inner) = id + (k + 1) := by
          omega
        rwa [hnumber] at hfound
  | «variable» rule rest ih =>
    rw [stepCount] at hk
    cases k with
    | zero => exact ⟨_, _, _, h, rfl⟩
    | succ k =>
      have hfound := ih h.variable (k := k) (by omega)
      rwa [Nat.add_assoc, Nat.add_comm 1] at hfound

theorem lt_length_of_firstOf (h : At f body id rest outer) (hbodies : bodies ⊆ rest :: outer)
    (hfirst : firstOf f id bodies = some link) :
    link = id ∧ link < (layout f 0 0 none body).length := by
  obtain ⟨rfl, body', hmem, hcount⟩ := eq_of_firstOf hfirst
  refine ⟨rfl, Nat.lt_of_not_le fun hle => ?_⟩
  have hdrop := h.drop_eq
  rw [List.drop_eq_nil_of_le hle] at hdrop
  exact layoutRests_ne_nil ⟨body', hbodies hmem, hcount⟩ hdrop.symm

theorem links_lt (h : At f body id rest outer) (hstep : stepAt? f id outer rest = some step) :
    ∀ link ∈ step.links, id < link ∧ link < (layout f 0 0 none body).length := by
  intro link hlink
  have hnext {id' : Nat} {rest' : Body} (hat : At f body id' rest' outer) (hlt : id < id')
      (hfirst : firstOf f id' (rest' :: outer) = some link) :
      id < link ∧ link < (layout f 0 0 none body).length := by
    obtain ⟨rfl, hlength⟩ := hat.lt_length_of_firstOf (List.Subset.refl _) hfirst
    exact ⟨hlt, hlength⟩
  cases rest with
  | done => cases hstep
  | text content rest =>
    cases hempty : (textTokens f content).isEmpty with
    | true =>
      rw [stepAt?, hempty] at hstep
      cases hstep
    | false =>
      rw [stepAt?, hempty] at hstep
      cases hstep
      exact hnext (h.text hempty) (Nat.lt_succ_self id) (Option.mem_toList.1 hlink)
  | optional rule inner rest =>
    cases hstep
    rcases List.mem_append.1 hlink with hlink | hlink
    · obtain ⟨rfl, hlength⟩ := h.enter.lt_length_of_firstOf (by simp) (Option.mem_toList.1 hlink)
      exact ⟨Nat.lt_succ_self id, hlength⟩
    · exact hnext h.enter.done.leave (by omega) (Option.mem_toList.1 hlink)
  | «variable» rule rest =>
    cases hstep
    exact hnext h.variable (Nat.lt_succ_self id) (Option.mem_toList.1 hlink)

end At

/-- A step of a program is the one in front of which a walk through its body is. -/
theorem getElem?_layout_iff :
    (layout f 0 0 none body)[id]? = some step ↔
      ∃ rest outer, At f body id rest outer ∧ stepAt? f id outer rest = some step := by
  constructor
  · intro hget
    have hlt : id < stepCount f body := by
      rw [← layout_length]
      exact (List.getElem?_eq_some_iff.1 hget).1
    obtain ⟨rest, outer, step', hat, hstep⟩ := At.start.exists_stepAt hlt
    rw [Nat.zero_add] at hat hstep
    obtain rfl : step' = step := Option.some.inj ((hat.getElem?_eq hstep).symm.trans hget)
    exact ⟨rest, outer, hat, hstep⟩
  · rintro ⟨rest, outer, hat, hstep⟩
    exact hat.getElem?_eq hstep

theorem tokens_ne_nil {tokens : List String} (h : stepAt? f id outer rest = some step)
    (haction : step.action = .text tokens) : tokens ≠ [] := by
  cases rest with
  | done => cases h
  | text content rest =>
    rw [stepAt?] at h
    split at h
    · cases h
    · rename_i hempty
      cases h
      cases haction
      simpa using hempty
  | optional rule inner rest =>
    cases h
    cases haction
  | «variable» rule rest =>
    cases h
    cases haction

end

end Licensing.Matching
