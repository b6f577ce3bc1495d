import Licensing.Proofs.Failure

namespace Licensing.Template

def Body.append : Body → Body → Body
  | .done, behind => behind
  | .text content rest, behind => .text content (rest.append behind)
  | .optional rule inner rest, behind => .optional rule inner (rest.append behind)
  | .variable rule rest, behind => .variable rule (rest.append behind)

@[simp] theorem Body.append_done (body : Body) : body.append .done = body := by
  induction body with
  | done => rfl
  | text content rest ih => rw [append, ih]
  | optional rule inner rest ihInner ihRest => rw [append, ihRest]
  | «variable» rule rest ih => rw [append, ih]

end Licensing.Template

namespace Licensing.Matching

open Licensing.Text Licensing.Template

/-- The tokens of the fixed text that a body starts with, if it starts with any. -/
def leadingTokens (f : Folding) : Body → List String
  | .text content rest =>
    if textTokens f content = [] then leadingTokens f rest else textTokens f content
  | _ => []

/-- Whether a rest of a template can go on at a place, by its first token and its end. -/
def CanGoOn (f : Folding) (d : Document) (rest : Body) (place : Nat) : Prop :=
  (∀ token ∈ (leadingTokens f rest).head?, d.text? place = some token) ∧
    (stepCount f rest = 0 → place = d.size)

/-- A link of a program stands for what is left of a template. -/
inductive Represents (f : Folding) (p : Program) : Option Nat → Body → Prop where
  | done : Represents f p none .done
  | blank {link content rest} (hblank : textTokens f content = [])
      (hrest : Represents f p link rest) : Represents f p link (.text content rest)
  | text {id next depth content rest}
      (hstep : p.steps[id]? = some ⟨.text (textTokens f content), next, depth⟩)
      (htokens : textTokens f content ≠ []) (hrest : Represents f p next rest) :
      Represents f p (some id) (.text content rest)
  | hollow {id next depth rule inner rest}
      (hstep : p.steps[id]? = some ⟨.optional none, next, depth⟩)
      (hinner : stepCount f inner = 0) (hrest : Represents f p next rest) :
      Represents f p (some id) (.optional rule inner rest)
  | optional {id first next depth rule inner rest}
      (hstep : p.steps[id]? = some ⟨.optional (some first), next, depth⟩)
      (hinner : Represents f p (some first) (inner.append rest))
      (hrest : Represents f p next rest) : Represents f p (some id) (.optional rule inner rest)
  | «variable» {id next depth rule rest}
      (hstep : p.steps[id]? = some ⟨.variable rule (literal? f rule), next, depth⟩)
      (hrest : Represents f p next rest) : Represents f p (some id) (.variable rule rest)

section

variable {f : Folding} {p : Program} {d : Document} {body rest : Body} {depth id : Nat}
  {link after : Option Nat}

theorem represents_layout (hlayout : layout f depth id after body <+: p.steps.drop id)
    (hrest : Represents f p after rest) :
    Represents f p (firstStep id (stepCount f body) after) (body.append rest) := by
  induction body generalizing depth id after rest with
  | done => exact hrest
  | text content later ih =>
    by_cases hempty : (textTokens f content).isEmpty
    · simp only [layout, hempty, ↓reduceIte] at hlayout
      simp only [stepCount, hempty, ↓reduceIte, Nat.zero_add]
      exact .blank (List.isEmpty_iff.1 hempty) (ih hlayout hrest)
    · simp only [layout, hempty, Bool.false_eq_true, ↓reduceIte] at hlayout
      simp only [stepCount, hempty, Bool.false_eq_true, ↓reduceIte]
      rw [firstStep_pos (by omega)]
      exact .text (Program.getElem?_of_prefix hlayout) (mt List.isEmpty_iff.2 hempty)
        (ih (Program.prefix_tail hlayout) hrest)
  | optional rule inner later ihInner ihLater =>
    rw [layout] at hlayout
    have hstep := Program.getElem?_of_prefix hlayout
    have htail := Program.prefix_tail hlayout
    have hlater := Program.prefix_right htail
    rw [layout_length] at hlater
    have hlater := ihLater hlater hrest
    rw [stepCount, firstStep_pos (by omega)]
    by_cases hcount : stepCount f inner = 0
    · rw [hcount, firstStep_zero] at hstep
      exact .hollow hstep hcount (by rwa [hcount] at hlater)
    · have hinner := ihInner ((List.prefix_append _ _).trans htail) hlater
      rw [firstStep_pos hcount] at hstep hinner
      exact .optional hstep hinner hlater
  | «variable» rule later ih =>
    rw [stepCount, firstStep_pos (by omega)]
    exact .variable (Program.getElem?_of_prefix hlayout) (ih (Program.prefix_tail hlayout) hrest)

theorem represents_entry (f : Folding) (body : Body) :
    Represents f (.ofBody f body) (Program.ofBody f body).entry body := by
  have h := represents_layout (p := .ofBody f body) (List.prefix_refl (layout f 0 0 none body))
    .done
  rwa [Body.append_done, ← Program.entry_ofBody] at h

namespace Represents

theorem leadingToken?_eq (h : Represents f p link body) :
    p.leadingToken? link = (leadingTokens f body).head? := by
  induction h with
  | done => rfl
  | blank hblank hrest ih => rw [leadingTokens, if_pos hblank, ih]
  | text hstep htokens =>
    simp [Program.leadingToken?, Program.textAt?, hstep, leadingTokens, htokens]
  | hollow hstep => simp [Program.leadingToken?, Program.textAt?, hstep, leadingTokens]
  | optional hstep => simp [Program.leadingToken?, Program.textAt?, hstep, leadingTokens]
  | «variable» hstep => simp [Program.leadingToken?, Program.textAt?, hstep, leadingTokens]

theorem textAt?_eq (h : Represents f p link body) (hne : leadingTokens f body ≠ []) :
    ∃ id, link = some id ∧ p.textAt? id = some (leadingTokens f body) := by
  induction h with
  | blank hblank hrest ih =>
    rw [leadingTokens, if_pos hblank] at hne ⊢
    exact ih hne
  | @text id next depth content rest hstep htokens =>
    rw [leadingTokens, if_neg htokens]
    exact ⟨id, rfl, by simp [Program.textAt?, hstep]⟩
  | done => exact absurd rfl hne
  | hollow => exact absurd rfl hne
  | optional => exact absurd rfl hne
  | «variable» => exact absurd rfl hne

theorem eq_none_iff (h : Represents f p link body) : link = none ↔ stepCount f body = 0 := by
  induction h with
  | done => simp [stepCount]
  | blank hblank hrest ih => simp [stepCount, hblank, ih]
  | text hstep htokens => simp [stepCount, htokens]
  | hollow => simp [stepCount, Nat.add_assoc]
  | optional => simp [stepCount, Nat.add_assoc]
  | «variable» => simp [stepCount]

theorem mem_candidateEnds_iff (h : Represents f p link rest) {place stop : Nat}
    (hplace : place ≤ d.size) :
    stop ∈ candidateEnds d .exact place (following p d link) ↔
      place ≤ stop ∧ stop ≤ d.size ∧ CanGoOn f d rest stop := by
  have hnone := h.eq_none_iff
  have hlead := h.leadingToken?_eq
  rw [following, CanGoOn, ← hlead, ← hnone]
  cases hfirst : p.leadingToken? link with
  | some token =>
    have hlink : link ≠ none := by
      rintro rfl
      cases hfirst
    simp only [candidateEnds, List.mem_filter, List.mem_reverse, mem_occurrences,
      decide_eq_true_eq, Option.mem_def, Option.some.injEq, forall_eq', hlink, false_implies,
      and_true]
    constructor
    · rintro ⟨htext, hle⟩
      exact ⟨hle, Nat.le_of_lt (lt_size_of_text? htext), htext⟩
    · rintro ⟨hle, -, htext⟩
      exact ⟨htext, hle⟩
  | none =>
    cases link with
    | some id =>
      simp [candidateEnds, mem_range'_to_size hplace]
    | none =>
      simp only [candidateEnds, Option.isSome_none, Bool.false_eq_true, ↓reduceIte,
        List.mem_singleton, Option.mem_def, reduceCtorEq, false_implies, implies_true, true_and,
        forall_const]
      omega

theorem exists_absentFollower (h : Represents f p link rest) {place : Nat}
    (hplace : place ≤ d.size)
    (hends : candidateEnds d .exact place (following p d link) = []) (id : Nat) :
    ∃ next token after, link = some next ∧ leadingTokens f rest = token :: after ∧
      p.textAt? next = some (token :: after) ∧ (∀ k, place ≤ k → d.text? k ≠ some token) ∧
      absentFollower p d link id place = unmet d place next 0 := by
  have hnowhere (stop : Nat) (hle : place ≤ stop) (hsize : stop ≤ d.size) :
      ¬ CanGoOn f d rest stop := by
    intro hcan
    have hmem := (h.mem_candidateEnds_iff hplace).2 ⟨hle, hsize, hcan⟩
    rw [hends] at hmem
    cases hmem
  have hleading : leadingTokens f rest ≠ [] := by
    intro hnil
    exact hnowhere d.size hplace (Nat.le_refl _) ⟨by simp [hnil], fun _ => rfl⟩
  obtain ⟨next, rfl, htext⟩ := h.textAt?_eq hleading
  obtain ⟨token, after, htokens⟩ := List.exists_cons_of_ne_nil hleading
  rw [htokens] at htext
  have habsent (k : Nat) (hk : place ≤ k) : d.text? k ≠ some token := by
    intro hfound
    refine hnowhere k hk (Nat.le_of_lt (lt_size_of_text? hfound)) ⟨by simp [htokens, hfound], ?_⟩
    intro hcount
    cases h.eq_none_iff.2 hcount
  refine ⟨next, token, after, rfl, htokens, htext, habsent, ?_⟩
  rw [absentFollower, Option.bind_some, htext, Option.map_some,
    matchTokens_cons_of_ne (habsent place (Nat.le_refl _))]

end Represents

end

end Licensing.Matching
