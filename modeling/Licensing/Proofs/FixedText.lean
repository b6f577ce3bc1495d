import Licensing.Proofs.Segments

namespace Licensing.Template

open Licensing.Text

/-- The stretches of fixed text of a body that stand in no optional region of it, in order. -/
def Body.fixedTexts : Body → List (List Char)
  | .done => []
  | .text content rest => content :: rest.fixedTexts
  | .optional _ _ rest => rest.fixedTexts
  | .variable _ rest => rest.fixedTexts

def Body.startsWithText : Body → Bool
  | .text _ _ => true
  | _ => false

/-- Nowhere in a body does fixed text stand right behind fixed text. -/
def Body.Separated : Body → Prop
  | .done => True
  | .text _ rest => rest.startsWithText = false ∧ rest.Separated
  | .optional _ inner rest => inner.Separated ∧ rest.Separated
  | .variable _ rest => rest.Separated

/-- No body that the events end has fixed text behind fixed text. -/
def Reading.Separates (r : Reading) (afterText : Bool) (depth : Nat) : Prop :=
  ∃ body outer, Body.rests r.events = body :: outer ∧ outer.length = depth ∧
    (afterText → body.startsWithText = false) ∧ ∀ b ∈ body :: outer, b.Separated

namespace Reading.Separates

variable {r : Reading} {afterText : Bool} {depth : Nat}

theorem finish : Separates ⟨[.finish], none⟩ afterText 0 := by
  refine ⟨.done, [], rfl, rfl, fun _ => rfl, ?_⟩
  intro b hb
  obtain rfl := List.mem_singleton.1 hb
  trivial

theorem text (h : Separates r true depth) (content : List Char) (position : Position) :
    Separates (r.cons (.text content position)) false depth := by
  obtain ⟨rest, outer, hrests, hdepth, htext, hall⟩ := h
  obtain ⟨hrest, houter⟩ := List.forall_mem_cons.1 hall
  refine ⟨.text content rest, outer, ?_, hdepth, by simp, ?_⟩
  · simp only [Reading.cons, Body.rests, hrests]
  · exact List.forall_mem_cons.2 ⟨⟨htext rfl, hrest⟩, houter⟩

theorem «variable» (h : Separates r false depth) (rule : VariableRule) :
    Separates (r.cons (.variable rule)) afterText depth := by
  obtain ⟨rest, outer, hrests, hdepth, -, hall⟩ := h
  obtain ⟨hrest, houter⟩ := List.forall_mem_cons.1 hall
  refine ⟨.variable rule rest, outer, ?_, hdepth, fun _ => rfl, ?_⟩
  · simp only [Reading.cons, Body.rests, hrests]
  · exact List.forall_mem_cons.2 ⟨hrest, houter⟩

theorem beginOptional (h : Separates r false (depth + 1)) (rule : OptionalRule) :
    Separates (r.cons (.beginOptional rule)) afterText depth := by
  obtain ⟨inner, outer, hrests, hdepth, -, hall⟩ := h
  obtain ⟨rest, outer, rfl⟩ := List.exists_cons_of_length_eq_add_one hdepth
  obtain ⟨hinner, hall⟩ := List.forall_mem_cons.1 hall
  obtain ⟨hrest, houter⟩ := List.forall_mem_cons.1 hall
  refine ⟨.optional rule inner rest, outer, ?_, Nat.succ.inj hdepth, fun _ => rfl, ?_⟩
  · simp only [Reading.cons, Body.rests, hrests]
  · exact List.forall_mem_cons.2 ⟨⟨hinner, hrest⟩, houter⟩

theorem endOptional (h : Separates r false depth) (rule : OptionalRule) :
    Separates (r.cons (.endOptional rule)) afterText (depth + 1) := by
  obtain ⟨body, outer, hrests, hdepth, -, hall⟩ := h
  refine ⟨.done, body :: outer, ?_, congrArg Nat.succ hdepth, fun _ => rfl, ?_⟩
  · simp only [Reading.cons, Body.rests, hrests]
  · exact List.forall_mem_cons.2 ⟨trivial, hall⟩

end Reading.Separates

theorem separates_readPieces [Engine] {openRules : List OptionalRule} {found : List Piece}
    {tail : Option Nat} {afterText : Bool} (hsep : Separated afterText found)
    (herror : (readPieces openRules found tail).error = none) :
    (readPieces openRules found tail).Separates afterText openRules.length := by
  induction found generalizing openRules afterText with
  | nil =>
    cases tail with
    | some line => cases herror
    | none =>
      cases openRules with
      | nil => exact .finish
      | cons rule outer => cases herror
  | cons piece found ih =>
    cases piece with
    | text content position =>
      obtain ⟨rfl, hsep⟩ := hsep
      exact .text (ih hsep herror) content position
    | rule body line =>
      have hsep : Separated false found := hsep
      simp only [readPieces] at herror ⊢
      cases hparse : Rule.parse body line with
      | error e =>
        rw [hparse] at herror
        cases herror
      | ok rule =>
        rw [hparse] at herror
        cases rule with
        | «variable» rule => exact .variable (ih hsep herror) rule
        | beginOptional rule => exact .beginOptional (ih hsep herror) rule
        | endOptional =>
          cases openRules with
          | nil => cases herror
          | cons rule outer => exact .endOptional (ih hsep herror) rule

theorem Body.parse_separated [Engine] {template : List Char} {body : Body}
    (h : Body.parse template = .ok body) : body.Separated := by
  have hseparates (herror : (read template).error = none) : (read template).Separates false 0 :=
    separates_readPieces (separated_piecesFrom {} template) herror
  unfold Body.parse at h
  cases hread : read template with
  | mk events error =>
    rw [hread] at h hseparates
    cases error with
    | some e => cases h
    | none =>
      obtain rfl := Except.ok.inj h
      obtain ⟨body, outer, hrests, -, -, hall⟩ := hseparates rfl
      have hrests : Body.rests events = body :: outer := hrests
      rw [hrests]
      exact hall body List.mem_cons_self

section

variable {body : Body}

theorem trimmed_nil_cons (parts : List (List Char)) : trimmed ([] :: parts) = trimmed parts := rfl

theorem Body.exists_parts_marks (h : body.startsWithText = false) :
    ∃ later, Mark.parts (body.marks .omit .omit) = [] :: later := by
  cases body with
  | done => exact ⟨[], rfl⟩
  | text content rest => cases h
  | optional rule inner rest => exact ⟨Mark.parts (rest.marks .omit .omit), rfl⟩
  | «variable» rule rest => exact ⟨Mark.parts (rest.marks .omit .omit), rfl⟩

/-- A segment is left of every stretch of required fixed text that is not blank. -/
theorem Body.Separated.segments_omit (h : body.Separated) :
    Node.segments .omit .omit body.nodes = trimmed body.fixedTexts := by
  induction body with
  | done => rfl
  | text content rest ih =>
    obtain ⟨hnext, hrest⟩ := h
    obtain ⟨later, hparts⟩ := Body.exists_parts_marks hnext
    have ih : trimmed (Mark.parts (rest.marks .omit .omit)) = trimmed rest.fixedTexts := ih hrest
    change trimmed ((Mark.parts (rest.marks .omit .omit)).modifyHead (content ++ ·)) = _
    rw [hparts, trimmed_nil_cons] at ih
    rw [hparts, List.modifyHead_cons, List.append_nil, fixedTexts, ← List.singleton_append,
      trimmed_append, ih, ← trimmed_append]
    rfl
  | optional rule inner rest ihInner ihRest => exact ihRest h.2
  | «variable» rule rest ih => exact ih h

theorem Body.exists_fragment_of_mem_fixedTexts {content : List Char}
    (h : content ∈ body.fixedTexts) : ∃ fragment ∈ body.fragments, fragment.text = content := by
  induction body with
  | done => cases h
  | text content' rest ih =>
    rcases List.mem_cons.1 h with rfl | h
    · exact ⟨⟨content, none⟩, List.mem_cons_self, rfl⟩
    · obtain ⟨fragment, hfragment, htext⟩ := ih h
      exact ⟨fragment, List.mem_cons_of_mem _ hfragment, htext⟩
  | optional rule inner rest ihInner ihRest =>
    obtain ⟨fragment, hfragment, htext⟩ := ihRest h
    exact ⟨fragment, List.mem_append_right _ hfragment, htext⟩
  | «variable» rule rest ih =>
    obtain ⟨fragment, hfragment, htext⟩ := ih h
    exact ⟨fragment, List.mem_cons_of_mem _ hfragment, htext⟩

theorem Body.fixedTexts_subset [Engine] {template content : List Char}
    (h : Body.parse template = .ok body) (hcontent : content ∈ body.fixedTexts) :
    content ⊆ template := by
  obtain ⟨fragment, hfragment, rfl⟩ := Body.exists_fragment_of_mem_fixedTexts hcontent
  rw [← Body.parse_fragments h] at hfragment
  exact fragments_subset template fragment hfragment

end

end Licensing.Template
