import Licensing.Proofs.Counts
import Licensing.Template.Body
import Mathlib.Data.List.Forall2

namespace Licensing.Template

open Licensing.Text Licensing.Pattern

/-- The same rule twice: with a limit by the short form, and with the pattern spelled out. -/
structure VariableRule.SpelledOut (min max : Nat) (rule rule' : VariableRule) : Prop where
  defaultText : rule'.defaultText = rule.defaultText
  pattern : rule'.pattern = charsPattern min max
  limit : rule.limit = some ⟨min, some max⟩
  limit' : rule'.limit = none

/-- The same fields, but for a match field that the second spells out. -/
inductive FieldSpelledOut : List Char → List Char → Prop where
  | intro {body body' : List Char} {fields fields' : List (List Char)}
      {before after : List (List Char × List Char)} {min max : Nat}
      (hfields : fields? body = some fields) (hfields' : fields? body' = some fields')
      (hkind : fields'.headD [] = fields.headD [])
      (hattributes : parseFields fields.tail =
        .ok (before ++ ("match".toList, VariableRule.dotPattern min max) :: after))
      (hattributes' : parseFields fields'.tail =
        .ok (before ++ ("match".toList, VariableRule.charsPattern min max) :: after)) :
      FieldSpelledOut body body'

/-- The same text at perhaps another column, or rules that differ at most in a match field. -/
inductive Piece.Respelled : Piece → Piece → Prop where
  | text (content : List Char) (position position' : Position) :
      Respelled (.text content position) (.text content position')
  | rule {body body' : List Char} (h : body' = body ∨ FieldSpelledOut body body') (line : Nat) :
      Respelled (.rule body line) (.rule body' line)

/-- Two templates that differ at most in match fields which the second spells out. -/
def Respelled (template template' : List Char) : Prop :=
  List.Forall₂ Piece.Respelled (pieces template).1 (pieces template').1 ∧
    (pieces template').2 = (pieces template).2

def VariableRule.Respelled (rule rule' : VariableRule) : Prop :=
  rule' = rule ∨ ∃ min max, SpelledOut min max rule rule'

/-- Two bodies that differ at most in variables whose patterns the second spells out. -/
inductive Body.Respelled : Body → Body → Prop where
  | done : Respelled .done .done
  | text {content rest rest'} (hrest : Respelled rest rest') :
      Respelled (.text content rest) (.text content rest')
  | optional {rule inner inner' rest rest'} (hinner : Respelled inner inner')
      (hrest : Respelled rest rest') :
      Respelled (.optional rule inner rest) (.optional rule inner' rest')
  | «variable» {rule rule' rest rest'} (hrule : rule.Respelled rule')
      (hrest : Respelled rest rest') : Respelled (.variable rule rest) (.variable rule' rest')

namespace VariableRule

variable [Engine] {name defaultText pattern : List Char} {sample : Option (List Char)} {line : Nat}
  {rule : VariableRule} {min max : Nat}

theorem build_some_of_compile? (hname : isBlank name = false) {regex : Regex Atom}
    (hregex : Engine.compile? (expand pattern).1 = some regex) :
    build name defaultText (some pattern) line sample =
      .ok ⟨name, defaultText, sample, (expand pattern).1, regex, (expand pattern).2, line,
        Engine.parseWhole_of_compile? hregex⟩ := by
  simp only [build, hname]
  rw [if_neg Bool.false_ne_true]
  split
  · rename_i regex' hregex'
    cases hregex.symm.trans hregex'
    rfl
  · rename_i hnone
    cases hregex.symm.trans hnone

theorem build_some_inv (h : build name defaultText (some pattern) line sample = .ok rule) :
    isBlank name = false ∧ ∃ regex, ∃ hregex : Engine.compile? (expand pattern).1 = some regex,
      rule = ⟨name, defaultText, sample, (expand pattern).1, regex, (expand pattern).2, line,
        Engine.parseWhole_of_compile? hregex⟩ := by
  simp only [build] at h
  split at h
  · cases h
  · rename_i hname
    split at h
    · rename_i regex hregex
      exact ⟨Bool.eq_false_iff.2 hname, regex, hregex, (Except.ok.inj h).symm⟩
    · cases h

theorem build_spelledOut
    (h : build name defaultText (some (dotPattern min max)) line sample = .ok rule) :
    ∃ rule', build name defaultText (some (charsPattern min max)) line sample = .ok rule' ∧
      SpelledOut min max rule rule' := by
  obtain ⟨hname, regex, hregex, rfl⟩ := build_some_inv h
  -- Larger counts stay in the short form, which then is no pattern.
  have hcounts : min ≤ maxCount ∧ max ≤ maxCount := by
    refine Decidable.by_contra fun hcounts => ?_
    have hparses := Engine.parseWhole_of_compile? hregex
    rw [expand_dotPattern, if_neg hcounts, parseWhole_dotPattern_eq_none] at hparses
    · cases hparses
    · rintro ⟨hmin, hmax, -⟩
      exact hcounts ⟨le_maxCount hmin, le_maxCount hmax⟩
  have hexpand : expand (dotPattern min max) = (charsPattern min max, some ⟨min, some max⟩) := by
    rw [expand_dotPattern, if_pos hcounts]
  have hregex' : Engine.compile? (expand (charsPattern min max)).1 = some regex := by
    rw [expand_charsPattern]
    rw [hexpand] at hregex
    exact hregex
  refine ⟨_, build_some_of_compile? hname hregex', ?_⟩
  constructor
  · rfl
  · exact congrArg Prod.fst expand_charsPattern
  · exact congrArg Prod.snd hexpand
  · exact congrArg Prod.snd expand_charsPattern

end VariableRule

section

variable {body body' : Body} {openRules : List OptionalRule} {tail : Option Nat}

theorem lookup_match_field {before after : List (List Char × List Char)} {key : List Char}
    (hkey : (key == "match".toList) = false) (pattern pattern' : List Char) :
    (before ++ ("match".toList, pattern) :: after).lookup key =
      (before ++ ("match".toList, pattern') :: after).lookup key := by
  rw [List.lookup_append, List.lookup_append, List.lookup_cons, List.lookup_cons, hkey]

theorem lookup_match {before after : List (List Char × List Char)} (pattern : List Char) :
    (before ++ ("match".toList, pattern) :: after).lookup "match".toList =
      (before.lookup "match".toList).or (some pattern) := by
  rw [List.lookup_append, List.lookup_cons, BEq.rfl]

theorem exists_of_map_eq_ok {ε α β : Type} {x : Except ε α} {g : α → β} {b : β}
    (h : x.map g = .ok b) : ∃ a, x = .ok a ∧ g a = b := by
  cases x with
  | error e => cases h
  | ok a => exact ⟨a, rfl, Except.ok.inj h⟩

/-- Two rules that are the same, or variables that differ at most in their spelling. -/
inductive Rule.Respelled : Rule → Rule → Prop where
  | same (rule : Rule) : Respelled rule rule
  | «variable» {rule rule' : VariableRule} (h : rule.Respelled rule') :
      Respelled (.variable rule) (.variable rule')

theorem Rule.parse_spelledOut [Engine] {text text' : List Char} {line : Nat} {rule : Rule}
    (h : FieldSpelledOut text text') (hparse : Rule.parse text line = .ok rule) :
    ∃ rule', Rule.parse text' line = .ok rule' ∧ rule.Respelled rule' := by
  obtain ⟨hfields, hfields', hkind, hattributes, hattributes'⟩ := h
  rename_i fields fields' before after min max
  simp only [Rule.parse, hfields, hattributes, lookup_match] at hparse
  simp only [Rule.parse, hfields', hattributes', hkind, lookup_match]
  rw [lookup_match_field (by decide : ("name".toList == "match".toList) = false)
      (VariableRule.charsPattern min max) (VariableRule.dotPattern min max),
    lookup_match_field (by decide : ("original".toList == "match".toList) = false)
      (VariableRule.charsPattern min max) (VariableRule.dotPattern min max),
    lookup_match_field (by decide : ("example".toList == "match".toList) = false)
      (VariableRule.charsPattern min max) (VariableRule.dotPattern min max)]
  split at hparse
  · rename_i hvar
    rw [if_pos hvar]
    split at hparse
    · cases hparse
    · rename_i name hname
      -- An earlier match field hides the one that differs.
      cases hbefore : before.lookup "match".toList with
      | some pattern =>
        rw [hbefore] at hparse
        exact ⟨rule, hparse, .same rule⟩
      | none =>
        rw [hbefore] at hparse
        obtain ⟨variableRule, hbuild, rfl⟩ := exists_of_map_eq_ok hparse
        obtain ⟨variableRule', hbuild', hspelled⟩ := VariableRule.build_spelledOut hbuild
        refine ⟨.variable variableRule', ?_, .variable (.inr ⟨min, max, hspelled⟩)⟩
        rw [Option.none_or, hbuild']
        rfl
  · rename_i hvar
    rw [if_neg hvar]
    exact ⟨rule, hparse, .same rule⟩

theorem Body.Respelled.refl (body : Body) : Body.Respelled body body := by
  induction body with
  | done => exact .done
  | text content rest ih => exact .text ih
  | optional rule inner rest ihInner ihRest => exact .optional ihInner ihRest
  | «variable» rule rest ih => exact .variable (.inl rfl) ih

def Reading.Respelled (r r' : Reading) : Prop :=
  r'.error = none ∧ List.Forall₂ Body.Respelled (Body.rests r.events) (Body.rests r'.events)

namespace Reading.Respelled

variable {r r' : Reading}

theorem text (h : Respelled r r') (content : List Char) (position position' : Position) :
    Respelled (r.cons (.text content position)) (r'.cons (.text content position')) := by
  obtain ⟨herror, hbodies⟩ := h
  refine ⟨herror, ?_⟩
  simp only [Reading.cons, Body.rests]
  generalize Body.rests r.events = bodies, Body.rests r'.events = bodies' at hbodies ⊢
  cases hbodies with
  | nil => exact .nil
  | cons hrest houter => exact .cons (.text hrest) houter

theorem «variable» (h : Respelled r r') {rule rule' : VariableRule}
    (hrule : rule.Respelled rule') :
    Respelled (r.cons (.variable rule)) (r'.cons (.variable rule')) := by
  obtain ⟨herror, hbodies⟩ := h
  refine ⟨herror, ?_⟩
  simp only [Reading.cons, Body.rests]
  generalize Body.rests r.events = bodies, Body.rests r'.events = bodies' at hbodies ⊢
  cases hbodies with
  | nil => exact .nil
  | cons hrest houter => exact .cons (.variable hrule hrest) houter

theorem beginOptional (h : Respelled r r') (rule : OptionalRule) :
    Respelled (r.cons (.beginOptional rule)) (r'.cons (.beginOptional rule)) := by
  obtain ⟨herror, hbodies⟩ := h
  refine ⟨herror, ?_⟩
  simp only [Reading.cons, Body.rests]
  generalize Body.rests r.events = bodies, Body.rests r'.events = bodies' at hbodies ⊢
  cases hbodies with
  | nil => exact .nil
  | cons hinner houter =>
    cases houter with
    | nil => exact .cons hinner .nil
    | cons hrest houter => exact .cons (.optional hinner hrest) houter

theorem endOptional (h : Respelled r r') (rule : OptionalRule) :
    Respelled (r.cons (.endOptional rule)) (r'.cons (.endOptional rule)) := by
  obtain ⟨herror, hbodies⟩ := h
  exact ⟨herror, .cons .done hbodies⟩

end Reading.Respelled

theorem readPieces_respelled [Engine] {found found' : List Piece}
    (h : List.Forall₂ Piece.Respelled found found')
    (herror : (readPieces openRules found tail).error = none) :
    (readPieces openRules found tail).Respelled (readPieces openRules found' tail) := by
  induction h generalizing openRules with
  | nil => exact ⟨herror, List.forall₂_same.2 fun body _ => .refl body⟩
  | cons hpiece hrest ih =>
    cases hpiece with
    | text content position position' => exact .text (ih herror) content position position'
    | rule hrule line =>
      rename_i text text'
      simp only [readPieces] at herror ⊢
      cases hparse : Rule.parse text line with
      | error e =>
        rw [hparse] at herror
        cases herror
      | ok rule =>
        obtain ⟨rule', hparse', hrule⟩ :
            ∃ rule', Rule.parse text' line = .ok rule' ∧ rule.Respelled rule' := by
          rcases hrule with rfl | hfield
          · exact ⟨rule, hparse, .same rule⟩
          · exact Rule.parse_spelledOut hfield hparse
        rw [hparse] at herror
        rw [hparse']
        cases hrule with
        | «variable» hrule => exact .variable (ih herror) hrule
        | same =>
          cases rule with
          | «variable» rule => exact .variable (ih herror) (.inl rfl)
          | beginOptional rule => exact .beginOptional (ih herror) rule
          | endOptional =>
            cases openRules with
            | nil => cases herror
            | cons rule outer => exact .endOptional (ih herror) rule

/-- A template whose short forms are spelled out can be read if the template can. -/
theorem Body.parse_respelled [Engine] {template template' : List Char}
    (h : Template.Respelled template template') (hparse : Body.parse template = .ok body) :
    ∃ body', Body.parse template' = .ok body' ∧ body.Respelled body' := by
  obtain ⟨hpieces, htail⟩ := h
  unfold Body.parse at hparse ⊢
  cases hread : read template with
  | mk events error =>
    rw [hread] at hparse
    cases error with
    | some e => cases hparse
    | none =>
      obtain rfl := Except.ok.inj hparse
      have hrespelled : (read template).Respelled (read template') := by
        change (readPieces [] (pieces template).1 (pieces template).2).Respelled
          (readPieces [] (pieces template').1 (pieces template').2)
        rw [htail]
        exact readPieces_respelled hpieces (congrArg Reading.error hread)
      rw [hread] at hrespelled
      cases hread' : read template' with
      | mk events' error' =>
        rw [hread'] at hrespelled
        obtain ⟨rfl, hbodies⟩ := hrespelled
        refine ⟨_, rfl, ?_⟩
        change List.Forall₂ Body.Respelled (Body.rests events) (Body.rests events') at hbodies
        generalize Body.rests events = bodies, Body.rests events' = bodies' at hbodies ⊢
        cases hbodies with
        | nil => exact .done
        | cons hbody houter => exact hbody

end

end Licensing.Template
