import Licensing.Proofs.FillerJoints
import Licensing.Proofs.FramedRules
import Licensing.Proofs.Rendered
import Licensing.Proofs.Surroundings

namespace Licensing.Matching

open Licensing.Text Licensing.Template

section

variable {f : Folding} {d : Document} {pre post : List Char} {token : String}
  {rule : VariableRule}

theorem textTokens_blank_cons (f : Folding) (content : List Char) :
    textTokens f (' ' :: content) = textTokens f content := by
  have hblank := map_text_tokenize_append_blank f [] content
  rwa [tokenize_of_isBlank (s := []) rfl] at hblank

theorem textTokens_append_blank (f : Folding) (content : List Char) :
    textTokens f (content ++ [' ']) = textTokens f content := by
  have hblank := map_text_tokenize_append_blank f content []
  rwa [tokenize_of_isBlank (s := []) rfl, List.map_nil, List.append_nil] at hblank

theorem textTokens_framed (f : Folding) (pre content post : List Char) :
    textTokens f (framed pre content post) =
      textTokens f pre ++ textTokens f content ++ textTokens f post := by
  simp only [textTokens, framed, map_text_tokenize_append_blank, List.append_assoc]

theorem literal?_eq_some (hsingle : isSingleToken rule.defaultText)
    (htoken : textTokens f rule.defaultText = [token]) : literal? f rule = some token := by
  obtain ⟨t, hone, rfl⟩ := List.map_eq_singleton_iff.1 htoken
  rw [literal?, if_pos hsingle, hone]

theorem acceptsSpan_literal [Engine] {literal : String} {i : Nat} (rule : VariableRule)
    (h : d.text? i = some literal) : acceptsSpan d rule (some literal) i (i + 1) := by
  simp [acceptsSpan, h]

theorem derives_framed [Engine] (hliteral : literal? f rule = some token)
    (htexts : d.tokens.toList.map (·.text) = textTokens f pre ++ [token] ++ textTokens f post) :
    Derives f d (.text (pre ++ [' ']) (.variable rule (.text (' ' :: post) .done))) 0 d.size := by
  have hsize : d.size = (textTokens f pre ++ [token] ++ textTokens f post).length := by
    rw [← htexts, List.length_map]
    rfl
  have hbefore : Spells d 0 (textTokens f pre).length (textTokens f (pre ++ [' '])) := by
    have hfront : d.tokens.toList.map (·.text) =
        [] ++ textTokens f pre ++ ([token] ++ textTokens f post) := by
      rw [htexts, List.nil_append, List.append_assoc]
    rw [textTokens_append_blank]
    exact spells_of_map_text hfront
  have hword : Spells d (textTokens f pre).length (textTokens f pre ++ [token]).length [token] :=
    spells_of_map_text htexts
  have hbehind : Spells d (textTokens f pre ++ [token]).length d.size
      (textTokens f (' ' :: post)) := by
    have hback : d.tokens.toList.map (·.text) =
        textTokens f pre ++ [token] ++ textTokens f post ++ [] := by
      rw [htexts, List.append_nil]
    rw [textTokens_blank_cons, hsize]
    exact spells_of_map_text hback
  rw [List.length_append] at hbehind hword hsize
  rw [spells_cons, spells_nil] at hword
  obtain ⟨htoken, hstop⟩ := hword
  have haccepts := acceptsSpan_literal rule htoken
  rw [← hliteral] at haccepts
  refine .text hbefore (.variable (Nat.le_succ _) ?_ haccepts (.text ?_ (.done _)))
  · exact lt_size_of_text? htoken
  · rwa [hstop] at hbehind

end

/-- A variable accepts a default text that is one word and one token, whatever its pattern. -/
theorem default_word_accepted [Engine] (m : Matcher) {pre post written : List Char}
    {rule : VariableRule} (hrule : Body.parse written = .ok (.variable rule .done))
    (hsingle : isSingleToken rule.defaultText)
    (htoken : (tokenize m.settings.folding rule.defaultText).length = 1)
    (hpre : HasNoRule pre) (hpost : HasNoRule post)
    (htemplate : stripComments (framed pre written post) = framed pre written post)
    (htext : stripComments (framed pre rule.defaultText post) = framed pre rule.defaultText post) :
    (∃ difference, m.compare (framed pre written post) (framed pre rule.defaultText post) =
        .ok difference ∧ difference.found = false) ∧
      m.isWithin (framed pre written post) (framed pre rule.defaultText post) = .ok true := by
  obtain ⟨t, hone⟩ := List.length_eq_one_iff.1 htoken
  have hword : textTokens m.settings.folding rule.defaultText = [t.text] := by
    rw [textTokens, hone]
    rfl
  have htexts : (m.prepare (framed pre rule.defaultText post)).tokens.toList.map (·.text) =
      textTokens m.settings.folding pre ++ [t.text] ++ textTokens m.settings.folding post := by
    rw [← hword, ← textTokens_framed]
    exact map_text_ofText htext
  obtain ⟨rule', hdefault, hparse⟩ := Body.parse_framed hpre hpost hrule
  have hliteral : literal? m.settings.folding rule' = some t.text :=
    literal?_eq_some (hdefault ▸ hsingle) (hdefault ▸ hword)
  have hcompare : ∃ difference,
      m.compare (framed pre written post) (framed pre rule.defaultText post) = .ok difference ∧
        difference.found = false := by
    rw [← htemplate] at hparse
    refine ⟨_, by rw [Matcher.compare, Matcher.compile_of_parse hparse], ?_⟩
    rw [Matcher.comparePrepared, compareWith_found, exactOutcome_isMatch]
    exact derives_framed hliteral htexts
  refine ⟨hcompare, ?_⟩
  obtain ⟨difference, hresult, hfound⟩ := hcompare
  refine isWithin_of_compare hresult hfound ?_
  have hsize := congrArg List.length htexts
  simp only [List.length_map, Array.length_toList, List.length_append, List.length_singleton]
    at hsize
  rw [Document.size, hsize]
  omega

def isVariable [Engine] (test : VariableRule → Bool) (template : List Char) : Bool :=
  match Body.parse template with
  | .ok (.variable rule .done) => test rule
  | _ => false

theorem exists_of_isVariable [Engine] {test : VariableRule → Bool} {template : List Char}
    (h : isVariable test template) :
    ∃ rule, Body.parse template = .ok (.variable rule .done) ∧ test rule := by
  unfold isVariable at h
  split at h
  · exact ⟨_, ‹_›, h⟩
  · cases h

theorem default_word_accepted_too_long :
    let pre := "Grant of".toList
    let post := "(if any):\n".toList
    let written := "<<Var; name=v; original=\" Licence\"; match=.\x7b1,3\x7d>>".toList
    let template := framed pre written post
    ∃ rule, Body.parse written = .ok (.variable rule .done) ∧
      rule.accepts "license".toList = false ∧ rule.accepts "Licence".toList = false ∧
      (∃ difference, Matcher.compare {} template (framed pre rule.defaultText post) =
        .ok difference ∧ difference.found = false) ∧
      Matcher.isWithin {} template (framed pre rule.defaultText post) = .ok true := by
  intro pre post written template
  let test (rule : VariableRule) : Bool := rule.defaultText = " Licence".toList &&
    !rule.accepts "license".toList && !rule.accepts "Licence".toList
  obtain ⟨rule, hrule, htest⟩ : ∃ rule, Body.parse written = .ok (.variable rule .done) ∧
      test rule := exists_of_isVariable (by decide +kernel)
  simp only [test, Bool.and_eq_true, decide_eq_true_eq, Bool.not_eq_true'] at htest
  obtain ⟨⟨hdefault, hfolded⟩, hwritten⟩ := htest
  refine ⟨rule, hrule, hfolded, hwritten, ?_⟩
  refine default_word_accepted {} hrule ?_ ?_ (by decide +kernel) (by decide +kernel)
    (by decide +kernel) ?_
  all_goals
    rw [hdefault]
    decide +kernel

/-- A single word that is tokenized as two is not always accepted. -/
theorem compound_default_word_refused :
    ¬ ∀ (m : Matcher) (pre post written : List Char) (rule : VariableRule),
      Body.parse written = .ok (.variable rule .done) → isSingleToken rule.defaultText →
      0 < (tokenize m.settings.folding rule.defaultText).length → HasNoRule pre →
      HasNoRule post → stripComments (framed pre written post) = framed pre written post →
      stripComments (framed pre rule.defaultText post) = framed pre rule.defaultText post →
      (∃ difference, m.compare (framed pre written post) (framed pre rule.defaultText post) =
          .ok difference ∧ difference.found = false) ∧
        m.isWithin (framed pre written post) (framed pre rule.defaultText post) = .ok true := by
  intro h
  let written := "<<var;name=\"v\";original=\"sublicense\";match=\".\x7b1,3\x7d\">>".toList
  obtain ⟨rule, hrule, htest⟩ : ∃ rule, Body.parse written = .ok (.variable rule .done) ∧
      decide (rule.defaultText = "sublicense".toList) := exists_of_isVariable (by decide +kernel)
  have hdefault : rule.defaultText = "sublicense".toList := of_decide_eq_true htest
  have hwithin := (h {} "a".toList "b".toList written rule hrule (by rw [hdefault]; decide +kernel)
    (by rw [hdefault]; decide +kernel) (by decide +kernel) (by decide +kernel)
    (by decide +kernel) (by rw [hdefault]; decide +kernel)).2
  have hrefused : (Matcher.isWithin {} (framed "a".toList written "b".toList)
      (framed "a".toList "sublicense".toList "b".toList)).toOption = some false := by
    decide +kernel
  rw [← hdefault, hwithin] at hrefused
  cases hrefused

end Licensing.Matching
