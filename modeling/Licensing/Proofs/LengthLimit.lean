import Licensing.Proofs.Interpretation
import Licensing.Proofs.NormalizedSpans
import Licensing.Proofs.Respelling

namespace Licensing.Matching

open Licensing.Text Licensing.Template

/-- The number of characters in the source of a span, white space collapsed. -/
def sourceLength (d : Document) (start stop : Nat) : Nat :=
  (collapseWhitespace (d.sourceSpan start stop)).length

/-- Derived with a span that the limit refuses, but whose source is within the limit. -/
inductive DerivesBySource [Engine] (f : Folding) (d : Document) :
    Body → Body → Nat → Nat → Prop where
  | text {content rest rest' i j k} (htext : Spells d i j (textTokens f content))
      (hrest : DerivesBySource f d rest rest' j k) :
      DerivesBySource f d (.text content rest) (.text content rest') i k
  | inner {rule inner inner' rest rest' i j k} (hinner : DerivesBySource f d inner inner' i j)
      (hrest : Derives f d rest' j k) :
      DerivesBySource f d (.optional rule inner rest) (.optional rule inner' rest') i k
  | behind {rule inner inner' rest rest' i j k} (hinner : Derives f d inner' i j)
      (hrest : DerivesBySource f d rest rest' j k) :
      DerivesBySource f d (.optional rule inner rest) (.optional rule inner' rest') i k
  | skipped {rule inner inner' rest rest' i k} (hrest : DerivesBySource f d rest rest' i k) :
      DerivesBySource f d (.optional rule inner rest) (.optional rule inner' rest') i k
  | here {min max rule rule' rest rest' i j k} (hrule : VariableRule.SpelledOut min max rule rule')
      (hle : i ≤ j) (hsize : j ≤ d.size) (hrefused : ¬ acceptsSpan d rule (literal? f rule) i j)
      (hmin : min ≤ sourceLength d i j) (hmax : sourceLength d i j ≤ max)
      (hrest : Derives f d rest' j k) :
      DerivesBySource f d (.variable rule rest) (.variable rule' rest') i k
  | later {rule rule' rest rest' i j k} (hle : i ≤ j) (hsize : j ≤ d.size)
      (haccepts : acceptsSpan d rule' (literal? f rule') i j)
      (hrest : DerivesBySource f d rest rest' j k) :
      DerivesBySource f d (.variable rule rest) (.variable rule' rest') i k

section

variable {f : Folding} {d : Document} {body body' : Body} {rule rule' : VariableRule}
  {min max i j k : Nat}

theorem allows_iff {count : Nat} :
    LengthLimit.allows ⟨min, some max⟩ count ↔ min ≤ count ∧ count ≤ max := by
  simp [LengthLimit.allows]

theorem literal?_spelledOut (h : VariableRule.SpelledOut min max rule rule') :
    literal? f rule' = literal? f rule := by
  rw [literal?, literal?, h.defaultText]

variable [Engine] [LawfulEngine]

theorem accepts_spelledOut (h : VariableRule.SpelledOut min max rule rule') (s : List Char) :
    rule'.accepts s = LengthLimit.allows ⟨min, some max⟩ s.length := by
  have hparses := rule'.parses
  rw [h.pattern] at hparses
  obtain ⟨hle, -, hregex⟩ := Pattern.parseWhole_charsPattern hparses
  rw [VariableRule.accepts, h.limit', hregex, Bool.eq_iff_iff, allows_iff]
  exact LawfulEngine.matchesIn_anyCharacters hle

theorem acceptsSpan_spelledOut (h : VariableRule.SpelledOut min max rule rule')
    (hd : d.normalizedLength i j = (d.normalizedSpan i j).length) :
    acceptsSpan d rule' (literal? f rule') i j ↔
      acceptsSpan d rule (literal? f rule) i j ∨
        min ≤ sourceLength d i j ∧ sourceLength d i j ≤ max := by
  rw [literal?_spelledOut h]
  simp only [acceptsSpan, h.limit, h.limit', accepts_spelledOut h, Bool.or_eq_true, hd,
    ← allows_iff, or_assoc]
  rfl

/-- An allowed source needs a normalized form that is allowed too for both spellings to agree. -/
theorem allows_eq_accepts_iff (h : VariableRule.SpelledOut min max rule rule')
    (hd : d.normalizedLength i j = (d.normalizedSpan i j).length) :
    LengthLimit.allows ⟨min, some max⟩ (d.normalizedLength i j) =
        (rule'.accepts (d.normalizedSpan i j) ||
          rule'.accepts (collapseWhitespace (d.sourceSpan i j))) ↔
      (min ≤ sourceLength d i j → sourceLength d i j ≤ max →
        min ≤ d.normalizedLength i j ∧ d.normalizedLength i j ≤ max) := by
  rw [accepts_spelledOut h, accepts_spelledOut h, ← hd, Bool.eq_iff_iff, Bool.or_eq_true,
    allows_iff, allows_iff, sourceLength]
  constructor
  · intro hiff hmin hmax
    exact hiff.2 (.inr ⟨hmin, hmax⟩)
  · intro hsource
    constructor
    · exact .inl
    · rintro (hnormalized | ⟨hmin, hmax⟩)
      · exact hnormalized
      · exact hsource hmin hmax

theorem acceptsSpan_respelled (h : rule.Respelled rule')
    (hd : d.normalizedLength i j = (d.normalizedSpan i j).length)
    (haccepts : acceptsSpan d rule (literal? f rule) i j) :
    acceptsSpan d rule' (literal? f rule') i j := by
  rcases h with rfl | ⟨min, max, hrule⟩
  · exact haccepts
  · exact (acceptsSpan_spelledOut hrule hd).2 (.inl haccepts)

variable (hd : ∀ i j, d.normalizedLength i j = (d.normalizedSpan i j).length)

include hd

theorem Derives.respelled (hbody : body.Respelled body') (h : Derives f d body i k) :
    Derives f d body' i k := by
  induction hbody generalizing i k with
  | done => exact h
  | text hrest ih =>
    obtain ⟨j, htext, hrest⟩ := derives_text.1 h
    exact .text htext (ih hrest)
  | optional hinner hrest ihInner ihRest =>
    rcases derives_optional.1 h with ⟨j, hinner, hrest⟩ | hrest
    · exact .taken (ihInner hinner) (ihRest hrest)
    · exact .skipped (ihRest hrest)
  | «variable» hrule hrest ih =>
    obtain ⟨j, ⟨hle, hsize, haccepts⟩, hrest⟩ := derives_variable.1 h
    exact .variable hle hsize (acceptsSpan_respelled hrule (hd i j) haccepts) (ih hrest)

theorem DerivesBySource.derives (h : DerivesBySource f d body body' i k) :
    Derives f d body' i k := by
  induction h with
  | text htext hrest ih => exact .text htext ih
  | inner hinner hrest ih => exact .taken ih hrest
  | behind hinner hrest ih => exact .taken hinner ih
  | skipped hrest ih => exact .skipped ih
  | here hrule hle hsize hrefused hmin hmax hrest =>
    have haccepts := (acceptsSpan_spelledOut (f := f) hrule (hd _ _)).2 (.inr ⟨hmin, hmax⟩)
    exact .variable hle hsize haccepts hrest
  | later hle hsize haccepts hrest ih => exact .variable hle hsize haccepts ih

theorem Derives.derives_or_derivesBySource (hbody : body.Respelled body')
    (h : Derives f d body' i k) : Derives f d body i k ∨ DerivesBySource f d body body' i k := by
  induction hbody generalizing i k with
  | done => exact .inl h
  | text hrest ih =>
    obtain ⟨j, htext, hrest⟩ := derives_text.1 h
    rcases ih hrest with hrest | hrest
    · exact .inl (.text htext hrest)
    · exact .inr (.text htext hrest)
  | optional hinner hrest ihInner ihRest =>
    rcases derives_optional.1 h with ⟨j, hinner', hrest'⟩ | hrest'
    · rcases ihInner hinner' with hinner | hinner
      · rcases ihRest hrest' with hrest | hrest
        · exact .inl (.taken hinner hrest)
        · exact .inr (.behind hinner' hrest)
      · exact .inr (.inner hinner hrest')
    · rcases ihRest hrest' with hrest | hrest
      · exact .inl (.skipped hrest)
      · exact .inr (.skipped hrest)
  | @«variable» rule rule' rest rest' hrule hrest ih =>
    obtain ⟨j, ⟨hle, hsize, haccepts⟩, hrest'⟩ := derives_variable.1 h
    rcases ih hrest' with hrest | hrest
    · by_cases haccepts' : acceptsSpan d rule (literal? f rule) i j
      · exact .inl (.variable hle hsize haccepts' hrest)
      · rcases hrule with rfl | ⟨min, max, hrule⟩
        · exact absurd haccepts haccepts'
        · obtain ⟨hmin, hmax⟩ := ((acceptsSpan_spelledOut hrule (hd i j)).1 haccepts).resolve_left
            haccepts'
          exact .inr (.here hrule hle hsize haccepts' hmin hmax hrest')
    · exact .inr (.later hle hsize haccepts hrest)

theorem derives_respelled_iff (hbody : body.Respelled body') :
    Derives f d body' i k ↔ Derives f d body i k ∨ DerivesBySource f d body body' i k := by
  constructor
  · exact Derives.derives_or_derivesBySource hd hbody
  · rintro (h | h)
    · exact h.respelled hd hbody
    · exact h.derives hd

theorem found_eq_iff (count : UInt64) (hbody : body.Respelled body') :
    (compareWith (.ofBody f body) d count).found = (compareWith (.ofBody f body') d count).found ↔
      (DerivesBySource f d body body' 0 d.size → Derives f d body 0 d.size) := by
  have hfound := compareWith_found (d := d) (.ofBody f body) count
  have hfound' := compareWith_found (d := d) (.ofBody f body') count
  rw [exactOutcome_isMatch] at hfound hfound'
  rw [derives_respelled_iff hd hbody] at hfound'
  constructor
  · intro heq hsource
    exact hfound.1 (heq.trans (hfound'.2 (.inr hsource)))
  · intro himp
    have hor : Derives f d body 0 d.size ∨ DerivesBySource f d body body' 0 d.size ↔
        Derives f d body 0 d.size := or_iff_left_of_imp himp
    rw [hor] at hfound'
    rw [Bool.eq_iff_iff, ← Bool.not_eq_false, ← Bool.not_eq_false, hfound, hfound']

theorem occursIn_eq_iff (hbody : body.Respelled body') :
    occursIn (.ofBody f body) d = occursIn (.ofBody f body') d ↔
      ∀ i j, i ≤ j → j ≤ d.size → 0 < d.size → DerivesBySource f d body body' i j →
        ∃ i' j', i' ≤ j' ∧ j' ≤ d.size ∧ Derives f d body i' j' := by
  rw [Bool.eq_iff_iff, occursIn_ofBody, occursIn_ofBody]
  constructor
  · intro hiff i j hle hj hsize hsource
    exact (hiff.2 ⟨hsize, i, j, hle, hj, hsource.derives hd⟩).2
  · intro himp
    constructor
    · rintro ⟨hsize, i, j, hle, hj, hderives⟩
      exact ⟨hsize, i, j, hle, hj, hderives.respelled hd hbody⟩
    · rintro ⟨hsize, i, j, hle, hj, hderives⟩
      refine ⟨hsize, ?_⟩
      rcases (derives_respelled_iff hd hbody).1 hderives with hderives | hsource
      · exact ⟨i, j, hle, hj, hderives⟩
      · exact himp i j hle hj hsize hsource

end

/-- Spelling out counts tells for spans that are within their limits by their source alone. -/
theorem respelled_agree_iff [Engine] [LawfulEngine] (m : Matcher)
    {template template' : List Char} (text : List Char) (hcompile : (m.compile template).isOk)
    (hrespelled : Respelled (stripComments template) (stripComments template')) :
    let f := m.settings.folding
    let d := m.prepare text
    ∃ body body', Body.parse (stripComments template) = .ok body ∧
      Body.parse (stripComments template') = .ok body' ∧ body.Respelled body' ∧
      (∃ difference difference', m.compare template text = .ok difference ∧
        m.compare template' text = .ok difference' ∧
        (difference.found = difference'.found ↔
          (DerivesBySource f d body body' 0 d.size → Derives f d body 0 d.size))) ∧
      (∃ occurs occurs', m.isWithin template text = .ok occurs ∧
        m.isWithin template' text = .ok occurs' ∧
        (occurs = occurs' ↔
          ∀ i j, i ≤ j → j ≤ d.size → 0 < d.size → DerivesBySource f d body body' i j →
            ∃ i' j', i' ≤ j' ∧ j' ≤ d.size ∧ Derives f d body i' j')) ∧
      ∀ min max rule rule', VariableRule.SpelledOut min max rule rule' → ∀ i j,
        (LengthLimit.allows ⟨min, some max⟩ (d.normalizedLength i j) =
            (rule'.accepts (d.normalizedSpan i j) ||
              rule'.accepts (collapseWhitespace (d.sourceSpan i j))) ↔
          (min ≤ sourceLength d i j → sourceLength d i j ≤ max →
            min ≤ d.normalizedLength i j ∧ d.normalizedLength i j ≤ max)) := by
  intro f d
  have hd (i j : Nat) : d.normalizedLength i j = (d.normalizedSpan i j).length :=
    Document.normalizedLength_ofSource
  obtain ⟨body, hparse, -, hprogram⟩ := Matcher.compile_isOk hcompile
  obtain ⟨body', hparse', hbody⟩ := Body.parse_respelled hrespelled hparse
  have hprogram' : m.compile template' = .ok (.ofBody f body') := by
    rw [Matcher.compile, Program.compile, hparse']
    rfl
  refine ⟨body, body', hparse, hparse', hbody,
    ⟨m.comparePrepared (.ofBody f body) d, m.comparePrepared (.ofBody f body') d, ?_, ?_,
      found_eq_iff hd m.settings.contextTokens hbody⟩,
    ⟨occursIn (.ofBody f body) d, occursIn (.ofBody f body') d, ?_, ?_, occursIn_eq_iff hd hbody⟩,
    fun min max rule rule' hrule i j => allows_eq_accepts_iff hrule (hd i j)⟩
  · rw [Matcher.compare, hprogram]
  · rw [Matcher.compare, hprogram']
  · rw [Matcher.isWithin, hprogram]
  · rw [Matcher.isWithin, hprogram']

theorem respelled_four_characters :
    Respelled (stripComments "<<var;name=v;match=.\x7b4,4\x7d>>".toList)
      (stripComments "<<var;name=v;match=(?s:.)\x7b4,4\x7d>>".toList) := by
  have hpieces : pieces (stripComments "<<var;name=v;match=.\x7b4,4\x7d>>".toList) =
      ([.rule "var;name=v;match=.\x7b4,4\x7d".toList 1], none) := by decide +kernel
  have hpieces' : pieces (stripComments "<<var;name=v;match=(?s:.)\x7b4,4\x7d>>".toList) =
      ([.rule "var;name=v;match=(?s:.)\x7b4,4\x7d".toList 1], none) := by decide +kernel
  rw [Respelled, hpieces, hpieces']
  refine ⟨.cons (.rule (.inr ?_) 1) .nil, rfl⟩
  exact @FieldSpelledOut.intro _ _ ["var".toList, "name=v".toList, "match=.\x7b4,4\x7d".toList]
    ["var".toList, "name=v".toList, "match=(?s:.)\x7b4,4\x7d".toList] [("name".toList, "v".toList)]
    [] 4 4 (by decide +kernel) (by decide +kernel) rfl (by decide +kernel) (by decide +kernel)

theorem respelled_agree_iff_four_characters :
    let m : Matcher := {}
    let template := "<<var;name=v;match=.\x7b4,4\x7d>>".toList
    let template' := "<<var;name=v;match=(?s:.)\x7b4,4\x7d>>".toList
    let d := m.prepare "a, b".toList
    (m.compile template).isOk ∧ Respelled (stripComments template) (stripComments template') ∧
      ∃ body body', Body.parse (stripComments template) = .ok body ∧
        Body.parse (stripComments template') = .ok body' ∧
        DerivesBySource {} d body body' 0 d.size ∧ ¬ Derives {} d body 0 d.size := by
  intro m template template' d
  have hok : (m.compile template).isOk := by decide +kernel
  obtain ⟨body, body', hparse, hparse', -,
      ⟨difference, difference', hcompare, hcompare', hiff⟩, -⟩ :=
    respelled_agree_iff m "a, b".toList hok respelled_four_characters
  have hfound : (m.compare template "a, b".toList).toOption.any (·.found) = true := by
    decide +kernel
  have hfound' : (m.compare template' "a, b".toList).toOption.any (·.found) = false := by
    decide +kernel
  rw [hcompare] at hfound
  rw [hcompare'] at hfound'
  have hne : difference.found ≠ difference'.found := by
    intro heq
    exact Bool.false_ne_true (hfound'.symm.trans (heq.symm.trans hfound))
  exact ⟨hok, respelled_four_characters, body, body', hparse, hparse',
    Classical.not_imp.1 (mt hiff.2 hne)⟩

/-- The two spellings are not interchangeable. -/
theorem respelled_templates_disagree :
    ¬ ∀ (m : Matcher) (template template' text : List Char), (m.compile template).isOk →
      Respelled (stripComments template) (stripComments template') →
      (m.compare template text).toOption.map (·.found) =
          (m.compare template' text).toOption.map (·.found) ∧
        (m.isWithin template text).toOption = (m.isWithin template' text).toOption := by
  intro h
  have hok : (Matcher.compile {} "<<var;name=v;match=.\x7b4,4\x7d>>".toList).isOk := by
    decide +kernel
  have hwithin := (h {} _ _ "a, b".toList hok respelled_four_characters).2
  have hne : (Matcher.isWithin {} "<<var;name=v;match=.\x7b4,4\x7d>>".toList
      "a, b".toList).toOption ≠ (Matcher.isWithin {}
      "<<var;name=v;match=(?s:.)\x7b4,4\x7d>>".toList "a, b".toList).toOption := by
    decide +kernel
  exact hne hwithin

end Licensing.Matching
