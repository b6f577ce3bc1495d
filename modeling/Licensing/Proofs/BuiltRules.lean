import Licensing.Proofs.Respelling

namespace Licensing.Template.VariableRule

open Licensing.Text Licensing.Pattern

section

variable {name defaultText pattern : List Char} {pattern? sample : Option (List Char)} {line : Nat}
  {rule : VariableRule} {min max : Nat} {limit : LengthLimit}

theorem parseWhole_anyText : parseWhole anyText = some .anyText :=
  rfl

theorem shorthand?_append_charsPattern (before : List Char) :
    shorthand? (before ++ charsPattern min max) = none := by
  have hreverse : (before ++ charsPattern min max).reverse =
      '\x7d' :: ((numeral max).reverse ++ ',' :: ((numeral min).reverse ++
        '\x7b' :: (')' :: '.' :: ':' :: 's' :: '?' :: '(' :: before.reverse))) := by
    rw [charsPattern_eq]
    simp
  rw [shorthand?_counts hreverse]
  exact if_neg fun h => absurd h.1 (by simp)

theorem expand_expand (pattern : List Char) :
    expand (expand pattern).1 = ((expand pattern).1, none) := by
  cases hshort : shorthand? pattern with
  | none =>
    have hexpand : expand pattern = (pattern, none) := by rw [expand, hshort]
    rw [hexpand, hexpand]
  | some found =>
    obtain ⟨before, min, max⟩ := found
    have hexpand : (expand pattern).1 = before ++ charsPattern min max := by rw [expand, hshort]
    rw [hexpand, expand, shorthand?_append_charsPattern]

theorem build_inv [Engine] (h : build name defaultText pattern? line sample = .ok rule) :
    isBlank name = false ∧
      (rule.pattern, rule.limit) = pattern?.elim (anyText, some ⟨0, none⟩) expand ∧
      Engine.compile? rule.pattern = some rule.regex := by
  cases pattern? with
  | some pattern =>
    obtain ⟨hname, regex, hregex, rfl⟩ := build_some_inv h
    exact ⟨hname, rfl, hregex⟩
  | none =>
    simp only [build] at h
    split at h
    · cases h
    · rename_i hname
      split at h
      · rename_i hregex
        obtain rfl := Except.ok.inj h
        exact ⟨Bool.eq_false_iff.2 hname, rfl, hregex⟩
      · cases h

/-- A limit comes from a pattern that was not given or is written out for that limit. -/
theorem pattern_of_limit [Engine] (h : build name defaultText pattern? line sample = .ok rule)
    (hlimit : rule.limit = some limit) :
    rule.pattern = anyText ∧ limit = ⟨0, none⟩ ∨
      ∃ min max, rule.pattern = charsPattern min max ∧ limit = ⟨min, some max⟩ := by
  obtain ⟨-, hrule, -⟩ := build_inv h
  rw [hlimit] at hrule
  cases pattern? with
  | none =>
    obtain ⟨hpattern, hnone⟩ := Prod.mk.inj hrule
    exact .inl ⟨hpattern, Option.some.inj hnone⟩
  | some pattern =>
    rw [Option.elim_some, expand] at hrule
    split at hrule
    · rename_i before min max hshort
      obtain ⟨hpattern, hbefore⟩ := Prod.mk.inj hrule
      split at hbefore
      · rename_i hempty
        rw [List.isEmpty_iff.1 hempty, List.nil_append] at hpattern
        exact .inr ⟨min, max, hpattern, Option.some.inj hbefore⟩
      · cases hbefore
    · cases congrArg Prod.snd hrule

/-- What a limit allows is what the pattern matches. -/
theorem allows_eq_matchesIn [Engine] [LawfulEngine]
    (h : build name defaultText pattern? line sample = .ok rule) (hlimit : rule.limit = some limit)
    (s : List Char) :
    limit.allows s.length = Engine.matchesIn rule.regex s := by
  have hparses := rule.parses
  rcases pattern_of_limit h hlimit with ⟨hpattern, rfl⟩ | ⟨min, max, hpattern, rfl⟩
  · rw [hpattern, parseWhole_anyText] at hparses
    rw [← Option.some.inj hparses, LawfulEngine.matchesIn_anyText, LengthLimit.allows]
    simp
  · rw [hpattern] at hparses
    obtain ⟨hle, -, hregex⟩ := parseWhole_charsPattern hparses
    rw [hregex, Bool.eq_iff_iff, LawfulEngine.matchesIn_anyCharacters hle, LengthLimit.allows]
    simp

theorem accepts_eq_matchesIn [Engine] [LawfulEngine]
    (h : build name defaultText pattern? line sample = .ok rule) (s : List Char) :
    rule.accepts s = Engine.matchesIn rule.regex s := by
  rw [accepts]
  split
  · rename_i limit hlimit
    exact allows_eq_matchesIn h hlimit s
  · rfl

theorem min_le_of_limit [Engine] (h : build name defaultText pattern? line sample = .ok rule)
    (hlimit : rule.limit = some limit) (hmax : limit.max = some max) : limit.min ≤ max := by
  have hparses := rule.parses
  rcases pattern_of_limit h hlimit with ⟨-, rfl⟩ | ⟨min, max', hpattern, rfl⟩
  · cases hmax
  · rw [hpattern] at hparses
    cases hmax
    exact (parseWhole_charsPattern hparses).1

theorem expand_pattern [Engine] (h : build name defaultText pattern? line sample = .ok rule) :
    expand rule.pattern = (rule.pattern, none) := by
  have hpattern := congrArg Prod.fst (build_inv h).2.1
  dsimp only at hpattern
  rw [hpattern]
  cases pattern? with
  | none => rfl
  | some pattern => exact expand_expand pattern

theorem exists_build_pattern [Engine] (h : build name defaultText pattern? line sample = .ok rule) :
    ∃ rule', build name defaultText (some rule.pattern) line sample = .ok rule' ∧
      rule'.pattern = rule.pattern ∧ rule'.regex = rule.regex := by
  have hexpand := expand_pattern h
  obtain ⟨hname, -, hcompile⟩ := build_inv h
  have hregex : Engine.compile? (expand rule.pattern).1 = some rule.regex := by
    rw [hexpand]
    exact hcompile
  exact ⟨_, build_some_of_compile? hname hregex, congrArg Prod.fst hexpand, rfl⟩

/-- A rule accepts what its own pattern, in any case and bound to both ends, matches. -/
theorem accepts_of_build [Engine] [LawfulEngine]
    (h : build name defaultText pattern? line sample = .ok rule) :
    (∃ regex, Engine.compile? rule.pattern = some regex ∧
        ∀ s, rule.accepts s = Engine.matchesIn regex s) ∧
      (∀ limit max, rule.limit = some limit → limit.max = some max → limit.min ≤ max) ∧
      ∃ rule', build name defaultText (some rule.pattern) line sample = .ok rule' ∧
        rule'.pattern = rule.pattern ∧ ∀ s, rule'.accepts s = rule.accepts s := by
  refine ⟨⟨rule.regex, (build_inv h).2.2, accepts_eq_matchesIn h⟩, ?_, ?_⟩
  · intro limit max hlimit hmax
    exact min_le_of_limit h hlimit hmax
  · obtain ⟨rule', hbuild, hpattern, hregex⟩ := exists_build_pattern h
    refine ⟨rule', hbuild, hpattern, ?_⟩
    intro s
    rw [accepts_eq_matchesIn hbuild, accepts_eq_matchesIn h, hregex]

theorem accepts_of_build_leading_zeros :
    ∃ rule, build "v".toList [] (some ".\x7b002,3\x7d".toList) 1 = .ok rule ∧
      rule.limit = some ⟨2, some 3⟩ ∧ rule.pattern = "(?s:.)\x7b2,3\x7d".toList ∧
      ∃ regex, Engine.compile? rule.pattern = some regex ∧
        Engine.matchesIn regex "é\n".toList = true ∧
        Engine.matchesIn regex "é".toList = false := by
  obtain ⟨rule, hrule, htest⟩ : ∃ rule,
      build "v".toList [] (some ".\x7b002,3\x7d".toList) 1 = .ok rule ∧
        (rule.limit = some ⟨2, some 3⟩ ∧ rule.pattern = "(?s:.)\x7b2,3\x7d".toList) := by
    refine ⟨_, build_some_of_compile? (by decide) rfl, ?_⟩
    decide +kernel
  obtain ⟨⟨regex, hregex, haccepts⟩, -⟩ := accepts_of_build hrule
  refine ⟨rule, hrule, htest.1, htest.2, regex, hregex, ?_, ?_⟩
  · rw [← haccepts, accepts, htest.1]
    rfl
  · rw [← haccepts, accepts, htest.1]
    rfl

end

end Licensing.Template.VariableRule
