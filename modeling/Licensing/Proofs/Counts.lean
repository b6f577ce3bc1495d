import Licensing.Proofs.AnyCharacters
import Licensing.Template.Rule

namespace Licensing.Pattern

open Licensing.Unicode Licensing.Template.VariableRule

def numeral (n : Nat) : List Char :=
  (toString n).toList

section

variable {f : Flags} {n min max : Nat} {s rest : List Char} {c : Char}

theorem numeral_eq_toDigits (n : Nat) : numeral n = Nat.toDigits 10 n := by
  rw [numeral, Nat.toString_eq_ofList_toDigits, String.toList_ofList]

theorem numeral_ne_nil (n : Nat) : numeral n ≠ [] := by
  rw [numeral_eq_toDigits]
  exact Nat.toDigits_ne_nil

theorem isAsciiDigit_of_mem_numeral (h : c ∈ numeral n) : isAsciiDigit c := by
  rw [numeral_eq_toDigits] at h
  have hdigit := Nat.isDigit_of_mem_toDigits (by decide) (by decide) h
  simpa [Char.isDigit, isAsciiDigit, Char.le_def] using hdigit

theorem decimalValue_numeral (n : Nat) : decimalValue (numeral n) = n := by
  rw [numeral_eq_toDigits]
  exact Nat.ofDigitChars_ten_toDigits

theorem isWhitespace_of_isAsciiDigit (h : isAsciiDigit c) : Text.isWhitespace c = false := by
  simp only [isAsciiDigit, Char.le_def, UInt32.le_iff_toNat_le, Bool.and_eq_true,
    decide_eq_true_eq] at h
  have hbounds : 48 ≤ c.toNat ∧ c.toNat ≤ 57 := h
  simp only [Text.isWhitespace, Bool.or_eq_false_iff, Bool.and_eq_false_iff,
    decide_eq_false_iff_not]
  omega

theorem dropWhile_isWhitespace_numeral :
    (numeral n ++ rest).dropWhile Text.isWhitespace = numeral n ++ rest := by
  cases hdigits : numeral n with
  | nil => exact absurd hdigits (numeral_ne_nil n)
  | cons d ds =>
    have hd : d ∈ numeral n := hdigits ▸ List.mem_cons_self
    rw [List.cons_append, List.dropWhile_cons_of_neg]
    rw [isWhitespace_of_isAsciiDigit (isAsciiDigit_of_mem_numeral hd)]
    exact Bool.false_ne_true

theorem digitsFrom_append (hspace : f.ignoreSpace = false) (hc : isAsciiDigit c = false)
    {ds : List Char} (hds : ∀ d ∈ ds, isAsciiDigit d) (digits : List Char) :
    digitsFrom f false digits (ds ++ c :: rest) = (digits.reverse ++ ds, c :: rest) := by
  induction ds generalizing digits with
  | nil => simp [digitsFrom, hc, hspace]
  | cons d ds ih =>
    have hd := hds d List.mem_cons_self
    have hrest := ih (fun d hd => hds d (List.mem_cons_of_mem _ hd)) (d :: digits)
    simp [digitsFrom, hd, hrest]

theorem count_numeral (hspace : f.ignoreSpace = false) (hc : isAsciiDigit c = false)
    (hc' : Text.isWhitespace c = false) :
    count f (numeral n ++ c :: rest) =
      (some (if n < UInt32.size then some n else none), c :: rest) := by
  have hdigits : digitsFrom f false [] (numeral n ++ c :: rest) = (numeral n, c :: rest) :=
    digitsFrom_append hspace hc (fun d hd => isAsciiDigit_of_mem_numeral hd) []
  rw [count, dropWhile_isWhitespace_numeral, hdigits]
  simp [hc', decimalValue_numeral, numeral_ne_nil]

theorem bounds_numerals (hspace : f.ignoreSpace = false) :
    bounds f (numeral min ++ ',' :: (numeral max ++ '\x7d' :: rest)) =
      if min < UInt32.size ∧ max < UInt32.size then some ((min, some max), '\x7d' :: rest)
      else none := by
  have hmin : count f (numeral min ++ ',' :: (numeral max ++ '\x7d' :: rest)) = _ :=
    count_numeral hspace rfl rfl
  have hmax : count f (numeral max ++ '\x7d' :: rest) = _ := count_numeral hspace rfl rfl
  obtain ⟨d, ds, hds⟩ := List.exists_cons_of_ne_nil (numeral_ne_nil max)
  have hd : d ≠ '\x7d' := by
    rintro rfl
    have hdigit := isAsciiDigit_of_mem_numeral (n := max) (hds ▸ List.mem_cons_self)
    exact absurd hdigit (by decide)
  rw [bounds, hmin]
  simp only [Flags.skip, hspace]
  rw [if_neg Bool.false_ne_true]
  rw [hds, List.cons_append] at hmax ⊢
  split
  · rename_i heq
    exact absurd (List.head_eq_of_cons_eq heq) hd
  · rw [hmax]
    by_cases hmin : min < UInt32.size <;> by_cases hmax : max < UInt32.size <;> simp [hmin, hmax]

theorem counts_numerals (hspace : f.ignoreSpace = false) :
    counts f (numeral min ++ ',' :: (numeral max ++ '\x7d' :: rest)) =
      if min < UInt32.size ∧ max < UInt32.size ∧ min ≤ max then
        some ((min, some max), skipLazy rest)
      else none := by
  rw [counts, Flags.skip, hspace, if_neg Bool.false_ne_true, bounds_numerals hspace]
  by_cases h : min < UInt32.size ∧ max < UInt32.size
  · rw [if_pos h]
    simp only [Option.bind_eq_bind, Option.bind_some, Option.all_some, decide_eq_true_eq, h,
      true_and, Flags.skip, hspace]
    rfl
  · have h' : ¬ (min < UInt32.size ∧ max < UInt32.size ∧ min ≤ max) :=
      fun h' => h ⟨h'.1, h'.2.1⟩
    rw [if_neg h, if_neg h']
    rfl

def Reader.beforeCounts (part : Part) : Reader :=
  { parts := [part]
    groups := [⟨[⟨.atom (.look .textStart), 0, true⟩], [], { ignoreCase := true }⟩]
    flags := { ignoreCase := true } }

theorem readParts_group (fuel : Nat) (s : List Char) :
    readParts (fuel + 6) { flags := { ignoreCase := true } }
      ('^' :: '(' :: '?' :: ':' :: '(' :: '?' :: 's' :: ':' :: '.' :: ')' :: s) =
    readParts (fuel + 1) (.beforeCounts ⟨.atom (.char .all), 1, true⟩) s := by
  rfl

theorem readParts_dot (fuel : Nat) (s : List Char) :
    readParts (fuel + 4) { flags := { ignoreCase := true } }
      ('^' :: '(' :: '?' :: ':' :: '.' :: s) =
    readParts (fuel + 1)
      (.beforeCounts ⟨.atom (.char (.complement (.singleton '\n'))), 0, true⟩) s := by
  rfl

theorem readParts_brace (fuel : Nat) (part : Part) (s : List Char) :
    readParts (fuel + 1) (.beforeCounts part) ('\x7b' :: s) =
      (readPart (.beforeCounts part) '\x7b' s).bind fun next => readParts fuel next.1 next.2 := by
  rfl

theorem readPart_counts {r : Reader} (hspace : r.flags.ignoreSpace = false) :
    readPart r '\x7b' (numeral min ++ ',' :: (numeral max ++ '\x7d' :: rest)) =
      if min < UInt32.size ∧ max < UInt32.size ∧ min ≤ max then
        (r.repeatLast min (some max)).map (·, skipLazy rest)
      else none := by
  rw [readPart, counts_numerals hspace]
  split
  · simp only [Option.bind_eq_bind, Option.bind_some]
    cases r.repeatLast min (some max) <;> rfl
  · rfl

theorem charsPattern_eq : charsPattern min max =
    '(' :: '?' :: 's' :: ':' :: '.' :: ')' :: '\x7b' ::
      (numeral min ++ ',' :: (numeral max ++ ['\x7d'])) := by
  have hgroup : "(?s:.)\x7b".toList = ['(', '?', 's', ':', '.', ')', '\x7b'] := by decide
  unfold charsPattern numeral
  rw [hgroup]
  generalize (toString min).toList = digits
  generalize (toString max).toList = digits'
  simp only [List.append_assoc, List.cons_append, List.nil_append]

theorem readParts_charsPattern (fuel : Nat) :
    readParts (fuel + 9) { flags := { ignoreCase := true } }
      (['^', '(', '?', ':'] ++ charsPattern min max ++ [')', '$']) =
    if min < UInt32.size ∧ max < UInt32.size ∧ min ≤ max then
      some ⟨.anyCharacters min max, 4, true⟩
    else none := by
  have hinput : ['^', '(', '?', ':'] ++ charsPattern min max ++ [')', '$'] =
      '^' :: '(' :: '?' :: ':' :: '(' :: '?' :: 's' :: ':' :: '.' :: ')' :: '\x7b' ::
        (numeral min ++ ',' :: (numeral max ++ '\x7d' :: [')', '$'])) := by
    rw [charsPattern_eq]
    simp only [List.append_assoc, List.cons_append, List.nil_append]
  rw [hinput, readParts_group, readParts_brace, readPart_counts rfl]
  split
  · rfl
  · rfl

theorem parseWhole_charsPattern {regex : Regex Atom}
    (h : parseWhole (charsPattern min max) = some regex) :
    min ≤ max ∧ max < UInt32.size ∧ regex = .anyCharacters min max := by
  have hfuel : 9 ≤ (['^', '(', '?', ':'] ++ charsPattern min max ++ [')', '$']).length + 1 := by
    rw [charsPattern_eq]
    simp only [List.length_append, List.length_cons]
    omega
  obtain ⟨fuel, hfuel⟩ := Nat.exists_eq_add_of_le' hfuel
  rw [parseWhole, parse, hfuel, readParts_charsPattern] at h
  split at h
  · rename_i part hpart
    split at hpart
    · rename_i hcounts
      obtain rfl := Option.some.inj hpart
      split at h
      · exact ⟨hcounts.2.2, hcounts.2.1, (Option.some.inj h).symm⟩
      · cases h
    · cases hpart
  · cases h

end

end Licensing.Pattern

namespace Licensing.Template.VariableRule

open Licensing.Unicode Licensing.Pattern

def dotPattern (min max : Nat) : List Char :=
  '.' :: '\x7b' :: (numeral min ++ ',' :: (numeral max ++ ['\x7d']))

section

variable {min max : Nat}

theorem isDigit_of_mem_numeral {n : Nat} {c : Char} (h : c ∈ (numeral n).reverse) : isDigit c := by
  have hdigit := isAsciiDigit_of_mem_numeral (List.mem_reverse.1 h)
  have hlt : c.toNat < 128 := by
    rw [isAsciiDigit, Bool.and_eq_true, decide_eq_true_eq, decide_eq_true_eq] at hdigit
    exact Nat.lt_of_le_of_lt hdigit.2 (by decide)
  rw [isDigit, if_pos hlt, hdigit]

theorem le_maxCount {n : Nat} (h : n < UInt32.size) : n ≤ maxCount :=
  Nat.le_trans (Nat.le_of_lt h) (by decide)

theorem count?_numeral (n : Nat) :
    count? (numeral n) = if n ≤ maxCount then some n else none := by
  have hdigits : (numeral n).all isAsciiDigit :=
    List.all_eq_true.2 fun c hc => isAsciiDigit_of_mem_numeral hc
  simp [count?, hdigits, numeral_ne_nil, decimalValue_numeral]

theorem shorthand?_counts {pattern rest : List Char}
    (h : pattern.reverse = '\x7d' :: ((numeral max).reverse ++ ',' :: ((numeral min).reverse ++
      '\x7b' :: rest))) :
    shorthand? pattern =
      if rest.head? = some '.' ∧ ¬ endsWithEscape rest.tail.reverse ∧ min ≤ maxCount ∧
          max ≤ maxCount then
        some (rest.tail.reverse, min, max)
      else none := by
  have hdrop (n : Nat) (c : Char) (hc : isDigit c = false) (rest : List Char) :
      ((numeral n).reverse ++ c :: rest).dropWhile isDigit = c :: rest := by
    rw [List.dropWhile_append_of_pos fun c hc => isDigit_of_mem_numeral hc]
    exact List.dropWhile_cons_of_neg (ne_true_of_eq_false hc)
  have htake (n : Nat) (c : Char) (hc : isDigit c = false) (rest : List Char) :
      ((numeral n).reverse ++ c :: rest).takeWhile isDigit = (numeral n).reverse := by
    rw [List.takeWhile_append_of_pos fun c hc => isDigit_of_mem_numeral hc,
      List.takeWhile_cons_of_neg (ne_true_of_eq_false hc), List.append_nil]
  simp only [shorthand?, h, hdrop max ',' rfl, hdrop min '\x7b' rfl, htake max ',' rfl,
    htake min '\x7b' rfl, List.reverse_reverse, count?_numeral]
  cases rest with
  | nil => rfl
  | cons c before =>
    by_cases hc : c = '.'
    · subst hc
      by_cases hmin : min ≤ maxCount <;> by_cases hmax : max ≤ maxCount <;>
        cases hescape : endsWithEscape before.reverse <;> simp [hmin, hmax, hescape]
    · split
      · rename_i heq
        exact absurd (List.head_eq_of_cons_eq (List.tail_eq_of_cons_eq heq)) hc
      · rw [if_neg fun h => hc (Option.some.inj h.1)]

theorem expand_dotPattern :
    expand (dotPattern min max) =
      if min ≤ maxCount ∧ max ≤ maxCount then (charsPattern min max, some ⟨min, some max⟩)
      else (dotPattern min max, none) := by
  have hreverse : (dotPattern min max).reverse =
      '\x7d' :: ((numeral max).reverse ++ ',' :: ((numeral min).reverse ++ '\x7b' :: ['.'])) := by
    simp [dotPattern]
  rw [expand, shorthand?_counts hreverse]
  by_cases h : min ≤ maxCount ∧ max ≤ maxCount
  · rw [if_pos h, if_pos ⟨rfl, Bool.false_ne_true, h⟩]
    rfl
  · rw [if_neg h, if_neg fun h' => h h'.2.2]

theorem expand_charsPattern : expand (charsPattern min max) = (charsPattern min max, none) := by
  have hreverse : (charsPattern min max).reverse =
      '\x7d' :: ((numeral max).reverse ++ ',' :: ((numeral min).reverse ++
        '\x7b' :: [')', '.', ':', 's', '?', '('])) := by
    rw [charsPattern_eq]
    simp
  rw [expand, shorthand?_counts hreverse]
  rfl

theorem parseWhole_dotPattern_eq_none (h : ¬ (min < UInt32.size ∧ max < UInt32.size ∧ min ≤ max)) :
    parseWhole (dotPattern min max) = none := by
  have hinput : ['^', '(', '?', ':'] ++ dotPattern min max ++ [')', '$'] =
      '^' :: '(' :: '?' :: ':' :: '.' :: '\x7b' ::
        (numeral min ++ ',' :: (numeral max ++ '\x7d' :: [')', '$'])) := by
    simp [dotPattern]
  have hfuel : 5 ≤ (['^', '(', '?', ':'] ++ dotPattern min max ++ [')', '$']).length + 1 := by
    simp only [List.length_append, List.length_cons]
    omega
  obtain ⟨fuel, hfuel⟩ := Nat.exists_eq_add_of_le' hfuel
  rw [parseWhole, parse, hfuel, hinput, readParts_dot, readParts_brace, readPart_counts rfl,
    if_neg h]
  rfl

end

end Licensing.Template.VariableRule
