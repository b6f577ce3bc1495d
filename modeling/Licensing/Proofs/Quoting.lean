import Licensing.Proofs.Respelling
import Licensing.Template.Written

namespace Licensing.Template

open Licensing.Text Licensing.Unicode Licensing.Pattern

section

variable {value u v rest : List Char} {c : Char}

theorem head?_escapeQuotes (value : List Char) : (escapeQuotes value).head? ≠ some '"' := by
  cases value with
  | nil => simp [escapeQuotes]
  | cons c cs =>
    simp only [escapeQuotes]
    split
    · simp
    · rename_i hc
      simpa using hc

theorem unescapeQuotes_cons (h : v.head? ≠ some '"') :
    unescapeQuotes (c :: v) = c :: unescapeQuotes v := by
  rw [unescapeQuotes.eq_def]
  split
  · rename_i heq
    cases heq
    exact absurd rfl h
  · rename_i heq
    cases heq
    rfl
  · rename_i heq
    cases heq

theorem unescapeQuotes_escapeQuotes (value : List Char) :
    unescapeQuotes (escapeQuotes value) = value := by
  induction value with
  | nil => rfl
  | cons c cs ih =>
    simp only [escapeQuotes]
    split
    · rename_i hc
      rw [unescapeQuotes, ih, hc]
    · rw [unescapeQuotes_cons (head?_escapeQuotes cs), ih]

def staysQuoted (escaped : Bool) : List Char → Bool
  | [] => !escaped
  | c :: cs => if escaped then staysQuoted false cs else c ≠ '"' && staysQuoted (c = '\\') cs

theorem endsWithEscape_concat (s : List Char) (c : Char) :
    VariableRule.endsWithEscape (s ++ [c]) =
      (decide (c = '\\') && !VariableRule.endsWithEscape s) := by
  simp only [VariableRule.endsWithEscape, List.reverse_append, List.reverse_singleton,
    List.singleton_append, List.takeWhile_cons]
  by_cases hc : c = '\\'
  · simp only [hc, decide_true, ↓reduceIte, List.length_cons, Bool.true_and]
    rw [← decide_not, decide_eq_decide]
    omega
  · simp [hc]

theorem staysQuoted_escapeQuotes (before : List Char)
    (h : ∀ i ≤ value.length, value[i]?.all (· = '"') →
      VariableRule.endsWithEscape (before ++ value.take i) = false) :
    staysQuoted (VariableRule.endsWithEscape before) (escapeQuotes value) := by
  induction value generalizing before with
  | nil =>
    have hbefore := h 0 (Nat.le_refl 0) rfl
    rw [List.take_nil, List.append_nil] at hbefore
    simp [escapeQuotes, staysQuoted, hbefore]
  | cons c cs ih =>
    have hrest : staysQuoted (VariableRule.endsWithEscape (before ++ [c])) (escapeQuotes cs) := by
      refine ih (before ++ [c]) fun i hi hquote => ?_
      have hlater := h (i + 1) (Nat.succ_le_succ hi) (by rwa [List.getElem?_cons_succ])
      rwa [List.take_succ_cons, List.append_cons] at hlater
    rw [endsWithEscape_concat] at hrest
    simp only [escapeQuotes]
    split
    · rename_i hc
      have hbefore := h 0 (Nat.zero_le _) (by simp [hc])
      rw [List.take_zero, List.append_nil] at hbefore
      rw [hc] at hrest
      simpa [staysQuoted, hbefore] using hrest
    · rename_i hc
      cases hescape : VariableRule.endsWithEscape before with
      | true => simpa [staysQuoted, hescape] using hrest
      | false => simpa [staysQuoted, hescape, hc] using hrest

theorem BackslashesPaired.staysQuoted (h : BackslashesPaired value) :
    Template.staysQuoted false (escapeQuotes value) :=
  staysQuoted_escapeQuotes [] h

end

def IsName (name : List Char) : Prop :=
  name ≠ [] ∧ ∀ c ∈ name, isAsciiLetter c

instance (name : List Char) : Decidable (IsName name) :=
  decidable_of_iff (name ≠ [] ∧ name.all isAsciiLetter) <| by
    rw [IsName, List.all_eq_true]

/-- A field that is read back: a key in lower case, and a value whose backslashes are paired. -/
structure IsField (field : List Char × List Char) : Prop where
  isName : IsName field.1
  lowercase : field.1.map lowercaseAscii = field.1
  paired : BackslashesPaired field.2

theorem IsName.ne {name : List Char} {c mark : Char} (h : IsName name) (hc : c ∈ name)
    (hmark : isAsciiLetter mark = false) : c ≠ mark := by
  rintro rfl
  exact Bool.false_ne_true (hmark.symm.trans (h.2 c hc))

theorem isWhitespace_of_isAsciiLetter {c : Char} (h : isAsciiLetter c) :
    isWhitespace c = false := by
  simp only [isAsciiLetter, Char.le_def, UInt32.le_iff_toNat_le, Bool.or_eq_true, Bool.and_eq_true,
    decide_eq_true_eq] at h
  have hbounds : 97 ≤ c.toNat ∧ c.toNat ≤ 122 ∨ 65 ≤ c.toNat ∧ c.toNat ≤ 90 := h
  simp only [isWhitespace, Bool.or_eq_false_iff, Bool.and_eq_false_iff, decide_eq_false_iff_not]
  omega

theorem dropWhile_isWhitespace_of_head? {c : Char} {s : List Char} (h : s.head? = some c)
    (hc : isWhitespace c = false) : s.dropWhile isWhitespace = s := by
  obtain ⟨rest, rfl⟩ := List.head?_eq_some_iff.1 h
  exact List.dropWhile_cons_of_neg (Bool.eq_false_iff.1 hc)

theorem trim_eq_self {c d : Char} {s : List Char} (hfirst : s.head? = some c)
    (hlast : s.getLast? = some d) (hc : isWhitespace c = false) (hd : isWhitespace d = false) :
    trim s = s := by
  have hreverse : s.reverse.head? = some d := by rw [List.head?_reverse, hlast]
  rw [trim, trimRight, dropWhile_isWhitespace_of_head? hfirst hc,
    dropWhile_isWhitespace_of_head? hreverse hd, List.reverse_reverse]

theorem IsName.exists_head? {name : List Char} (h : IsName name) (rest : List Char) :
    ∃ c, (name ++ rest).head? = some c ∧ isWhitespace c = false := by
  obtain ⟨hne, hletters⟩ := h
  obtain ⟨c, cs, rfl⟩ := List.exists_cons_of_ne_nil hne
  exact ⟨c, rfl, isWhitespace_of_isAsciiLetter (hletters c List.mem_cons_self)⟩

theorem trim_of_isName {name : List Char} (h : IsName name) : trim name = name := by
  obtain ⟨c, hfirst, hc⟩ := h.exists_head? []
  rw [List.append_nil] at hfirst
  exact trim_eq_self hfirst (List.getLast?_eq_some_getLast h.1) hc
    (isWhitespace_of_isAsciiLetter (h.2 _ (List.getLast_mem h.1)))

/-- A text that the search for the end of a rule passes over, outside quotes. -/
def Passed (u : List Char) : Prop :=
  ∀ rest, takeBody false false (u ++ rest) =
    (takeBody false false rest).map fun found => (u ++ found.1, found.2)

def InField (u : List Char) : Prop :=
  ∀ field rest, fieldsFrom field false false (u ++ rest) =
    fieldsFrom (u.reverse ++ field) false false rest

section

variable {u v rest value : List Char} {escaped : Bool}

theorem Passed.append (hu : Passed u) (hv : Passed v) : Passed (u ++ v) := by
  intro rest
  rw [List.append_assoc, hu, hv, Option.map_map]
  simp [Function.comp_def]

theorem InField.append (hu : InField u) (hv : InField v) : InField (u ++ v) := by
  intro field rest
  rw [List.append_assoc, hu, hv, List.reverse_append, List.append_assoc]

theorem passed_of_ne (h : ∀ c ∈ u, c ≠ '"' ∧ c ≠ '>') : Passed u := by
  intro rest
  induction u with
  | nil => simp
  | cons c cs ih =>
    obtain ⟨hquote, hend⟩ := h c List.mem_cons_self
    simp [takeBody, hquote, hend, ih fun d hd => h d (List.mem_cons_of_mem c hd),
      Function.comp_def]

theorem inField_of_ne (h : ∀ c ∈ u, c ≠ '"' ∧ c ≠ ';') : InField u := by
  intro field rest
  induction u generalizing field with
  | nil => simp
  | cons c cs ih =>
    obtain ⟨hquote, hend⟩ := h c List.mem_cons_self
    simp [fieldsFrom, hquote, hend, ih fun d hd => h d (List.mem_cons_of_mem c hd)]

theorem staysQuoted_cons {c : Char} (h : staysQuoted escaped (c :: u)) :
    (escaped ∨ c ≠ '"') ∧ staysQuoted (!escaped && c = '\\') u := by
  cases escaped with
  | true => exact ⟨.inl rfl, h⟩
  | false =>
    simp only [staysQuoted, Bool.false_eq_true, ↓reduceIte, Bool.and_eq_true,
      decide_eq_true_eq] at h
    exact ⟨.inr h.1, h.2⟩

theorem takeBody_inQuote {c : Char} (hc : escaped ∨ c ≠ '"') (rest : List Char) :
    takeBody true escaped (c :: rest) =
      (takeBody true (!escaped && c = '\\') rest).map fun found => (c :: found.1, found.2) := by
  cases escaped with
  | true => simp [takeBody]
  | false => by_cases hescape : c = '\\' <;> simp_all [takeBody]

theorem fieldsFrom_inQuote {c : Char} (hc : escaped ∨ c ≠ '"') (field rest : List Char) :
    fieldsFrom field true escaped (c :: rest) =
      fieldsFrom (c :: field) true (!escaped && c = '\\') rest := by
  cases escaped with
  | true => simp [fieldsFrom]
  | false => by_cases hescape : c = '\\' <;> simp_all [fieldsFrom]

theorem takeBody_quoted (h : staysQuoted escaped u) (rest : List Char) :
    takeBody true escaped (u ++ '"' :: rest) =
      (takeBody false false rest).map fun found => (u ++ '"' :: found.1, found.2) := by
  induction u generalizing escaped with
  | nil =>
    cases escaped with
    | true => exact absurd h Bool.false_ne_true
    | false => simp [takeBody]
  | cons c cs ih =>
    obtain ⟨hc, hcs⟩ := staysQuoted_cons h
    rw [List.cons_append, takeBody_inQuote hc, ih hcs, Option.map_map]
    rfl

theorem fieldsFrom_quoted (h : staysQuoted escaped u) (field rest : List Char) :
    fieldsFrom field true escaped (u ++ '"' :: rest) =
      fieldsFrom ('"' :: u.reverse ++ field) false false rest := by
  induction u generalizing escaped field with
  | nil =>
    cases escaped with
    | true => exact absurd h Bool.false_ne_true
    | false => simp [fieldsFrom]
  | cons c cs ih =>
    obtain ⟨hc, hcs⟩ := staysQuoted_cons h
    rw [List.cons_append, fieldsFrom_inQuote hc, ih hcs, List.reverse_cons, ← List.cons_append,
      List.append_assoc, List.singleton_append]

theorem passed_quoted (h : staysQuoted false u) : Passed ('"' :: u ++ ['"']) := by
  intro rest
  simp [takeBody, takeBody_quoted h, Function.comp_def]

theorem inField_quoted (h : staysQuoted false u) : InField ('"' :: u ++ ['"']) := by
  intro field rest
  simp [fieldsFrom, fieldsFrom_quoted h]

end

section

variable {kind name : List Char} {field : List Char × List Char}
  {fields : List (List Char × List Char)}

theorem writeField_eq (field : List Char × List Char) :
    writeField field = field.1 ++ ['='] ++ ('"' :: escapeQuotes field.2 ++ ['"']) := by
  simp [writeField]

theorem IsName.passed (h : IsName name) : Passed name :=
  passed_of_ne fun _ hc => ⟨h.ne hc rfl, h.ne hc rfl⟩

theorem IsName.inField (h : IsName name) : InField name :=
  inField_of_ne fun _ hc => ⟨h.ne hc rfl, h.ne hc rfl⟩

theorem IsField.passed (h : IsField field) : Passed (writeField field) := by
  rw [writeField_eq]
  exact (h.isName.passed.append (passed_of_ne (by simp))).append
    (passed_quoted h.paired.staysQuoted)

theorem IsField.inField (h : IsField field) : InField (writeField field) := by
  rw [writeField_eq]
  exact (h.isName.inField.append (inField_of_ne (by simp))).append
    (inField_quoted h.paired.staysQuoted)

theorem passed_writeBody (hkind : IsName kind) (hfields : ∀ field ∈ fields, IsField field) :
    Passed (writeBody kind fields) := by
  refine hkind.passed.append ?_
  induction fields with
  | nil => exact passed_of_ne (by simp)
  | cons field fields ih =>
    obtain ⟨hfield, hlater⟩ := List.forall_mem_cons.1 hfields
    have hsemicolon : Passed [';'] := passed_of_ne (by simp)
    rw [List.flatMap_cons]
    exact (hsemicolon.append hfield.passed).append (ih hlater)

theorem takeBody_writeRule (hkind : IsName kind) (hfields : ∀ field ∈ fields, IsField field)
    (rest : List Char) :
    takeBody false false (writeBody kind fields ++ '>' :: '>' :: rest) =
      some (writeBody kind fields, rest) := by
  rw [passed_writeBody hkind hfields]
  simp [takeBody]

theorem fieldsFrom_writeFields (hfields : ∀ field ∈ fields, IsField field) (before : List Char) :
    fieldsFrom before false false (fields.flatMap fun field => ';' :: writeField field) =
      some (before.reverse :: fields.map writeField) := by
  induction fields generalizing before with
  | nil => simp [fieldsFrom]
  | cons field fields ih =>
    obtain ⟨hfield, hlater⟩ := List.forall_mem_cons.1 hfields
    rw [List.flatMap_cons, List.cons_append]
    simp [fieldsFrom, hfield.inField _ _, ih hlater]

theorem fields?_writeBody (hkind : IsName kind) (hfields : ∀ field ∈ fields, IsField field) :
    fields? (writeBody kind fields) = some (kind :: fields.map writeField) := by
  rw [fields?, writeBody, hkind.inField, fieldsFrom_writeFields hfields, List.append_nil,
    List.reverse_reverse]

theorem unquote_quoted (value : List Char) :
    unquote ('"' :: escapeQuotes value ++ ['"']) = .ok value := by
  simp [unquote, unescapeQuotes_escapeQuotes]

theorem parseField_writeField (h : IsField field) : parseField (writeField field) = .ok field := by
  obtain ⟨key, value⟩ := field
  have hname : IsName key := h.isName
  have hlowercase : key.map lowercaseAscii = key := h.lowercase
  have hkey : ∀ c ∈ key, decide (c ≠ '=') = true := fun c hc => decide_eq_true (hname.ne hc rfl)
  have hvalue : trim ('"' :: escapeQuotes value ++ ['"']) = '"' :: escapeQuotes value ++ ['"'] :=
    trim_eq_self rfl List.getLast?_concat rfl rfl
  have hdrop : (writeField (key, value)).dropWhile (· ≠ '=') =
      '=' :: ('"' :: escapeQuotes value ++ ['"']) := by
    rw [writeField, List.append_assoc, List.dropWhile_append_of_pos hkey]
    simp
  have htake : (writeField (key, value)).takeWhile (· ≠ '=') = key := by
    rw [writeField, List.append_assoc, List.takeWhile_append_of_pos hkey]
    simp
  simp only [parseField, hdrop, htake, hvalue, unquote_quoted, trim_of_isName hname, hlowercase,
    Except.map]

theorem parseFields_writeFields (hfields : ∀ field ∈ fields, IsField field) :
    parseFields (fields.map writeField) = .ok fields := by
  induction fields with
  | nil => rfl
  | cons field fields ih =>
    obtain ⟨hfield, hlater⟩ := List.forall_mem_cons.1 hfields
    have hrest := ih hlater
    have hquote : '"' ∈ writeField field := by simp [writeField]
    have hblank : isBlank (writeField field) = false := by
      rw [isBlank, List.all_eq_false]
      exact ⟨'"', hquote, Bool.false_ne_true⟩
    obtain ⟨c, hfirst, hc⟩ := hfield.isName.exists_head?
      ('=' :: '"' :: escapeQuotes field.2 ++ ['"'])
    rw [← List.append_assoc] at hfirst
    have htrim : trim (writeField field) = writeField field :=
      trim_eq_self hfirst List.getLast?_concat hc rfl
    simp [parseFields, hblank, htrim, parseField_writeField hfield, hrest]
    rfl

end

theorem lookup_eq_of_perm {α β : Type} [BEq α] [LawfulBEq α] {l l' : List (α × β)} (h : l.Perm l')
    (hnodup : (l.map Prod.fst).Nodup) (key : α) : l.lookup key = l'.lookup key := by
  induction h with
  | nil => rfl
  | cons entry _ ih =>
    obtain ⟨k, v⟩ := entry
    rw [List.lookup_cons, List.lookup_cons, ih (List.nodup_cons.1 hnodup).2]
  | swap first second rest =>
    obtain ⟨k, v⟩ := first
    obtain ⟨k', v'⟩ := second
    have hne : k' ≠ k := fun heq => (List.nodup_cons.1 hnodup).1 (by simp [heq])
    simp only [List.lookup_cons]
    cases hk : key == k with
    | false => rfl
    | true =>
      have hk' : (key == k') = false := by
        rw [eq_of_beq hk, beq_eq_false_iff_ne]
        exact hne.symm
      rw [hk']
  | trans hfirst _ ih ih' =>
    exact (ih hnodup).trans (ih' ((hfirst.map Prod.fst).nodup_iff.1 hnodup))

section

variable {name pattern defaultText : List Char} {name? sample : Option (List Char)}
  {fields : List (List Char × List Char)} {line : Nat}

theorem nodup_keys_variableFields :
    ((variableFields name pattern defaultText sample).map Prod.fst).Nodup := by
  cases sample with
  | none =>
    change ["name".toList, "original".toList, "match".toList].Nodup
    decide
  | some sample =>
    change ["name".toList, "original".toList, "match".toList, "example".toList].Nodup
    decide

def fieldKeys : List (List Char) :=
  ["name".toList, "original".toList, "match".toList, "example".toList]

theorem isField_of_mem_fieldKeys {field : List Char × List Char} (hkey : field.1 ∈ fieldKeys)
    (hpaired : BackslashesPaired field.2) : IsField field := by
  have hkeys : ∀ key ∈ fieldKeys, IsName key ∧ key.map lowercaseAscii = key := by decide
  exact ⟨(hkeys _ hkey).1, (hkeys _ hkey).2, hpaired⟩

theorem isField_of_mem_optionalFields
    (hpaired : ∀ field ∈ optionalFields name?, BackslashesPaired field.2) :
    ∀ field ∈ optionalFields name?, IsField field := by
  intro field hfield
  refine isField_of_mem_fieldKeys ?_ (hpaired field hfield)
  obtain ⟨value, -, rfl⟩ := List.mem_map.1 hfield
  exact List.mem_cons_self

theorem isField_of_mem_variableFields
    (hpaired : ∀ field ∈ variableFields name pattern defaultText sample,
      BackslashesPaired field.2) :
    ∀ field ∈ variableFields name pattern defaultText sample, IsField field := by
  intro field hfield
  refine isField_of_mem_fieldKeys ?_ (hpaired field hfield)
  have hkey := List.mem_map_of_mem (f := Prod.fst) hfield
  cases sample with
  | none => exact List.mem_append_left ["example".toList] hkey
  | some sample => exact hkey

theorem parse_beginOptional [Engine] (hfields : ∀ field ∈ optionalFields name?, IsField field) :
    Rule.parse (writeBody "beginOptional".toList (optionalFields name?)) line =
      .ok (.beginOptional ⟨name?, line⟩) := by
  have hkind : IsName "beginOptional".toList := by decide
  have hlookup : (optionalFields name?).lookup "name".toList = name? := by
    cases name? <;> rfl
  simp only [Rule.parse, fields?_writeBody hkind hfields, List.tail_cons, List.headD_cons,
    parseFields_writeFields hfields, trim_of_isName hkind, hlookup]
  rfl

theorem parse_endOptional [Engine] : Rule.parse
    (writeBody "endOptional".toList []) line = .ok .endOptional :=
  rfl

theorem parse_variable [Engine] (hname : isBlank name = false)
    (hpattern : (Engine.compile? pattern).isSome) (hlong : VariableRule.shorthand? pattern = none)
    (horder : fields.Perm (variableFields name pattern defaultText sample))
    (hfields : ∀ field ∈ fields, IsField field) (line : Nat) :
    ∃ rule : VariableRule, Rule.parse (writeBody "var".toList fields) line = .ok (.variable rule) ∧
      rule.name = name ∧ rule.pattern = pattern ∧ rule.defaultText = defaultText ∧
      rule.sample = sample := by
  have hkind : IsName "var".toList := by decide
  have hlookup (key : List Char) :
      fields.lookup key = (variableFields name pattern defaultText sample).lookup key :=
    lookup_eq_of_perm horder ((horder.map Prod.fst).nodup_iff.2 nodup_keys_variableFields) key
  have hsample : (variableFields name pattern defaultText sample).lookup "example".toList =
      sample := by
    cases sample <;> rfl
  have hexpand : VariableRule.expand pattern = (pattern, none) := by
    rw [VariableRule.expand, hlong]
  obtain ⟨regex, hregex⟩ := Option.isSome_iff_exists.1 hpattern
  have hcompile : Engine.compile? (VariableRule.expand pattern).1 = some regex := by rwa [hexpand]
  refine ⟨⟨name, defaultText, sample, (VariableRule.expand pattern).1, regex,
    (VariableRule.expand pattern).2, line, Engine.parseWhole_of_compile? hcompile⟩, ?_, rfl,
    congrArg Prod.fst hexpand, rfl, rfl⟩
  simp only [Rule.parse, fields?_writeBody hkind hfields, List.tail_cons, List.headD_cons,
    parseFields_writeFields hfields, trim_of_isName hkind, hlookup, hsample]
  exact congrArg (Except.map Rule.variable) (VariableRule.build_some_of_compile? hname hcompile)

end

end Licensing.Template
