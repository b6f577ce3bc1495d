import Licensing.Proofs.Joints
import Licensing.Proofs.Stripping
import Licensing.Text.Normalize

namespace Licensing.Text

/-- A character that tokens are written in: folded, and no white space. -/
def isTokenChar (c : Char) : Bool :=
  isAscii c && foldAscii c = c && !isWhitespace c

/-- The text of a token: a boundary mark, or a word without one. -/
structure IsTokenText (w : List Char) : Prop where
  ne_nil : w ≠ []
  chars : ∀ c ∈ w, isTokenChar c
  shape : w.length = 1 ∨ ∀ c ∈ w, isBoundaryMark c = false

/-- The text of a token that takes part in a comparison. -/
structure IsKeptText (w : List Char) : Prop extends IsTokenText w where
  kept : isSkippable (String.ofList w) = false

def spellings (f : Folding) (word : String) : List String :=
  if f.words then canonicalTexts word else [word]

/-- The text of a token that is its own normal form. -/
structure Settled (f : Folding) (w : List Char) : Prop extends IsKeptText w where
  spellings_eq : spellings f (String.ofList w) = [String.ofList w]

section

variable {f : Folding} {c : Char} {u v w word : List Char} {start : Nat} {text : String}

theorem isTokenChar_iff :
    isTokenChar c ↔ isAscii c ∧ foldAscii c = c ∧ isWhitespace c = false := by
  simp [isTokenChar, and_assoc]

theorem isTokenChar_foldAscii (hc : isAscii c) (hspace : isWhitespace c = false) :
    isTokenChar (foldAscii c) :=
  of_isAscii (P := fun c => isWhitespace c = false → isTokenChar (foldAscii c)) (by decide +kernel)
    hc hspace

theorem map_text_keptTokens_eq (f : Folding) (tokens : List Token) :
    (keptTokens f tokens).map (·.text) =
      ((tokens.map (·.text)).filter (!isSkippable ·)).flatMap (spellings f) := by
  have hfilter : (tokens.map (·.text)).filter (!isSkippable ·) =
      (tokens.filter (!isSkippable ·.text)).map (·.text) := by
    rw [List.filter_map]
    rfl
  rw [hfilter, List.flatMap_map]
  unfold keptTokens spellings
  split
  · rw [List.map_flatMap]
    exact congrArg (List.flatMap · _) (funext map_text_canonical)
  · exact List.map_eq_flatMap

theorem map_text_tokenize (f : Folding) (hu : ∀ c ∈ u, isAscii c) :
    (tokenize f u).map (·.text) =
      (((stretches [] 0 u).map (·.text)).filter (!isSkippable ·)).flatMap (spellings f) := by
  rw [tokenize_eq, map_text_keptTokens_eq, ← map_text_stretch, rawTokens_of_isAscii f hu]

theorem isTokenText_of_mem_wordStretch
    (hword : ∀ c ∈ word, isTokenChar c ∧ isBoundaryMark c = false) {t : Stretch}
    (ht : t ∈ wordStretch word start) : IsTokenText t.text.toList := by
  unfold wordStretch at ht
  split at ht
  · cases ht
  · rename_i hne
    obtain rfl := List.mem_singleton.1 ht
    rw [String.toList_ofList]
    refine ⟨by simpa using hne, fun c hc => ?_, .inr fun c hc => ?_⟩
    · exact (hword c (List.mem_reverse.1 hc)).1
    · exact (hword c (List.mem_reverse.1 hc)).2

theorem isTokenText_of_mem_stretches (hu : ∀ c ∈ u, isAscii c)
    (hword : ∀ c ∈ word, isTokenChar c ∧ isBoundaryMark c = false) {t : Stretch}
    (ht : t ∈ stretches word start u) : IsTokenText t.text.toList := by
  induction u generalizing word start with
  | nil => exact isTokenText_of_mem_wordStretch hword ht
  | cons c cs ih =>
    obtain ⟨hc, hcs⟩ := List.forall_mem_cons.1 hu
    have hnone : ∀ c ∈ ([] : List Char), isTokenChar c ∧ isBoundaryMark c = false :=
      List.forall_mem_nil _
    rw [stretches] at ht
    split at ht
    · rcases List.mem_append.1 ht with ht | ht
      · exact isTokenText_of_mem_wordStretch hword ht
      · exact ih hcs hnone ht
    · rename_i hspace
      have hchar := isTokenChar_foldAscii hc (eq_false_of_ne_true hspace)
      split at ht
      · rcases List.mem_append.1 ht with ht | ht
        · exact isTokenText_of_mem_wordStretch hword ht
        · rcases List.mem_cons.1 ht with rfl | ht
          · exact ⟨by simp, by simpa using hchar, .inl (by simp)⟩
          · exact ih hcs hnone ht
      · rename_i hmark
        exact ih hcs (List.forall_mem_cons.2 ⟨⟨hchar, eq_false_of_ne_true hmark⟩, hword⟩) ht

theorem isSkippable_of_marks (h : ∀ c ∈ w, isBoundaryMark c = false) :
    isSkippable (.ofList w) = false := by
  have hall : ∀ text ∈ ["-", ",", "'", "\"", "*", "="], text.toList.any isBoundaryMark := by decide
  rw [Bool.eq_false_iff]
  intro hskip
  obtain ⟨c, hc, hmark⟩ := List.any_eq_true.1 (hall _ (List.contains_iff_mem.1 hskip))
  rw [String.toList_ofList] at hc
  exact absurd hmark (ne_true_of_eq_false (h c hc))

theorem isKeptText_of_marks (hne : w ≠ []) (hchars : ∀ c ∈ w, isTokenChar c)
    (hmarks : ∀ c ∈ w, isBoundaryMark c = false) : IsKeptText w :=
  ⟨⟨hne, hchars, .inr hmarks⟩, isSkippable_of_marks hmarks⟩

def isSmallLetter (c : Char) : Bool :=
  'a' ≤ c && c ≤ 'z'

theorem isTokenChar_of_isSmallLetter (hc : isSmallLetter c) :
    isTokenChar c ∧ isBoundaryMark c = false ∧ c ≠ '#' ∧ c ≠ ';' := by
  have hle : 'a' ≤ c ∧ c ≤ 'z' := by simpa [isSmallLetter] using hc
  have hascii : isAscii c := decide_eq_true (Nat.lt_of_le_of_lt hle.2 (by decide))
  exact of_isAscii
    (P := fun c => isSmallLetter c →
      isTokenChar c ∧ isBoundaryMark c = false ∧ c ≠ '#' ∧ c ≠ ';')
    (by decide +kernel) hascii hc

/-- A word of letters that counts as no other. -/
structure IsStandard (text : String) : Prop where
  ne_empty : text ≠ ""
  letters : text.toList.all isSmallLetter
  canonicalTexts_eq : canonicalTexts text = [text]

instance (text : String) : Decidable (IsStandard text) :=
  decidable_of_iff
    (text ≠ "" ∧ text.toList.all isSmallLetter ∧ canonicalTexts text = [text])
    ⟨fun ⟨hne, hletters, htexts⟩ => ⟨hne, hletters, htexts⟩,
      fun ⟨hne, hletters, htexts⟩ => ⟨hne, hletters, htexts⟩⟩

/-- The words that do not count as themselves: variants in spelling, and compounds. -/
def listedWords : List String :=
  spellingVariants.map (·.1) ++ compounds.map (·.1)

theorem canonicalTexts_self_or_mem (word : String) :
    canonicalTexts word = [word] ∨ word ∈ listedWords := by
  cases hlookup : spellingVariants.lookup word with
  | some spelling =>
    obtain ⟨before, after, hlist, -⟩ := List.lookup_eq_some_iff.1 hlookup
    have hmem : (word, spelling) ∈ spellingVariants := by simp [hlist]
    exact .inr (List.mem_append_left _ (List.mem_map_of_mem (f := (·.1)) hmem))
  | none =>
    have hspelling : canonicalSpelling word = word := by
      rw [canonicalSpelling, hlookup]
      rfl
    rw [canonicalTexts, hspelling]
    cases hsplit : splitCompound? word with
    | none => exact .inl rfl
    | some halves =>
      obtain ⟨before, after, hlist, -⟩ := List.lookup_eq_some_iff.1 hsplit
      have hmem : (word, halves) ∈ compounds := by simp [hlist]
      exact .inr (List.mem_append_right _ (List.mem_map_of_mem (f := (·.1)) hmem))

theorem canonicalTexts_standard (word : String) :
    canonicalTexts word = [word] ∨ ∀ text ∈ canonicalTexts word, IsStandard text := by
  have hlisted : ∀ word ∈ listedWords, ∀ text ∈ canonicalTexts word, IsStandard text := by
    decide +kernel
  exact (canonicalTexts_self_or_mem word).imp_right (hlisted word)

theorem spellings_standard (f : Folding) (word : String) :
    spellings f word = [word] ∨ ∀ text ∈ spellings f word, IsStandard text := by
  unfold spellings
  split
  · exact canonicalTexts_standard word
  · exact .inl rfl

theorem spellings_ne_nil (f : Folding) (word : String) : spellings f word ≠ [] := by
  unfold spellings canonicalTexts
  split
  · split <;> exact List.cons_ne_nil _ _
  · exact List.cons_ne_nil _ _

theorem IsStandard.settled (h : IsStandard text) : Settled f text.toList where
  toIsKeptText := isKeptText_of_marks (mt String.toList_eq_nil_iff.1 h.ne_empty)
    (fun c hc => (isTokenChar_of_isSmallLetter (List.all_eq_true.1 h.letters c hc)).1)
    (fun c hc => (isTokenChar_of_isSmallLetter (List.all_eq_true.1 h.letters c hc)).2.1)
  spellings_eq := by
    rw [String.ofList_toList, spellings, h.canonicalTexts_eq, ite_self]

theorem IsKeptText.settled (h : IsKeptText w) (htext : text ∈ spellings f (.ofList w)) :
    Settled f text.toList := by
  rcases spellings_standard f (.ofList w) with heq | hstandard
  · rw [heq, List.mem_singleton] at htext
    rw [htext, String.toList_ofList]
    exact ⟨h, heq⟩
  · exact (hstandard text htext).settled

theorem settled_of_mem_tokenize (hu : ∀ c ∈ u, isAscii c)
    (htext : text ∈ (tokenize f u).map (·.text)) : Settled f text.toList := by
  rw [map_text_tokenize f hu] at htext
  obtain ⟨word, hword, hmem⟩ := List.mem_flatMap.1 htext
  obtain ⟨hraw, hkept⟩ := List.mem_filter.1 hword
  obtain ⟨t, ht, rfl⟩ := List.mem_map.1 hraw
  have hkeptText : IsKeptText t.text.toList := by
    refine ⟨isTokenText_of_mem_stretches hu (List.forall_mem_nil _) ht, ?_⟩
    rw [String.ofList_toList]
    simpa using hkept
  refine hkeptText.settled ?_
  rwa [String.ofList_toList]

theorem stretches_of_word (hw : ∀ c ∈ w, isTokenChar c ∧ isBoundaryMark c = false) :
    stretches word start w = wordStretch (w.reverse ++ word) (start + w.length) := by
  induction w generalizing word start with
  | nil => rfl
  | cons c cs ih =>
    obtain ⟨⟨hc, hmark⟩, hcs⟩ := List.forall_mem_cons.1 hw
    obtain ⟨-, hfold, hspace⟩ := isTokenChar_iff.1 hc
    have hlength : start + 1 + cs.length = start + (c :: cs).length := by
      rw [List.length_cons]
      omega
    simp only [stretches, hspace, hfold, hmark, Bool.false_eq_true, ↓reduceIte]
    rw [ih hcs, hlength, List.reverse_cons, List.append_assoc, List.singleton_append]

/-- The text of a token is one raw token. -/
theorem IsTokenText.map_text_stretches (h : IsTokenText w) :
    (stretches [] start w).map (·.text) = [String.ofList w] := by
  obtain ⟨hne, hchars, hshape⟩ := h
  by_cases hmarks : ∀ c ∈ w, isBoundaryMark c = false
  · rw [stretches_of_word fun c hc => ⟨hchars c hc, hmarks c hc⟩]
    simp [wordStretch, hne]
  · obtain ⟨c, rfl⟩ := List.length_eq_one_iff.1 (hshape.resolve_right hmarks)
    obtain ⟨-, hfold, hspace⟩ := isTokenChar_iff.1 (hchars c List.mem_cons_self)
    have hmark : isBoundaryMark c = true := by simpa using hmarks
    simp [stretches, hspace, hfold, hmark]

theorem IsTokenText.isAscii (h : IsTokenText w) : ∀ c ∈ w, isAscii c := fun c hc =>
  (isTokenChar_iff.1 (h.chars c hc)).1

theorem IsKeptText.map_text_tokenize (h : IsKeptText w) :
    (tokenize f w).map (·.text) = spellings f (.ofList w) := by
  rw [Text.map_text_tokenize f h.isAscii, h.map_text_stretches]
  simp [h.kept]

theorem of_mem_intercalate {P : Char → Prop} {ws : List (List Char)} (hblank : P ' ')
    (h : ∀ w ∈ ws, ∀ c ∈ w, P c) : ∀ c ∈ [' '].intercalate ws, P c := by
  induction ws with
  | nil => exact List.forall_mem_nil _
  | cons w rest ih =>
    obtain ⟨hw, hrest⟩ := List.forall_mem_cons.1 h
    cases rest with
    | nil => simpa using hw
    | cons w' rest =>
      rw [List.intercalate_cons_cons]
      exact List.forall_mem_append.2
        ⟨List.forall_mem_append.2 ⟨hw, List.forall_mem_singleton.2 hblank⟩, ih hrest⟩

theorem map_text_tokenize_intercalate {ws : List (List Char)} (h : ∀ w ∈ ws, IsKeptText w) :
    (tokenize f ([' '].intercalate ws)).map (·.text) =
      ws.flatMap fun w => spellings f (.ofList w) := by
  induction ws with
  | nil => exact congrArg (List.map _) (tokenize_of_isBlank rfl)
  | cons w rest ih =>
    obtain ⟨hw, hrest⟩ := List.forall_mem_cons.1 h
    cases rest with
    | nil => simpa using hw.map_text_tokenize
    | cons w' rest =>
      have hlater := of_mem_intercalate (P := (isAscii ·)) rfl fun w hw => (hrest w hw).isAscii
      have hblank : ∀ c ∈ [' '], isAscii c := List.forall_mem_singleton.2 rfl
      have hnone : tokenize f [' '] = [] := tokenize_of_isBlank rfl
      rw [List.intercalate_cons_cons, List.append_assoc,
        map_text_tokenize_append hw.isAscii (List.forall_mem_append.2 ⟨hblank, hlater⟩)
          (apart_cons_right rfl),
        map_text_tokenize_append hblank hlater (apart_of_getLast? (by simp; rfl)),
        hnone, hw.map_text_tokenize, ih hrest]
      rfl

end

def isRenderedChar (c : Char) : Bool :=
  c = ' ' || isTokenChar c && !isSkippable (.singleton c)

/-- Texts of which the first starts with neither a number sign nor a semicolon. -/
def Unmarked (ws : List (List Char)) : Prop :=
  ∀ w ∈ ws.head?, ∀ c ∈ w.head?, c ≠ '#' ∧ c ≠ ';'

section

variable {f : Folding} {c : Char} {s u v w : List Char} {ws rest : List (List Char)}
  {length? : List Char → Option Nat}

theorem IsKeptText.tail (h : IsKeptText (c :: w)) (hne : w ≠ []) : IsKeptText w := by
  have hmarks : ∀ d ∈ c :: w, isBoundaryMark d = false := by
    refine h.shape.resolve_left fun hlength => hne ?_
    simpa using hlength
  exact isKeptText_of_marks hne (List.forall_mem_cons.1 h.chars).2 (List.forall_mem_cons.1 hmarks).2

theorem IsKeptText.isRenderedChar (h : IsKeptText w) : ∀ c ∈ w, isRenderedChar c := by
  intro c hc
  have hkept : isSkippable (.singleton c) = false := by
    rw [String.singleton_eq_ofList]
    rcases h.shape with hlength | hmarks
    · obtain ⟨d, rfl⟩ := List.length_eq_one_iff.1 hlength
      obtain rfl := List.mem_singleton.1 hc
      exact h.kept
    · exact isSkippable_of_marks (List.forall_mem_singleton.2 (hmarks c hc))
  simp [Text.isRenderedChar, h.chars c hc, hkept]

theorem isRenderedChar_of_mem_intercalate (h : ∀ w ∈ ws, IsKeptText w) :
    ∀ c ∈ [' '].intercalate ws, isRenderedChar c :=
  of_mem_intercalate (P := (isRenderedChar ·)) rfl fun w hw => (h w hw).isRenderedChar

theorem blankClosers_of_isRenderedChar (h : ∀ c ∈ s, isRenderedChar c) : blankClosers s = s := by
  have hmarkers : ∀ m ∈ closers.map List.reverse, m.all isRenderedChar = false := by decide
  have hstar : isRenderedChar '*' = false := by decide
  apply Unclosed.blankClosers_eq
  rw [Unclosed]
  have hchars : ∀ c ∈ s.reverse.dropWhile isWhitespace, isRenderedChar c := fun c hc =>
    h c (List.mem_reverse.1 ((List.dropWhile_suffix _).subset hc))
  generalize s.reverse.dropWhile isWhitespace = t at hchars ⊢
  have hnone : markerLength? (closers.map List.reverse) t = none := by
    rw [markerLength?, Option.map_eq_none_iff, List.find?_eq_none]
    intro m hm hprefix
    have hsubset := (List.isPrefixOf_iff_prefix.1 hprefix).subset
    refine ne_true_of_eq_false (hmarkers m hm) (List.all_eq_true.2 fun c hc => ?_)
    exact hchars c (hsubset hc)
  unfold closerLength?
  rw [hnone]
  dsimp only
  split
  · exact absurd (hchars '*' List.mem_cons_self) (ne_true_of_eq_false hstar)
  · rfl

theorem blankAfterOptional_of_isRenderedChar (h : ∀ c ∈ s, isRenderedChar c) :
    blankAfterOptional s = s := by
  have hkeyword : optionalKeyword.all isRenderedChar = false := by decide
  have hnot : ¬ optionalKeyword.isPrefixOf (s.dropWhile isWhitespace) := by
    intro hprefix
    have hsubset := (List.isPrefixOf_iff_prefix.1 hprefix).subset
    refine ne_true_of_eq_false hkeyword (List.all_eq_true.2 fun c hc => ?_)
    exact h c ((List.dropWhile_suffix _).subset (hsubset hc))
  simp only [blankAfterOptional, hnot, Bool.false_eq_true, ↓reduceIte]

theorem openerLength?_of_isRenderedChar (h : ∀ d ∈ c :: s, isRenderedChar d)
    (hslashes : ¬ ['/', '/'] <+: c :: s) :
    openerLength? (c :: s) = if c = '#' ∨ c = ';' then some 1 else none := by
  have hmarkers : ∀ m ∈ openers,
      m.all isRenderedChar = false ∨ m ∈ [['/', '/'], ['#'], [';']] := by
    decide
  split
  · rename_i hc
    rcases hc with rfl | rfl <;> rfl
  · rename_i hc
    rw [openerLength?, markerLength?, Option.map_eq_none_iff, List.find?_eq_none]
    intro m hm hprefix
    have hm' := List.isPrefixOf_iff_prefix.1 hprefix
    rcases hmarkers m hm with hfalse | hknown
    · exact ne_true_of_eq_false hfalse (List.all_eq_true.2 fun d hd => h d (hm'.subset hd))
    · simp only [List.mem_cons, List.not_mem_nil, or_false] at hknown
      rcases hknown with rfl | rfl | rfl
      · exact hslashes hm'
      · exact hc (.inl (List.cons_prefix_cons.1 hm').1.symm)
      · exact hc (.inr (List.cons_prefix_cons.1 hm').1.symm)

theorem intercalate_cons_eq (w : List Char) (rest : List (List Char)) :
    [' '].intercalate (w :: rest) = w ++ rest.flatMap (' ' :: ·) := by
  induction rest generalizing w with
  | nil => simp
  | cons w' rest ih =>
    rw [List.intercalate_cons_cons, ih, List.append_assoc, List.flatMap_cons]
    rfl

theorem IsKeptText.not_slashes_prefix (h : IsKeptText w) :
    ¬ ['/', '/'] <+: w ++ rest.flatMap (' ' :: ·) := by
  intro hprefix
  rcases h.shape with hlength | hmarks
  · obtain ⟨d, rfl⟩ := List.length_eq_one_iff.1 hlength
    have hsecond := (List.cons_prefix_cons.1 hprefix).2
    cases rest with
    | nil => simp at hsecond
    | cons w' rest => simp at hsecond
  · obtain ⟨d, w, rfl⟩ := List.exists_cons_of_ne_nil h.ne_nil
    obtain ⟨rfl, -⟩ := List.cons_prefix_cons.1 hprefix
    exact absurd (hmarks '/' List.mem_cons_self) (by decide)

theorem blankOpeners_cons (hc : isWhitespace c = false) {n : Nat}
    (h : openerLength? (c :: s) = some (n + 1)) :
    blankOpeners (c :: s) = ' ' :: blankMarkersAfter openerLength? n s := by
  simp [blankOpeners, blankMarkersAfter, hc, h]

theorem openerLength?_of_isKeptText (h : IsKeptText (c :: w)) (hrest : ∀ w ∈ rest, IsKeptText w) :
    openerLength? (c :: (w ++ rest.flatMap (' ' :: ·))) =
      if c = '#' ∨ c = ';' then some 1 else none := by
  have hchars := isRenderedChar_of_mem_intercalate (List.forall_mem_cons.2 ⟨h, hrest⟩)
  rw [intercalate_cons_eq] at hchars
  exact openerLength?_of_isRenderedChar hchars h.not_slashes_prefix

theorem blankOpeners_of_unmarked (h : ∀ w ∈ ws, IsKeptText w) (hunmarked : Unmarked ws) :
    blankOpeners ([' '].intercalate ws) = [' '].intercalate ws := by
  cases ws with
  | nil => rfl
  | cons w rest =>
    obtain ⟨hw, hrest⟩ := List.forall_mem_cons.1 h
    obtain ⟨c, w, rfl⟩ := List.exists_cons_of_ne_nil hw.ne_nil
    have hc : ¬ (c = '#' ∨ c = ';') := not_or.2 (hunmarked _ rfl c rfl)
    have hopener := openerLength?_of_isKeptText hw hrest
    rw [if_neg hc] at hopener
    rw [intercalate_cons_eq]
    have hblank : isWhitespace c = false := (isTokenChar_iff.1 (hw.chars c List.mem_cons_self)).2.2
    apply Unopened.blankOpeners_eq
    rwa [Unopened, List.cons_append, List.dropWhile_cons_of_neg (by simp [hblank])]

/-- Behind the markers at the start of a text stand kept texts, and no other marker. -/
def LeavesKept (s : List Char) : Prop :=
  ∃ n ws, blankOpeners s = List.replicate n ' ' ++ [' '].intercalate ws ∧
    (∀ w ∈ ws, IsKeptText w) ∧ Unmarked ws

theorem LeavesKept.cons (h : LeavesKept s) (hmark : blankOpeners (c :: s) = ' ' :: blankOpeners s) :
    LeavesKept (c :: s) := by
  obtain ⟨n, ws, heq, hws, hunmarked⟩ := h
  refine ⟨n + 1, ws, ?_, hws, hunmarked⟩
  rw [hmark, heq, List.replicate_succ, List.cons_append]

theorem LeavesKept.append (h : LeavesKept (rest.flatMap (' ' :: ·)))
    (hrest : ∀ w ∈ rest, IsKeptText w) (hw : w ≠ [] → IsKeptText w) :
    LeavesKept (w ++ rest.flatMap (' ' :: ·)) := by
  induction w with
  | nil => exact h
  | cons c w ih =>
    have hkept := hw (List.cons_ne_nil c w)
    have hspace := (isTokenChar_iff.1 (hkept.chars c List.mem_cons_self)).2.2
    have hopener := openerLength?_of_isKeptText hkept hrest
    by_cases hc : c = '#' ∨ c = ';'
    · rw [if_pos hc] at hopener
      exact (ih hkept.tail).cons (blankOpeners_cons hspace hopener)
    · have hall : ∀ w' ∈ (c :: w) :: rest, IsKeptText w' := List.forall_mem_cons.2 ⟨hkept, hrest⟩
      have hunmarked : Unmarked ((c :: w) :: rest) := by simpa [Unmarked] using hc
      refine ⟨0, (c :: w) :: rest, ?_, hall, hunmarked⟩
      rw [← intercalate_cons_eq, blankOpeners_of_unmarked hall hunmarked]
      rfl

theorem leavesKept_flatMap (h : ∀ w ∈ ws, IsKeptText w) : LeavesKept (ws.flatMap (' ' :: ·)) := by
  induction ws with
  | nil => exact ⟨0, [], rfl, List.forall_mem_nil _, by simp [Unmarked]⟩
  | cons w rest ih =>
    obtain ⟨hw, hrest⟩ := List.forall_mem_cons.1 h
    have hbehind := (ih hrest).append hrest fun _ => hw
    exact hbehind.cons (by simp [blankOpeners, blankMarkersAfter, isWhitespace])

theorem leavesKept_intercalate (h : ∀ w ∈ ws, IsKeptText w) :
    LeavesKept ([' '].intercalate ws) := by
  cases ws with
  | nil => exact leavesKept_flatMap h
  | cons w rest =>
    obtain ⟨hw, hrest⟩ := List.forall_mem_cons.1 h
    rw [intercalate_cons_eq]
    exact (leavesKept_flatMap hrest).append hrest fun _ => hw

theorem stripComments_intercalate (h : ∀ w ∈ ws, IsKeptText w) :
    stripComments ([' '].intercalate ws) = blankOpeners ([' '].intercalate ws) := by
  have hchars := isRenderedChar_of_mem_intercalate h
  have hline : '\n' ∉ [' '].intercalate ws := fun hmem => absurd (hchars '\n' hmem) (by decide)
  obtain ⟨n, ws', heq, hws', -⟩ := leavesKept_intercalate h
  have hleft : ∀ c ∈ blankOpeners ([' '].intercalate ws), isRenderedChar c := by
    rw [heq]
    exact List.forall_mem_append.2
      ⟨fun c hc => List.eq_of_mem_replicate hc ▸ rfl, isRenderedChar_of_mem_intercalate hws'⟩
  rw [stripComments, lines, linesFrom_of_not_mem hline, List.reverse_nil, List.nil_append,
    blankLines, blankLine, blankClosers_of_isRenderedChar hchars,
    blankAfterOptional_of_isRenderedChar hleft]

theorem unmarked_spellings (f : Folding) (hunmarked : Unmarked ws) :
    Unmarked ((ws.flatMap fun w => spellings f (.ofList w)).map (·.toList)) := by
  cases ws with
  | nil => simp [Unmarked]
  | cons w rest =>
    obtain ⟨first, more, heq⟩ := List.exists_cons_of_ne_nil (spellings_ne_nil f (.ofList w))
    have hfirst : ∀ c ∈ first.toList.head?, c ≠ '#' ∧ c ≠ ';' := by
      rcases spellings_standard f (.ofList w) with hself | hstandard
      · obtain rfl := (List.cons.inj (heq.symm.trans hself)).1
        rw [String.toList_ofList]
        exact hunmarked w rfl
      · have hletters := (hstandard first (heq ▸ List.mem_cons_self)).letters
        intro c hc
        have hletter := List.all_eq_true.1 hletters c (List.mem_of_head? hc)
        exact (isTokenChar_of_isSmallLetter hletter).2.2
    simpa [Unmarked, heq] using hfirst

theorem exists_render_intercalate (f : Folding) (h : ∀ w ∈ ws, IsKeptText w) :
    ∃ ws', (∀ w ∈ ws', Settled f w) ∧ Unmarked ws' ∧
      render f ([' '].intercalate ws) = [' '].intercalate ws' := by
  obtain ⟨n, rest, heq, hrest, hunmarked⟩ := leavesKept_intercalate h
  have hblank : isBlank (List.replicate n ' ') :=
    isBlank_iff.2 fun c hc => List.eq_of_mem_replicate hc ▸ rfl
  have hascii : ∀ c ∈ List.replicate n ' ', isAscii c := fun c hc =>
    List.eq_of_mem_replicate hc ▸ rfl
  have hbehind := of_mem_intercalate (P := (isAscii ·)) rfl fun w hw => (hrest w hw).isAscii
  have htexts : (tokenize f (stripComments ([' '].intercalate ws))).map (·.text) =
      rest.flatMap fun w => spellings f (.ofList w) := by
    rw [stripComments_intercalate h, heq, map_text_tokenize_append hascii hbehind
      (apart_of_getLast? fun c hc => isBlank_iff.1 hblank c (List.mem_of_getLast? hc)),
      tokenize_of_isBlank hblank, map_text_tokenize_intercalate hrest, List.map_nil,
      List.nil_append]
  refine ⟨_, ?_, unmarked_spellings f hunmarked, ?_⟩
  · intro w hw
    obtain ⟨text, htext, rfl⟩ := List.mem_map.1 hw
    obtain ⟨word, hword, hmem⟩ := List.mem_flatMap.1 htext
    exact (hrest word hword).settled hmem
  · rw [render, ← htexts, List.map_map]
    rfl

/-- Tokens that are their own normal forms are rendered as they stand. -/
theorem render_of_settled (h : ∀ w ∈ ws, Settled f w) (hunmarked : Unmarked ws) :
    render f ([' '].intercalate ws) = [' '].intercalate ws := by
  have hkept : ∀ w ∈ ws, IsKeptText w := fun w hw => (h w hw).toIsKeptText
  have htexts : (tokenize f ([' '].intercalate ws)).map (·.text) = ws.map .ofList := by
    rw [map_text_tokenize_intercalate hkept, List.map_eq_flatMap]
    exact List.flatMap_congr fun w hw => (h w hw).spellings_eq
  have hmap : (tokenize f ([' '].intercalate ws)).map (·.text.toList) = ws := by
    rw [← Function.comp_def String.toList Token.text, ← List.map_map, htexts, List.map_map]
    exact (List.map_congr_left fun w _ => String.toList_ofList).trans (List.map_id ws)
  rw [render, stripComments_intercalate hkept, blankOpeners_of_unmarked hkept hunmarked, hmap]

/-- The first pass leaves tokens that are their own normal forms. -/
theorem exists_render (f : Folding) (hs : ∀ c ∈ s, isAscii c) :
    ∃ ws, (∀ w ∈ ws, Settled f w) ∧ render f s = [' '].intercalate ws := by
  refine ⟨_, ?_, rfl⟩
  have hascii : ∀ c ∈ stripComments s, isAscii c := fun c hc =>
    ((overwritten_stripComments s).mem hc).elim (hs c) fun hblank => hblank ▸ rfl
  intro w hw
  obtain ⟨t, ht, rfl⟩ := List.mem_map.1 hw
  exact settled_of_mem_tokenize hascii (List.mem_map_of_mem ht)

/-- A third pass changes nothing that the second left. -/
theorem render_render_render (f : Folding) (hs : ∀ c ∈ s, isAscii c) :
    render f (render f (render f s)) = render f (render f s) := by
  obtain ⟨ws, hws, hfirst⟩ := exists_render f hs
  obtain ⟨ws', hws', hunmarked, hsecond⟩ :=
    exists_render_intercalate f fun w hw => (hws w hw).toIsKeptText
  rw [hfirst, hsecond, render_of_settled hws' hunmarked]

theorem settle_of_render_eq {passes : Nat} (h : render f s = s) : settle f passes s = s := by
  cases passes with
  | zero => rfl
  | succ passes => rw [settle, if_pos h]

theorem normalize_eq (f : Folding) (hs : ∀ c ∈ s, isAscii c) :
    normalize f s = render f (render f s) := by
  rw [normalize, settle]
  split
  · rename_i hsettled
    exact hsettled.symm
  · exact settle_of_render_eq (render_render_render f hs)

end

/-- Normalizing an ASCII text again changes nothing, and the passes settle in time. -/
theorem normalize_normalize (f : Folding) (s : List Char) (hs : ∀ c ∈ s, isAscii c) :
    normalize f (normalize f s) = normalize f s ∧
      render f (render f (render f s)) = render f (render f s) ∧
      ∃ n < 4, normalize f s = (render f)^[n] (render f s) ∧
        render f ((render f)^[n] (render f s)) = (render f)^[n] (render f s) := by
  have hthird := render_render_render f hs
  have hnormal := normalize_eq f hs
  refine ⟨?_, hthird, 1, by decide, hnormal, hthird⟩
  rw [hnormal, normalize, hthird, settle_of_render_eq hthird]

theorem normalize_normalize_quoted_comment :
    let s := "\"#sublicence".toList
    (∀ c ∈ s, isAscii c) ∧ render {} s = "#sublicence".toList ∧
      normalize {} s = "sub license".toList ∧ normalize {} (normalize {} s) = normalize {} s := by
  intro s
  have hs : s.all isAscii := by decide
  have hs := List.all_eq_true.1 hs
  exact ⟨hs, by decide +kernel, by decide +kernel, (normalize_normalize {} s hs).1⟩

end Licensing.Text
