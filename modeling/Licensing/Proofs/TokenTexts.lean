import Licensing.Proofs.FillerJoints
import Licensing.Proofs.Settling

namespace Licensing.Text

/-- The text of a raw token: one boundary mark, or a word. -/
inductive IsRawText : String → Prop
  | mark {c : Char} (hspace : isWhitespace c = false) (hmark : isBoundaryMark c) :
      IsRawText (.singleton c)
  | word {text : String} (hne : text ≠ "") (hchars : ∀ c ∈ text.toList, isBoundary c = false) :
      IsRawText text

section

variable {f : Folding} {c : Char} {s word folded : List Char} {text : String} {t t' : Token}

theorem isBoundary_eq_false_iff :
    isBoundary c = false ↔ isWhitespace c = false ∧ isBoundaryMark c = false := by
  simp [isBoundary]

theorem isRawText_of_mem_wordTexts (hword : ∀ c ∈ word, isBoundary c = false)
    (h : text ∈ wordTexts word) : IsRawText text := by
  unfold wordTexts at h
  split at h
  · cases h
  · rename_i hne
    obtain rfl := List.mem_singleton.1 h
    refine .word ?_ fun c hc => hword c (by simpa using hc)
    rw [ne_eq, ← String.toList_eq_nil_iff, String.toList_ofList, List.reverse_eq_nil_iff]
    simpa using hne

theorem isRawText_of_mem_lineTexts (hword : ∀ c ∈ word, isBoundary c = false)
    (h : text ∈ lineTexts word folded) : IsRawText text := by
  -- What is read so far of a word has no boundary in it.
  induction folded generalizing word with
  | nil => exact isRawText_of_mem_wordTexts hword h
  | cons c cs ih =>
    rw [lineTexts] at h
    split at h
    · rcases List.mem_append.1 h with h | h
      · exact isRawText_of_mem_wordTexts hword h
      · exact ih (List.forall_mem_nil _) h
    · rename_i hspace
      have hspace := eq_false_of_ne_true hspace
      split at h
      · rename_i hmark
        rcases List.mem_append.1 h with h | h
        · exact isRawText_of_mem_wordTexts hword h
        · rcases List.mem_cons.1 h with rfl | h
          · exact .mark hspace hmark
          · exact ih (List.forall_mem_nil _) h
      · rename_i hmark
        have hmark := eq_false_of_ne_true hmark
        exact ih (List.forall_mem_cons.2 ⟨isBoundary_eq_false_iff.2 ⟨hspace, hmark⟩, hword⟩) h

theorem isRawText_of_mem_rawTokens (h : t ∈ rawTokens f s) : IsRawText t.text := by
  have htext : t.text ∈ textsOfLines f (lines s) := by
    rw [← map_text_rawTokens]
    exact List.mem_map_of_mem h
  obtain ⟨line, -, hline⟩ := List.mem_flatMap.1 htext
  exact isRawText_of_mem_lineTexts (List.forall_mem_nil _) hline

theorem IsStandard.isRawText (h : IsStandard text) : IsRawText text := by
  refine .word h.ne_empty fun c hc => isBoundary_eq_false_iff.2 ?_
  obtain ⟨hchar, hmark, -⟩ := isTokenChar_of_isSmallLetter (List.all_eq_true.1 h.letters c hc)
  exact ⟨(isTokenChar_iff.1 hchar).2.2, hmark⟩

theorem IsStandard.not_isSkippable (h : IsStandard text) : isSkippable text = false := by
  have hkept := (h.settled (f := {})).kept
  rwa [String.ofList_toList] at hkept

theorem not_mem_listedWords (h : canonicalTexts text = [text]) : text ∉ listedWords := by
  have hlisted : ∀ word ∈ listedWords, canonicalTexts word ≠ [word] := by decide +kernel
  exact fun hmem => hlisted text hmem h

theorem canonicalTexts_of_mem (h : text ∈ canonicalTexts t.text) :
    canonicalTexts text = [text] := by
  rcases canonicalTexts_standard t.text with hself | hstandard
  · rw [hself, List.mem_singleton] at h
    rwa [h]
  · exact (hstandard text h).canonicalTexts_eq

theorem Token.canonical_of_canonicalTexts (h : canonicalTexts t.text = [t.text]) :
    t.canonical = [t] := by
  unfold canonicalTexts at h
  unfold Token.canonical
  cases hsplit : splitCompound? (canonicalSpelling t.text) with
  | some halves => simp [hsplit] at h
  | none =>
    have hspelling : canonicalSpelling t.text = t.text := by simpa [hsplit] using h
    rw [hspelling] at hsplit
    simp [hspelling, hsplit]

theorem exists_of_mem_tokenize (h : t ∈ tokenize f s) :
    (IsRawText t.text ∧ isSkippable t.text = false) ∧
      (f.words → canonicalTexts t.text = [t.text]) := by
  have hraw {t : Token} (ht : t ∈ (rawTokens f s).filter (!isSkippable ·.text)) :
      IsRawText t.text ∧ isSkippable t.text = false := by
    obtain ⟨hmem, hkept⟩ := List.mem_filter.1 ht
    exact ⟨isRawText_of_mem_rawTokens hmem, by simpa using hkept⟩
  rw [tokenize_eq, keptTokens] at h
  split at h
  · obtain ⟨t', ht', hcanonical⟩ := List.mem_flatMap.1 h
    have htext : t.text ∈ canonicalTexts t'.text := by
      rw [← map_text_canonical]
      exact List.mem_map_of_mem hcanonical
    refine ⟨?_, fun _ => canonicalTexts_of_mem htext⟩
    rcases canonicalTexts_standard t'.text with hself | hstandard
    · rw [hself, List.mem_singleton] at htext
      rw [htext]
      exact hraw ht'
    · exact ⟨(hstandard _ htext).isRawText, (hstandard _ htext).not_isSkippable⟩
  · rename_i hwords
    exact ⟨hraw h, fun hf => absurd hf hwords⟩

end

/-- A mark between words that is not dropped, or a word. -/
def IsMarkOrWord (text : String) : Prop :=
  (∃ c, text = String.singleton c ∧ isBoundary c ∧ isWhitespace c = false ∧
      c ∉ ['-', ',', '\'', '"', '*', '=']) ∨
    (text ≠ "" ∧ ∀ c ∈ text.toList, isBoundary c = false ∧ isWhitespace c = false)

theorem IsRawText.isMarkOrWord {text : String} (h : IsRawText text)
    (hkept : isSkippable text = false) : IsMarkOrWord text := by
  have hdropped : ['-', ',', '\'', '"', '*', '='].all fun c => isSkippable (.singleton c) := by
    decide
  cases h with
  | @mark c hspace hmark =>
    refine .inl ⟨c, rfl, ?_, hspace, fun hmem => ?_⟩
    · rw [isBoundary, hmark, Bool.or_true]
    · rw [List.all_eq_true.1 hdropped c hmem] at hkept
      cases hkept
  | word hne hchars =>
    exact .inr ⟨hne, fun c hc => ⟨hchars c hc, (isBoundary_eq_false_iff.1 (hchars c hc)).1⟩⟩

/-- Every token is one mark that is not dropped, or a word in its one spelling. -/
theorem tokenize_marks_and_words (f : Folding) (s : List Char) :
    (∀ t ∈ tokenize f s, IsMarkOrWord t.text) ∧
      (f.words → (∀ t ∈ tokenize f s, t.text ∉ spellingVariants.map (·.1) ∧
          t.text ∉ compounds.map (·.1)) ∧
        (tokenize f s).flatMap Token.canonical = tokenize f s) := by
  refine ⟨fun t ht => ?_, fun hwords => ⟨fun t ht => ?_, ?_⟩⟩
  · obtain ⟨⟨hraw, hkept⟩, -⟩ := exists_of_mem_tokenize ht
    exact hraw.isMarkOrWord hkept
  · have hself := (exists_of_mem_tokenize ht).2 hwords
    have hlisted := not_mem_listedWords hself
    rwa [listedWords, List.mem_append, not_or] at hlisted
  · have hself : (tokenize f s).flatMap Token.canonical = (tokenize f s).flatMap ([·]) :=
      List.flatMap_congr fun t ht =>
        Token.canonical_of_canonicalTexts ((exists_of_mem_tokenize ht).2 hwords)
    rw [hself, List.flatMap_singleton']

theorem tokenize_marks_and_words_compounds :
    (tokenize {} "*Sublicence:E-Mail".toList).map (·.text) = ["sub", "license", ":", "e", "mail"] ∧
      (∀ t ∈ tokenize {} "*Sublicence:E-Mail".toList, IsMarkOrWord t.text ∧
        t.text ∉ spellingVariants.map (·.1) ∧ t.text ∉ compounds.map (·.1)) ∧
      (tokenize {} "*Sublicence:E-Mail".toList).flatMap Token.canonical =
        tokenize {} "*Sublicence:E-Mail".toList := by
  obtain ⟨htexts, hwords⟩ := tokenize_marks_and_words {} "*Sublicence:E-Mail".toList
  obtain ⟨hspellings, hagain⟩ := hwords rfl
  exact ⟨by decide +kernel, fun t ht => ⟨htexts t ht, hspellings t ht⟩, hagain⟩

end Licensing.Text
