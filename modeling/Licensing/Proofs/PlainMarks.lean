import Licensing.Proofs.FillerJoints

namespace Licensing.Text

open Licensing.Unicode

/-- The plain quote or dash that a character counts as, or the character itself. -/
def plainMark (c : Char) : Char :=
  if isQuote c then '\'' else if isDash c then '-' else c

section

variable {f : Folding} {s : List Char} {text : String}

theorem plainMark_cases (f : Folding) (c : Char) :
    plainMark c = c ∨ isFiller c ∧ f.Drops (plainMark c) := by
  have hquote : f.Drops '\'' := ⟨rfl, fun _ => by decide⟩
  have hdash : f.Drops '-' := ⟨rfl, fun _ => by decide⟩
  unfold plainMark
  split
  · rename_i h
    exact .inr ⟨by simp [isFiller, h], hquote⟩
  · split
    · rename_i h
      exact .inr ⟨by simp [isFiller, h], hdash⟩
    · exact .inl rfl

theorem map_plainMark (h : ∀ c ∈ s, plainMark c = c) : s.map plainMark = s :=
  (List.map_congr_left h).trans (List.map_id s)

theorem marks_induction {P : List Char → Prop} (f : Folding)
    (plain : ∀ s, (∀ c ∈ s, plainMark c = c) → P s)
    (mark : ∀ u q v, (∀ c ∈ u, plainMark c = c) → isFiller q → f.Drops (plainMark q) → P v →
      P (u ++ q :: v))
    (s : List Char) : P s := by
  suffices h : ∀ u, (∀ c ∈ u, plainMark c = c) → P (u ++ s) from h [] (List.forall_mem_nil _)
  induction s with
  | nil =>
    intro u hu
    rw [List.append_nil]
    exact plain u hu
  | cons c cs ih =>
    intro u hu
    rcases plainMark_cases f c with hc | ⟨hfiller, hplain⟩
    · rw [List.append_cons]
      exact ih _ (List.forall_mem_append.2 ⟨hu, List.forall_mem_singleton.2 hc⟩)
    · exact mark u c cs hu hfiller hplain (ih [] (List.forall_mem_nil _))

theorem map_text_tokenize_plainMark (h : f.unicode = false ∨ '\u00B4' ∉ s) :
    (tokenize f (s.map plainMark)).map (·.text) = (tokenize f s).map (·.text) := by
  induction s using marks_induction f with
  | plain s hs => rw [map_plainMark hs]
  | mark u q v hu hfiller hplain ih =>
    have hv : f.unicode = false ∨ '\u00B4' ∉ v := h.imp_right fun h hmem =>
      h (List.mem_append_right u (List.mem_cons_of_mem q hmem))
    have hq : f.Drops q := ⟨hfiller, fun hunicode heq =>
      h.resolve_left (by simp [hunicode]) (by simp [heq])⟩
    rw [List.map_append, List.map_cons, map_plainMark hu,
      map_text_tokenize_append_filler f hplain.isFiller, map_text_tokenize_append_filler f hfiller,
      map_text_tokenize_cons_of_drops hplain, map_text_tokenize_cons_of_drops hq, ih hv]

def accents (texts : List String) : Nat :=
  (texts.flatMap String.toList).count '\u0301'

@[simp] theorem accents_nil : accents [] = 0 := rfl

@[simp] theorem accents_cons (text : String) (texts : List String) :
    accents (text :: texts) = text.toList.count '\u0301' + accents texts := by
  simp [accents]

@[simp] theorem accents_append (texts texts' : List String) :
    accents (texts ++ texts') = accents texts + accents texts' := by
  simp [accents]

theorem accents_wordTexts (word : List Char) : accents (wordTexts word) = word.count '\u0301' := by
  cases word with
  | nil => rfl
  | cons c cs =>
    have htoList : (String.ofList (c :: cs).reverse).toList = (c :: cs).reverse :=
      String.toList_ofList
    simp only [wordTexts, List.isEmpty_cons, Bool.false_eq_true, if_false, accents_cons, htoList,
      List.count_reverse, accents_nil, Nat.add_zero]

theorem accents_lineTexts (word folded : List Char) :
    accents (lineTexts word folded) = word.count '\u0301' + folded.count '\u0301' := by
  induction folded generalizing word with
  | nil => exact accents_wordTexts word
  | cons c cs ih =>
    rw [lineTexts]
    split
    · rename_i hspace
      have hne : c ≠ '\u0301' := by
        rintro rfl
        exact absurd hspace (by decide)
      rw [accents_append, accents_wordTexts, ih, List.count_cons_of_ne hne, List.count_nil,
        Nat.zero_add]
    · split
      · rw [accents_append, accents_wordTexts, accents_cons, ih, String.toList_singleton,
          List.count_nil, Nat.zero_add, ← List.count_append, List.singleton_append]
      · rw [ih, List.count_cons, List.count_cons]
        omega

theorem accents_of_isSkippable (h : isSkippable text) : text.toList.count '\u0301' = 0 := by
  have hall : ∀ text ∈ ["-", ",", "'", "\"", "*", "="], text.toList.count '\u0301' = 0 := by decide
  exact hall text (List.contains_iff_mem.1 h)

theorem accents_filter (texts : List String) :
    accents (texts.filter (!isSkippable ·)) = accents texts := by
  induction texts with
  | nil => rfl
  | cons text texts ih =>
    cases hskip : isSkippable text with
    | true => simp [hskip, ih, accents_of_isSkippable hskip]
    | false => simp [hskip, ih]

theorem acute_not_mem_of_letters (h : text.toList.all isSmallLetter) :
    '\u0301' ∉ text.toList := fun hmem =>
  absurd (List.all_eq_true.1 h _ hmem) (by decide)

theorem accents_spellings (f : Folding) (word : String) :
    accents (spellings f word) = word.toList.count '\u0301' := by
  have hlisted : ∀ word ∈ listedWords, word.toList.all isSmallLetter := by decide +kernel
  have hself : accents [word] = word.toList.count '\u0301' := by simp
  unfold spellings
  split
  · rcases canonicalTexts_self_or_mem word with heq | hmem
    · rw [heq, hself]
    · rcases canonicalTexts_standard word with heq | hstandard
      · rw [heq, hself]
      · have hnone : '\u0301' ∉ (canonicalTexts word).flatMap String.toList := fun hmem => by
          obtain ⟨text, htext, hmem⟩ := List.mem_flatMap.1 hmem
          exact acute_not_mem_of_letters (hstandard text htext).letters hmem
        rw [accents, List.count_eq_zero.2 hnone,
          List.count_eq_zero.2 (acute_not_mem_of_letters (hlisted word hmem))]
  · exact hself

theorem accents_tokenize (f : Folding) (s : List Char) : accents ((tokenize f s).map (·.text)) =
    ((lines s).flatMap (foldedLine f)).count '\u0301' := by
  have hwords (texts : List String) : accents (texts.flatMap (spellings f)) = accents texts := by
    induction texts with
    | nil => rfl
    | cons text texts ih => simp [ih, accents_spellings]
  have hlines (ls : List (List Char)) : accents (textsOfLines f ls) =
      (ls.flatMap (foldedLine f)).count '\u0301' := by
    induction ls with
    | nil => rfl
    | cons line rest ih =>
      rw [textsOfLines, List.flatMap_cons, accents_append, accents_lineTexts, List.count_nil,
        Nat.zero_add, List.flatMap_cons, List.count_append, ← ih]
      rfl
  rw [map_text_tokenize_eq, hwords, keptTexts, accents_filter, hlines]

theorem count_foldChar (c : Char) : (foldChar c).count '\u0301' = [c].count '\u0301' := by
  by_cases hc : c = '\u0301'
  · subst hc
    have hplain : foldChar '\u0301' = lowercase '\u0301' := by
      rw [foldChar, if_neg (by decide), if_neg (by decide), if_neg (by decide)]
    rw [hplain, lowercase_acute]
  · rw [List.count_singleton, if_neg (by simpa using hc)]
    unfold foldChar
    split
    · rfl
    · split
      · rfl
      · split
        · rfl
        · exact List.count_eq_zero.2 (acute_not_mem_lowercase hc)

theorem count_flatMap_foldChar (s : List Char) :
    (s.flatMap foldChar).count '\u0301' = s.count '\u0301' := by
  induction s with
  | nil => rfl
  | cons c cs ih =>
    rw [List.flatMap_cons, List.count_append, count_foldChar, ih, ← List.count_append,
      List.singleton_append]

theorem count_foldedLine_acute_cons (hunicode : f.unicode) (v : List Char) :
    (foldedLine f ('\u00B4' :: v)).count '\u0301' = (foldedLine f v).count '\u0301' + 1 := by
  have hacute : isFiller '\u00B4' := by decide
  obtain ⟨behind, later, hbehind, hline, hafter⟩ := exists_behindFiller f v
  have hform (s : List Char) : f.form s = compatibilityForm s := if_pos hunicode
  have hblank : (' ' :: composed ('\u0301' :: behind.flatMap decompose)).count '\u0301' =
      (compatibilityForm behind).count '\u0301' + 1 := by
    rw [List.count_cons_of_ne (by decide)]
    exact count_composed_cons combiningClass_acute _
  rw [foldedLine_filler_cons hacute, hafter, hline, List.singleton_append,
    foldCluster_filler_cons hacute hbehind, hbehind.foldCluster_eq, List.count_append,
    List.count_append, count_flatMap_foldChar, count_flatMap_foldChar, hform, hform,
    compatibilityForm_acute_cons, hblank, Nat.add_right_comm]

theorem accents_acute_cons (hunicode : f.unicode) (v : List Char) :
    accents ((tokenize f ('\u00B4' :: v)).map (·.text)) =
      accents ((tokenize f v).map (·.text)) + 1 := by
  obtain ⟨first, rest, -, hlines⟩ := exists_linesFrom_eq v
  have hfirst : lines ('\u00B4' :: v) = ('\u00B4' :: first) :: rest := by
    rw [lines, linesFrom, if_neg (by decide), hlines]
    rfl
  rw [accents_tokenize, accents_tokenize, hfirst, lines, hlines, List.reverse_nil, List.nil_append,
    List.flatMap_cons, List.flatMap_cons, List.count_append, List.count_append,
    count_foldedLine_acute_cons hunicode, Nat.add_right_comm]

theorem accents_tokenize_plainMark (hunicode : f.unicode) (s : List Char) :
    accents ((tokenize f s).map (·.text)) =
      accents ((tokenize f (s.map plainMark)).map (·.text)) + s.count '\u00B4' := by
  have hacute : plainMark '\u00B4' ≠ '\u00B4' := by decide
  induction s using marks_induction f with
  | plain s hs => rw [map_plainMark hs, List.count_eq_zero.2 (mt (hs _) hacute), Nat.add_zero]
  | mark u q v hu hfiller hplain ih =>
    have hcount : u.count '\u00B4' = 0 := List.count_eq_zero.2 (mt (hu _) hacute)
    rw [List.map_append, List.map_cons, map_plainMark hu,
      map_text_tokenize_append_filler f hplain.isFiller, map_text_tokenize_append_filler f hfiller,
      map_text_tokenize_cons_of_drops hplain, accents_append, accents_append, List.count_append,
      hcount, Nat.zero_add]
    by_cases hq : q = '\u00B4'
    · subst hq
      rw [accents_acute_cons hunicode, ih, List.count_cons_self]
      omega
    · rw [map_text_tokenize_cons_of_drops ⟨hfiller, fun _ => hq⟩, ih, List.count_cons_of_ne hq,
        Nat.add_assoc]

end

/-- Plain quotes and dashes leave all tokens as they are, a decomposed acute accent aside. -/
theorem map_text_tokenize_plainMarks_iff (f : Folding) (s : List Char) :
    (tokenize f (s.map plainMark)).map (·.text) = (tokenize f s).map (·.text) ↔
      f.unicode = false ∨ '\u00B4' ∉ s := by
  refine ⟨fun htexts => ?_, map_text_tokenize_plainMark⟩
  by_contra hnot
  obtain ⟨hunicode, hmem⟩ : f.unicode = true ∧ '\u00B4' ∈ s := by simpa using hnot
  have hcount := accents_tokenize_plainMark hunicode s
  rw [htexts] at hcount
  have hpos := List.count_pos_iff.2 hmem
  omega

/-- Two letters with an acute accent between them have other tokens with a plain quote there. -/
theorem plainMarks_change_tokens :
    ¬ ∀ (f : Folding) (s : List Char),
      (tokenize f (s.map plainMark)).map (·.text) = (tokenize f s).map (·.text) := by
  intro hall
  have hcount := accents_tokenize_plainMark (f := {}) rfl ['a', '\u00B4', 'b']
  rw [hall {} ['a', '\u00B4', 'b']] at hcount
  exact absurd hcount (by simp)

end Licensing.Text
