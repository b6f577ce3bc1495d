import Licensing.Proofs.FoldedLines
import Licensing.Proofs.Lines
import Licensing.Proofs.Settling

namespace Licensing.Text

open Licensing.Unicode

section

variable {f : Folding} {c q : Char} {u v word before : List Char}

def wordTexts (word : List Char) : List String :=
  if word.isEmpty then [] else [String.ofList word.reverse]

def lineTexts (word : List Char) : List Char → List String
  | [] => wordTexts word
  | c :: cs =>
    if isWhitespace c then wordTexts word ++ lineTexts [] cs
    else if isBoundaryMark c then wordTexts word ++ String.singleton c :: lineTexts [] cs
    else lineTexts (c :: word) cs

theorem map_text_wordToken? (number : Nat) (word : List Glyph) :
    (wordToken? number word).toList.map (·.text) = wordTexts (word.map (·.char)) := by
  cases word with
  | nil => rfl
  | cons g gs => simp [wordToken?, wordTexts]

theorem map_text_lineTokensFrom (number : Nat) (word gs : List Glyph) :
    (lineTokensFrom number word gs).map (·.text) =
      lineTexts (word.map (·.char)) (gs.map (·.char)) := by
  induction gs generalizing word with
  | nil => exact map_text_wordToken? number word
  | cons g gs ih =>
    simp only [lineTokensFrom, List.map_cons, lineTexts]
    split
    · rw [List.map_append, map_text_wordToken?, ih]
      rfl
    · split
      · rw [List.map_append, map_text_wordToken?, List.map_cons, ih]
        rfl
      · exact ih (g :: word)

theorem map_char_glyphs (f : Folding) (column start : Nat) (parts : List (List Char)) :
    (glyphs f column start parts).map (·.char) = parts.flatMap (foldCluster f) := by
  induction parts generalizing column start with
  | nil => rfl
  | cons cluster rest ih =>
    rw [glyphs, List.map_append, List.map_map, ih, List.flatMap_cons]
    exact congrArg (· ++ _) (List.map_id _)

def textsOfLines (f : Folding) (ls : List (List Char)) : List String :=
  ls.flatMap fun line => lineTexts [] (foldedLine f line)

theorem map_text_tokensOfLines (number start : Nat) (ls : List (List Char)) :
    (tokensOfLines f number start ls).map (·.text) = textsOfLines f ls := by
  induction ls generalizing number start with
  | nil => rfl
  | cons line rest ih =>
    rw [tokensOfLines, List.map_append, map_text_lineTokensFrom, map_char_glyphs, ih]
    rfl

theorem map_text_rawTokens (f : Folding) (s : List Char) :
    (rawTokens f s).map (·.text) = textsOfLines f (lines s) :=
  map_text_tokensOfLines 1 0 (lines s)

def keptTexts (f : Folding) (ls : List (List Char)) : List String :=
  (textsOfLines f ls).filter (!isSkippable ·)

theorem map_text_tokenize_eq (f : Folding) (s : List Char) :
    (tokenize f s).map (·.text) = (keptTexts f (lines s)).flatMap (spellings f) := by
  rw [tokenize_eq, map_text_keptTokens_eq, map_text_rawTokens]
  rfl

theorem lineTexts_append_boundary (hc : isBoundary c) (word u v : List Char) :
    lineTexts word (u ++ c :: v) = lineTexts word u ++ lineTexts [] (c :: v) := by
  induction u generalizing word with
  | nil =>
    simp only [List.nil_append, lineTexts]
    split
    · rfl
    · rename_i hspace
      rw [isBoundary, Bool.or_eq_true] at hc
      rw [if_pos (hc.resolve_left hspace), if_pos (hc.resolve_left hspace)]
      rfl
  | cons d ds ih =>
    simp only [List.cons_append, lineTexts, ih]
    split
    · rw [List.append_assoc]
    · split
      · rw [List.append_assoc, List.cons_append]
      · rfl

theorem filter_lineTexts_append (h : ∀ c ∈ u, c ∈ [' ', '\'', '-']) (v : List Char) :
    (lineTexts [] (u ++ v)).filter (!isSkippable ·) =
      (lineTexts [] v).filter (!isSkippable ·) := by
  induction u with
  | nil => rfl
  | cons c cs ih =>
    obtain ⟨hc, hcs⟩ := List.forall_mem_cons.1 h
    rw [← ih hcs, List.cons_append]
    simp only [List.mem_cons, List.not_mem_nil, or_false] at hc
    rcases hc with rfl | rfl | rfl
    · rfl
    · exact List.filter_cons_of_neg (by decide)
    · exact List.filter_cons_of_neg (by decide)

theorem exists_foldedLine_cons (hq : isFiller q) (v : List Char) :
    ∃ c w, foldedLine f (q :: v) = c :: w ∧ isBoundary c := by
  obtain ⟨behind, later, hbehind, -, hafter⟩ := exists_behindFiller f v
  obtain ⟨a, w, hform, ha⟩ := Folding.exists_form_cons (f := f) hq behind
  obtain ⟨c, hc, hfold⟩ := foldChar_of_isFiller ha
  have hboundary : [' ', '\'', '-'].all isBoundary := by decide
  refine ⟨c, w.flatMap foldChar ++ later, ?_, List.all_eq_true.1 hboundary c hc⟩
  rw [foldedLine_filler_cons hq, hafter, List.singleton_append, foldCluster_filler_cons hq hbehind,
    hform, List.flatMap_cons, hfold]
  rfl

theorem ne_lineFeed_of_isFiller (hq : isFiller q) : q ≠ '\n' := by
  rintro rfl
  exact absurd hq (by decide)

theorem textsOfLines_append_filler (hq : isFiller q) (before u v : List Char) :
    textsOfLines f (linesFrom before (u ++ q :: v)) =
      textsOfLines f (linesFrom before u) ++ textsOfLines f (lines (q :: v)) := by
  induction u generalizing before with
  | nil =>
    obtain ⟨first, rest, -, hlines⟩ := exists_linesFrom_eq v
    have hfirst (before : List Char) :
        linesFrom before (q :: v) = (before.reverse ++ q :: first) :: rest := by
      rw [linesFrom, if_neg (ne_lineFeed_of_isFiller hq), hlines, List.reverse_cons,
        List.append_assoc]
      rfl
    obtain ⟨c, w, hfolded, hc⟩ := exists_foldedLine_cons (f := f) hq first
    rw [List.nil_append, lines, hfirst, hfirst, List.reverse_nil, List.nil_append]
    simp only [textsOfLines, List.flatMap_cons, linesFrom, List.flatMap_nil, List.append_nil,
      foldedLine_append_filler hq, hfolded, lineTexts_append_boundary hc, List.append_assoc]
  | cons c cs ih =>
    rw [List.cons_append, linesFrom, linesFrom]
    split
    · simp only [textsOfLines, List.flatMap_cons, List.append_assoc]
      exact congrArg _ (ih [])
    · exact ih (c :: before)

/-- A text is cut into tokens in front of a blank, a quote or a dash as if it ended there. -/
theorem map_text_tokenize_append_filler (f : Folding) (hq : isFiller q) (u v : List Char) :
    (tokenize f (u ++ q :: v)).map (·.text) =
      (tokenize f u).map (·.text) ++ (tokenize f (q :: v)).map (·.text) := by
  have htexts : textsOfLines f (lines (u ++ q :: v)) =
      textsOfLines f (lines u) ++ textsOfLines f (lines (q :: v)) :=
    textsOfLines_append_filler hq [] u v
  simp only [map_text_tokenize_eq, keptTexts, htexts, List.filter_append, List.flatMap_append]

/-- The acute accent makes a difference where characters are decomposed. -/
theorem map_text_tokenize_cons_of_drops (hq : f.Drops q) (v : List Char) :
    (tokenize f (q :: v)).map (·.text) = (tokenize f v).map (·.text) := by
  obtain ⟨first, rest, -, hlines⟩ := exists_linesFrom_eq v
  have hfirst : lines (q :: v) = (q :: first) :: rest := by
    rw [lines, linesFrom, if_neg (ne_lineFeed_of_isFiller hq.isFiller), hlines]
    rfl
  have hidle : ∀ c ∈ foldCluster f [q], c ∈ [' ', '\'', '-'] := by
    rw [foldCluster_filler f hq.isFiller]
    intro c hc
    obtain ⟨a, ha, hc⟩ := List.mem_flatMap.1 hc
    obtain ⟨x, hx, hfold⟩ := foldChar_of_isFiller (hq.isFiller_of_mem ha)
    rw [hfold, List.mem_singleton] at hc
    rwa [hc]
  rw [map_text_tokenize_eq, map_text_tokenize_eq, keptTexts, keptTexts, hfirst, lines, hlines,
    List.reverse_nil, List.nil_append]
  simp only [textsOfLines, List.flatMap_cons, List.filter_append, foldedLine_cons_of_drops hq,
    filter_lineTexts_append hidle]

theorem map_text_tokenize_append_blank (f : Folding) (u v : List Char) :
    (tokenize f (u ++ ' ' :: v)).map (·.text) =
      (tokenize f u).map (·.text) ++ (tokenize f v).map (·.text) := by
  have hblank : isFiller ' ' := rfl
  rw [map_text_tokenize_append_filler f hblank,
    map_text_tokenize_cons_of_drops ⟨hblank, fun _ => by decide⟩]

end

end Licensing.Text
