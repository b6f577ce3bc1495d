import Licensing.Text.Document
import Mathlib.Data.List.Infix
import Mathlib.Data.List.TakeWhile

namespace Licensing.Text

open Licensing.Unicode

section

variable {f : Folding} {s word line cluster : List Char} {c : Char}

theorem isBlank_iff : isBlank s ↔ ∀ c ∈ s, isWhitespace c :=
  List.all_eq_true

theorem isBlank_cons : isBlank (c :: s) ↔ isWhitespace c ∧ isBlank s := by
  simp [isBlank]

theorem isBlank_append {u v : List Char} : isBlank (u ++ v) ↔ isBlank u ∧ isBlank v := by
  simp [isBlank]

theorem isBlank_reverse : isBlank s.reverse ↔ isBlank s := by
  simp [isBlank]

theorem isBlank_replicate (n : Nat) : isBlank (List.replicate n ' ') := by
  simp [isBlank, isWhitespace]

theorem isBlank_takeWhile (s : List Char) : isBlank (s.takeWhile isWhitespace) := by
  rw [isBlank_iff]
  intro c hc
  exact List.mem_takeWhile_imp hc

theorem mem_of_mem_linesFrom (hline : line ∈ linesFrom word s) (hc : c ∈ line) :
    c ∈ word ∨ c ∈ s := by
  induction s generalizing word with
  | nil =>
    obtain rfl := List.mem_singleton.1 hline
    exact .inl (List.mem_reverse.1 hc)
  | cons d s ih =>
    rw [linesFrom] at hline
    split at hline
    · rcases List.mem_cons.1 hline with rfl | hline
      · exact .inl (List.mem_reverse.1 hc)
      · rcases ih hline with hword | hs
        · cases hword
        · exact .inr (List.mem_cons_of_mem d hs)
    · rcases ih hline with hword | hs
      · rcases List.mem_cons.1 hword with rfl | hword
        · exact .inr List.mem_cons_self
        · exact .inl hword
      · exact .inr (List.mem_cons_of_mem d hs)

theorem isBlank_of_mem_lines (h : isBlank s) (hline : line ∈ lines s) : isBlank line := by
  rw [isBlank_iff] at h ⊢
  intro c hc
  rcases mem_of_mem_linesFrom hline hc with hword | hs
  · cases hword
  · exact h c hs

theorem blankMarkersAfter_of_isBlank (length? : List Char → Option Nat) (h : isBlank s) :
    blankMarkersAfter length? 0 s = s := by
  induction s with
  | nil => rfl
  | cons c cs ih =>
    rw [isBlank_cons] at h
    rw [blankMarkersAfter, if_pos h.1, ih h.2]

theorem blankAfterOptional_of_isBlank (h : isBlank line) : blankAfterOptional line = line := by
  have hrest : line.dropWhile isWhitespace = [] := List.dropWhile_eq_nil_iff.2 (isBlank_iff.1 h)
  simp only [blankAfterOptional, hrest]
  rfl

theorem blankLine_of_isBlank (h : isBlank line) : blankLine line = line := by
  have hclosers : blankClosers line = line := by
    rw [blankClosers, blankMarkersAfter_of_isBlank _ (isBlank_reverse.2 h), List.reverse_reverse]
  have hopeners : blankOpeners line = line := blankMarkersAfter_of_isBlank _ h
  rw [blankLine, hclosers, hopeners, blankAfterOptional_of_isBlank h]

theorem blankEndedLine_of_isBlank (h : isBlank line) : blankEndedLine line = line := by
  unfold blankEndedLine
  split
  · rename_i hlast
    have hdrop : isBlank line.dropLast :=
      isBlank_iff.2 fun c hc => isBlank_iff.1 h c (List.mem_of_mem_dropLast hc)
    rw [blankLine_of_isBlank hdrop]
    exact List.dropLast_append_getLast? '\r' hlast
  · exact blankLine_of_isBlank h

theorem isBlank_blankLines {ls : List (List Char)} (h : ∀ line ∈ ls, isBlank line) :
    isBlank (blankLines ls) := by
  induction ls with
  | nil => rfl
  | cons line rest ih =>
    have hline := h line List.mem_cons_self
    have hrest := ih fun l hl => h l (List.mem_cons_of_mem line hl)
    cases rest with
    | nil =>
      rw [blankLines, blankLine_of_isBlank hline]
      exact hline
    | cons next rest =>
      simp only [blankLines, isBlank_append, isBlank_cons]
      refine ⟨?_, rfl, hrest⟩
      rw [blankEndedLine_of_isBlank hline]
      exact hline

theorem isBlank_stripComments (h : isBlank s) : isBlank (stripComments s) :=
  isBlank_blankLines fun _ hline => isBlank_of_mem_lines h hline

theorem isBlank_of_mem_clusters (h : isBlank s) (hcluster : cluster ∈ clusters s) :
    isBlank cluster := by
  rw [isBlank_iff] at h ⊢
  intro c hc
  apply h
  rw [← clusters_flatten s]
  exact List.mem_flatten.2 ⟨cluster, hcluster, hc⟩

theorem isWhitespace_of_mem_glyphs {column start : Nat} {parts : List (List Char)}
    (h : ∀ cluster ∈ parts, isBlank cluster) {g : Glyph} (hg : g ∈ glyphs f column start parts) :
    isWhitespace g.char := by
  induction parts generalizing column start with
  | nil => cases hg
  | cons cluster rest ih =>
    have hcluster := h cluster List.mem_cons_self
    rw [glyphs, List.mem_append] at hg
    rcases hg with hg | hg
    · rw [foldCluster, if_pos hcluster] at hg
      obtain ⟨c, hc, rfl⟩ := List.mem_map.1 hg
      exact isBlank_iff.1 hcluster c hc
    · exact ih (fun l hl => h l (List.mem_cons_of_mem cluster hl)) hg

theorem lineTokensFrom_of_isWhitespace {number : Nat} {gs : List Glyph}
    (h : ∀ g ∈ gs, isWhitespace g.char) : lineTokensFrom number [] gs = [] := by
  induction gs with
  | nil => rfl
  | cons g gs ih =>
    rw [lineTokensFrom, if_pos (h g List.mem_cons_self)]
    exact ih fun g' hg' => h g' (List.mem_cons_of_mem g hg')

theorem tokensOfLines_of_isBlank {number start : Nat} {ls : List (List Char)}
    (h : ∀ line ∈ ls, isBlank line) : tokensOfLines f number start ls = [] := by
  induction ls generalizing number start with
  | nil => rfl
  | cons line rest ih =>
    have hclusters : ∀ cluster ∈ clusters line, isBlank cluster := fun _ hcluster =>
      isBlank_of_mem_clusters (h line List.mem_cons_self) hcluster
    rw [tokensOfLines, ih fun l hl => h l (List.mem_cons_of_mem line hl),
      lineTokensFrom_of_isWhitespace fun _ hg => isWhitespace_of_mem_glyphs hclusters hg]
    rfl

theorem tokenize_of_isBlank (h : isBlank s) : tokenize f s = [] := by
  have hraw : rawTokens f s = [] := tokensOfLines_of_isBlank fun _ hl => isBlank_of_mem_lines h hl
  simp [tokenize, hraw]

theorem Document.size_ofText_of_isBlank (h : isBlank s) : (ofText f s).size = 0 := by
  simp [ofText, ofSource, size, tokenize_of_isBlank (isBlank_stripComments h)]

end

end Licensing.Text
