import Licensing.Proofs.Places
import Mathlib.Data.List.Forall2

namespace Licensing.Text

open Licensing.Unicode

def Glyph.moved (columns bytes : Nat) (g : Glyph) : Glyph :=
  { g with column := g.column + columns, start := g.start + bytes, stop := g.stop + bytes }

namespace Glyph

variable (m n : Nat) (g : Glyph)

@[simp] theorem moved_char : (g.moved m n).char = g.char := rfl

@[simp] theorem moved_column : (g.moved m n).column = g.column + m := rfl

@[simp] theorem moved_width : (g.moved m n).width = g.width := rfl

@[simp] theorem moved_start : (g.moved m n).start = g.start + n := rfl

end Glyph

/-- A token so many lines, columns and bytes further on. -/
def Token.moved (lines columns bytes : Nat) (t : Token) : Token where
  text := t.text
  position := ⟨t.position.line + lines, t.position.column + columns, t.position.length⟩
  start := t.start + bytes
  stop := t.stop + bytes

@[simp] theorem Token.moved_moved (l l' m m' n n' : Nat) (t : Token) :
    (t.moved l m n).moved l' m' n' = t.moved (l + l') (m + m') (n + n') := by
  simp [Token.moved, Nat.add_assoc]

/-- The same token so many bytes further on, in any line and column. -/
structure Token.Moved (offset : Nat) (t t' : Token) : Prop where
  text : t'.text = t.text
  length : t'.position.length = t.position.length
  start : t'.start = t.start + offset
  stop : t'.stop = t.stop + offset

abbrev Moved (offset : Nat) : List Token → List Token → Prop :=
  List.Forall₂ (Token.Moved offset)

namespace Moved

variable {f : Folding} {first first' later later' tokens tokens' tokens'' : List Token}
  {i m n : Nat}

theorem refl (tokens : List Token) : Moved 0 tokens tokens :=
  List.forall₂_same.2 fun _ _ => ⟨rfl, rfl, rfl, rfl⟩

theorem map_moved (l m n : Nat) (tokens : List Token) :
    Moved n tokens (tokens.map (·.moved l m n)) :=
  List.forall₂_map_right_iff.2 (List.forall₂_same.2 fun _ _ => ⟨rfl, rfl, rfl, rfl⟩)

theorem append (hfirst : Moved n first first') (hlater : Moved n later later') :
    Moved n (first ++ later) (first' ++ later') :=
  List.rel_append hfirst hlater

theorem trans (h : Moved m tokens tokens') (h' : Moved n tokens' tokens'') :
    Moved (m + n) tokens tokens'' := by
  induction h generalizing tokens'' with
  | nil =>
    cases h'
    exact .nil
  | cons hfirst _ ih =>
    cases h' with
    | cons hfirst' hrest' =>
      refine .cons ⟨hfirst'.text.trans hfirst.text, hfirst'.length.trans hfirst.length, ?_, ?_⟩
        (ih hrest')
      · rw [hfirst'.start, hfirst.start, Nat.add_assoc]
      · rw [hfirst'.stop, hfirst.stop, Nat.add_assoc]

theorem map_text (h : Moved n tokens tokens') : tokens'.map (·.text) = tokens.map (·.text) := by
  induction h with
  | nil => rfl
  | cons hfirst _ ih => rw [List.map_cons, List.map_cons, hfirst.text, ih]

theorem getElem? {t : Token} (h : Moved n tokens tokens') (ht : tokens[i]? = some t) :
    ∃ t', tokens'[i]? = some t' ∧ t.Moved n t' := by
  induction h generalizing i with
  | nil => cases ht
  | cons hfirst _ ih =>
    cases i with
    | zero =>
      cases ht
      exact ⟨_, rfl, hfirst⟩
    | succ i => exact ih ht

theorem exists_common {t t' : Token} (h : Moved m tokens tokens') (h' : Moved n tokens tokens'')
    (ht : tokens'[i]? = some t) (ht' : tokens''[i]? = some t') :
    ∃ b ∈ tokens, b.Moved m t ∧ b.Moved n t' := by
  have hi : i < tokens.length := by
    rw [h.length_eq]
    exact (List.getElem?_eq_some_iff.1 ht).1
  obtain ⟨s, hs, hmoved⟩ := h.getElem? (List.getElem?_eq_getElem hi)
  obtain ⟨s', hs', hmoved'⟩ := h'.getElem? (List.getElem?_eq_getElem hi)
  obtain rfl := Option.some.inj (hs.symm.trans ht)
  obtain rfl := Option.some.inj (hs'.symm.trans ht')
  exact ⟨tokens[i], List.getElem_mem hi, hmoved, hmoved'⟩

end Moved

namespace Token.Moved

variable {t t' : Token} {n : Nat}

theorem split (h : t.Moved n t') (first second : String) :
    Text.Moved n (t.split first second) (t'.split first second) := by
  have hlength : t'.stop - t'.start = t.stop - t.start := by
    rw [h.start, h.stop, Nat.add_sub_add_right]
  unfold Token.split
  rw [h.text, h.length, hlength]
  split
  · refine .cons ⟨rfl, rfl, h.start, ?_⟩ (.cons ⟨rfl, rfl, ?_, h.stop⟩ .nil)
    · dsimp only
      rw [h.start, Nat.add_right_comm]
    · dsimp only
      rw [h.start, Nat.add_right_comm]
  · exact .cons ⟨rfl, h.length, h.start, h.stop⟩ (.cons ⟨rfl, h.length, h.start, h.stop⟩ .nil)

theorem canonical (h : t.Moved n t') : Text.Moved n t.canonical t'.canonical := by
  have hspelled : ({ t with text := canonicalSpelling t.text } : Token).Moved n
      { t' with text := canonicalSpelling t'.text } :=
    ⟨congrArg canonicalSpelling h.text, h.length, h.start, h.stop⟩
  unfold Token.canonical
  simp only [h.text] at hspelled ⊢
  cases splitCompound? (canonicalSpelling t.text) with
  | none => exact .cons hspelled .nil
  | some halves => exact hspelled.split halves.1 halves.2

end Token.Moved

section

variable {f : Folding} {tokens tokens' : List Token} {n : Nat}

theorem Moved.keptTokens (h : Moved n tokens tokens') :
    Moved n (keptTokens f tokens) (keptTokens f tokens') := by
  have hkept : Moved n (tokens.filter (!isSkippable ·.text))
      (tokens'.filter (!isSkippable ·.text)) :=
    List.rel_filter (fun t t' ht => by simp only [ht.text]) h
  unfold Text.keptTokens
  split
  · exact List.rel_flatMap hkept fun _ _ ht => ht.canonical
  · exact hkept

end

section

variable {f : Folding} (l m n : Nat) (t : Token) (tokens : List Token)

theorem Token.split_moved (first second : String) :
    (t.moved l m n).split first second = (t.split first second).map (·.moved l m n) := by
  have hbytes : t.stop + n - (t.start + n) = t.stop - t.start := Nat.add_sub_add_right _ _ _
  simp only [Token.split, Token.moved, hbytes]
  split
  · simp [Nat.add_right_comm]
  · rfl

theorem Token.canonical_moved :
    (t.moved l m n).canonical = t.canonical.map (·.moved l m n) := by
  have htext : (t.moved l m n).text = t.text := rfl
  unfold Token.canonical
  simp only [htext]
  cases splitCompound? (canonicalSpelling t.text) with
  | none => rfl
  | some halves =>
    exact Token.split_moved l m n { t with text := canonicalSpelling t.text } halves.1 halves.2

theorem keptTokens_moved :
    keptTokens f (tokens.map (·.moved l m n)) = (keptTokens f tokens).map (·.moved l m n) := by
  have hkept : (tokens.map (·.moved l m n)).filter (!isSkippable ·.text) =
      (tokens.filter (!isSkippable ·.text)).map (·.moved l m n) := by
    rw [List.filter_map]
    rfl
  unfold keptTokens
  rw [hkept]
  split
  · rw [List.flatMap_map, List.map_flatMap]
    exact congrArg (List.flatMap · _) (funext (Token.canonical_moved l m n))
  · rfl

end

section

variable {f : Folding} {line column start l m n : Nat} {gs : List Glyph}
  {ls : List (List Char)}

theorem glyphs_add (parts : List (List Char)) :
    glyphs f (column + m) (start + n) parts = (glyphs f column start parts).map (·.moved m n) := by
  induction parts generalizing column start with
  | nil => rfl
  | cons cluster rest ih =>
    simp only [glyphs, List.map_append, List.map_map]
    rw [Nat.add_right_comm column, Nat.add_right_comm start, ih]
    rfl

open Glyph in
theorem wordToken?_moved : wordToken? (line + l) (gs.map (·.moved m n)) =
    (wordToken? line gs).map (·.moved l m n) := by
  cases gs with
  | nil => rfl
  | cons last earlier =>
    have hfirst : (earlier.map (·.moved m n)).getLastD (last.moved m n) =
        (earlier.getLastD last).moved m n := by
      simp only [List.getLastD_eq_getLast?, List.getLast?_map]
      cases earlier.getLast? <;> rfl
    have hlength : last.column + m + last.width - ((earlier.getLastD last).column + m) =
        last.column + last.width - (earlier.getLastD last).column := by
      omega
    simp only [List.map_cons, wordToken?, hfirst, moved_column, moved_width, hlength, moved_start]
    simp [Token.moved, moved, Function.comp_def]

theorem lineTokensFrom_moved (l m n line : Nat) (word gs : List Glyph) :
    lineTokensFrom (line + l) (word.map (·.moved m n)) (gs.map (·.moved m n)) =
      (lineTokensFrom line word gs).map (·.moved l m n) := by
  have hword (word : List Glyph) : (wordToken? (line + l) (word.map (·.moved m n))).toList =
      (wordToken? line word).toList.map (·.moved l m n) := by
    rw [wordToken?_moved, Option.toList_map]
  induction gs generalizing word with
  | nil => exact hword word
  | cons g gs ih =>
    have hnil := ih []
    rw [List.map_nil] at hnil
    rw [List.map_cons, lineTokensFrom, lineTokensFrom, Glyph.moved_char]
    split
    · rw [hword, hnil, List.map_append]
    · split
      · rw [hword, hnil, List.map_append, List.map_cons]
        rfl
      · exact ih (g :: word)

theorem tokensOfLines_moved (l n line start : Nat) (ls : List (List Char)) :
    tokensOfLines f (line + l) (start + n) ls =
      (tokensOfLines f line start ls).map (·.moved l 0 n) := by
  induction ls generalizing line start with
  | nil => rfl
  | cons s rest ih =>
    rw [tokensOfLines, tokensOfLines, ← Nat.add_zero 0, glyphs_add, Nat.add_right_comm start n,
      Nat.add_right_comm _ n, Nat.add_right_comm line l, ih, List.map_append,
      ← lineTokensFrom_moved, List.map_nil]

theorem tokensOfLines_append (line start : Nat) (before u : List Char) (ls : List (List Char)) :
    tokensOfLines f line start (linesFrom before u ++ ls) =
      tokensOfLines f line start (linesFrom before u) ++
        tokensOfLines f (line + (linesFrom before u).length)
          (start + byteLength before.reverse + byteLength u + 1) ls := by
  induction u generalizing before line start with
  | nil => simp [linesFrom, tokensOfLines, byteLength]
  | cons c cs ih =>
    rw [linesFrom]
    split
    · rename_i hc
      subst hc
      have hsize : '\n'.utf8Size = 1 := rfl
      have hstart : start + byteLength before.reverse + 1 + byteLength cs =
          start + byteLength before.reverse + byteLength ('\n' :: cs) := by
        rw [byteLength, hsize]
        omega
      have hline : line + 1 + (linesFrom [] cs).length =
          line + (before.reverse :: linesFrom [] cs).length := by
        rw [List.length_cons]
        omega
      rw [List.cons_append, tokensOfLines, ih, tokensOfLines, List.append_assoc, List.reverse_nil,
        byteLength, Nat.add_zero, hstart, hline]
    · have hstart : start + byteLength (c :: before).reverse + byteLength cs =
          start + byteLength before.reverse + byteLength (c :: cs) := by
        rw [List.reverse_cons, byteLength_append, byteLength, byteLength, byteLength]
        omega
      rw [ih, hstart]

end

def Token.UpTo (bound : Nat) (t : Token) : Prop :=
  t.start ≤ bound ∧ t.stop ≤ bound

section

variable {f : Folding} {bound : Nat} {t : Token}

theorem Token.UpTo.trans {bound' : Nat} (h : t.UpTo bound) (hle : bound ≤ bound') :
    t.UpTo bound' :=
  ⟨Nat.le_trans h.1 hle, Nat.le_trans h.2 hle⟩

theorem upTo_of_mem_tokenize {u : List Char} (h : t ∈ tokenize f u) : t.UpTo (byteLength u) := by
  obtain ⟨before, source, behind, rfl, hplace⟩ := liesIn_of_mem_tokenize h
  have hstop := hplace.stop_le behind
  exact ⟨Nat.le_trans (Nat.le_of_lt hplace.start_lt_stop) hstop, hstop⟩

end

section

variable {f : Folding} {u v : List Char}

theorem tokenize_behind_lineFeed (f : Folding) (u v : List Char) : tokenize f (u ++ '\n' :: v) =
    tokenize f u ++ (tokenize f v).map (·.moved (lines u).length 0 (byteLength u + 1)) := by
  have hraw : rawTokens f (u ++ '\n' :: v) =
      rawTokens f u ++ (rawTokens f v).map (·.moved (lines u).length 0 (byteLength u + 1)) := by
    have hlater := tokensOfLines_append (f := f) 1 0 [] u (lines v)
    rw [List.reverse_nil, byteLength, Nat.add_assoc _ (byteLength u), tokensOfLines_moved] at hlater
    rw [rawTokens, lines_append_lineFeed]
    exact hlater
  rw [tokenize_eq, hraw, keptTokens_append, keptTokens_moved]
  rfl

theorem tokenize_append_lineFeed (f : Folding) (u v : List Char) :
    ∃ later, tokenize f (u ++ '\n' :: v) = tokenize f u ++ later ∧
      Moved (byteLength u + 1) (tokenize f v) later :=
  ⟨_, tokenize_behind_lineFeed f u v, .map_moved _ _ _ _⟩

theorem clusters_blank_cons (h : ∀ c ∈ u.head?, isAscii c) :
    clusters (' ' :: u) = [' '] :: clusters u := by
  cases u with
  | nil => rfl
  | cons c cs =>
    have hbreaks : (ClusterState.start.step ' ').breaksBefore c = true :=
      of_isAscii (P := fun c => (ClusterState.start.step ' ').breaksBefore c = true)
        (by decide +kernel) (h c rfl)
    have hstep : (ClusterState.start.step ' ').step c = ClusterState.start.step c := rfl
    simp [clusters, clustersAfter, hbreaks, hstep]

theorem tokenize_blank_cons (h : ∀ c ∈ v.head?, isAscii c) :
    Moved 1 (tokenize f v) (tokenize f (' ' :: v)) := by
  obtain ⟨first, rest, ⟨behind, hv⟩, hlines⟩ := exists_linesFrom_eq v
  have hhead : ∀ c ∈ first.head?, isAscii c := by
    intro c hc
    apply h
    rw [← hv, List.head?_append, hc]
    rfl
  have hglyphs : glyphs f 0 0 (clusters (' ' :: first)) =
      ⟨' ', 0, 1, 0, 1⟩ :: (glyphs f 0 0 (clusters first)).map (·.moved 1 1) := by
    rw [clusters_blank_cons hhead, glyphs_of_isAscii rfl, ← glyphs_add]
    rfl
  have hstart : 0 + byteLength (' ' :: first) + 1 = 0 + byteLength first + 1 + 1 := by
    have hsize : ' '.utf8Size = 1 := rfl
    rw [byteLength]
    omega
  have hlines' : lines (' ' :: v) = (' ' :: first) :: rest := hlines [' ']
  have hraw : Moved 1 (rawTokens f v) (rawTokens f (' ' :: v)) := by
    rw [rawTokens, rawTokens, hlines', lines, hlines, tokensOfLines, tokensOfLines, hglyphs, hstart]
    have hfirst := lineTokensFrom_moved 0 1 1 1 [] (glyphs f 0 0 (clusters first))
    have hlater := tokensOfLines_moved (f := f) 0 1 (1 + 1) (0 + byteLength first + 1) rest
    have hblank : isWhitespace ' ' = true := rfl
    rw [List.map_nil, Nat.add_zero] at hfirst
    rw [Nat.add_zero] at hlater
    rw [lineTokensFrom, if_pos hblank, hfirst, hlater]
    exact .append (.map_moved _ _ _ _) (.map_moved _ _ _ _)
  exact hraw.keptTokens

end

end Licensing.Text
