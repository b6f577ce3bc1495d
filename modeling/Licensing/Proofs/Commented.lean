import Licensing.Proofs.Likeness
import Licensing.Proofs.Overwriting

namespace Licensing.Text

section

variable {s q line : List Char} {n : Nat}

/-- The end of a line, read backwards, with a blank and the reversed `q` in front of the line. -/
inductive Prolonged (q : List Char) : List Char → List Char → Prop where
  | stopped (line : List Char) : Prolonged q line (line ++ ' ' :: q)
  | blank {line : List Char} (h : isBlank line) :
      Prolonged q line (line ++ ' ' :: blankMarkersAfter closerLength? 0 q)
  | star {line : List Char} (h : isBlank line) :
      Prolonged q (line ++ ['*']) (line ++ ' ' :: ' ' :: blankMarkersAfter closerLength? 0 q)

theorem Prolonged.cons {c : Char} {line line' : List Char} (hc : isWhitespace c)
    (h : Prolonged q line line') : Prolonged q (c :: line) (c :: line') := by
  have hblank {w : List Char} (hw : isBlank w) : isBlank (c :: w) := isBlank_cons.2 ⟨hc, hw⟩
  cases h with
  | stopped line => exact .stopped (c :: line)
  | blank h => exact .blank (hblank h)
  | star h => exact .star (hblank h)

theorem prolonged_blankMarkersAfter (q : List Char) (hn : n ≤ s.length) :
    Prolonged q (blankMarkersAfter closerLength? n s)
      (blankMarkersAfter closerLength? n (s ++ ' ' :: q)) := by
  have hspace : isWhitespace ' ' = true := rfl
  induction s generalizing n with
  | nil =>
    obtain rfl := Nat.le_zero.1 hn
    exact .blank rfl
  | cons c cs ih =>
    cases n with
    | succ n => exact (ih (Nat.le_of_succ_le_succ hn)).cons hspace
    | zero =>
      rw [List.cons_append, blankMarkersAfter, blankMarkersAfter]
      split
      · rename_i hc
        exact (ih (Nat.zero_le _)).cons hc
      · by_cases hstar : c = '*' ∧ cs = []
        · obtain ⟨rfl, rfl⟩ := hstar
          have hempty : isBlank [] := rfl
          exact .star hempty
        · have hlength : closerLength? (c :: (cs ++ ' ' :: q)) = closerLength? (c :: cs) :=
            closerLength?_append_cons rfl (List.cons_ne_nil c cs) (by simpa using hstar)
          rw [hlength]
          cases hcloser : closerLength? (c :: cs) with
          | none => exact .stopped (c :: cs)
          | some n =>
            have hle : n ≤ cs.length + 1 := (findsMarkers_closerLength?.bounds hcloser).2
            exact (ih (by omega)).cons hspace

/-- The markers that are put in front of lines, with a blank behind them. -/
def commentMarkers : List (List Char) :=
  ["//", "#", " *", "--", ";", "REM"].map (·.toList)

theorem blankOpeners_marker {marker : List Char} (h : marker ∈ commentMarkers) (rest : List Char) :
    blankOpeners (marker ++ ' ' :: rest) =
        List.replicate (marker.length + 1) ' ' ++ blankOpeners rest ∧
      blankOpeners (blankClosers marker ++ ' ' :: rest) =
        List.replicate (marker.length + 1) ' ' ++ blankOpeners rest := by
  simp only [commentMarkers, List.map_cons, List.map_nil, List.mem_cons, List.not_mem_nil,
    or_false] at h
  -- Only the star, which has a blank in front of it, is also a marker at the end of a line.
  rcases h with rfl | rfl | rfl | rfl | rfl | rfl <;> exact ⟨rfl, rfl⟩

theorem blankOpeners_blankClosers_marker {marker : List Char} (h : marker ∈ commentMarkers)
    (line : List Char) :
    blankOpeners (blankClosers (marker ++ ' ' :: line)) =
      List.replicate (marker.length + 1) ' ' ++ blankOpeners (blankClosers line) := by
  have hprolonged := prolonged_blankMarkersAfter marker.reverse (Nat.zero_le line.reverse.length)
  have hreverse : (marker ++ ' ' :: line).reverse = line.reverse ++ ' ' :: marker.reverse := by simp
  have hmarker : (blankMarkersAfter closerLength? 0 marker.reverse).reverse = blankClosers marker :=
    rfl
  rw [blankClosers, blankClosers, hreverse]
  generalize blankMarkersAfter closerLength? 0 line.reverse = line' at hprolonged
  generalize blankMarkersAfter closerLength? 0 (line.reverse ++ _) = longer at hprolonged
  cases hprolonged with
  | stopped line => simpa using (blankOpeners_marker h _).1
  | blank hblank => simpa [hmarker] using (blankOpeners_marker h _).2
  | star hblank =>
    rename_i w
    have hw' : isBlank (' ' :: w.reverse) := isBlank_cons.2 ⟨rfl, isBlank_reverse.2 hblank⟩
    have hblanks : blankOpeners (' ' :: w.reverse) = ' ' :: w.reverse :=
      blankMarkersAfter_of_isBlank _ hw'
    -- The star that the end of the line leaves is a marker at its start.
    have hstar : blankOpeners ('*' :: w.reverse) = ' ' :: w.reverse := hblanks
    simpa [hmarker, hstar, hblanks] using (blankOpeners_marker h (' ' :: w.reverse)).2

theorem blankAfterOptional_append_of_isBlank (h : isBlank s) (line : List Char) :
    blankAfterOptional (s ++ line) = s ++ blankAfterOptional line := by
  have hspace : (s ++ line).takeWhile isWhitespace = s ++ line.takeWhile isWhitespace :=
    List.takeWhile_append_of_pos (isBlank_iff.1 h)
  have hrest : (s ++ line).dropWhile isWhitespace = line.dropWhile isWhitespace :=
    List.dropWhile_append_of_pos (isBlank_iff.1 h)
  unfold blankAfterOptional
  simp only [hspace, hrest]
  split
  · split
    · simp only [List.append_assoc]
    · rfl
  · rfl

/-- A marker and a blank in front of a line become blanks, whatever the line is. -/
theorem blankLine_marker {marker : List Char} (h : marker ∈ commentMarkers) (line : List Char) :
    blankLine (marker ++ ' ' :: line) =
      List.replicate (marker.length + 1) ' ' ++ blankLine line := by
  rw [blankLine, blankOpeners_blankClosers_marker h,
    blankAfterOptional_append_of_isBlank (isBlank_replicate _), blankLine]

theorem isAscii_of_mem_blankMarkersAfter {length? : List Char → Option Nat}
    (h : ∀ c ∈ s, isAscii c) : ∀ c ∈ blankMarkersAfter length? n s, isAscii c := by
  have hspace : isAscii ' ' := rfl
  induction s generalizing n with
  | nil => cases n <;> exact h
  | cons c cs ih =>
    obtain ⟨hc, hcs⟩ := List.forall_mem_cons.1 h
    cases n with
    | succ n => exact List.forall_mem_cons.2 ⟨hspace, ih hcs⟩
    | zero =>
      rw [blankMarkersAfter]
      split
      · exact List.forall_mem_cons.2 ⟨hc, ih hcs⟩
      · split
        · exact h
        · exact List.forall_mem_cons.2 ⟨hspace, ih hcs⟩

theorem isAscii_of_mem_blankAfterOptional (h : ∀ c ∈ line, isAscii c) :
    ∀ c ∈ blankAfterOptional line, isAscii c := by
  have hrest : ∀ c ∈ line.dropWhile isWhitespace, isAscii c := fun c hc =>
    h c ((List.dropWhile_sublist _).mem hc)
  unfold blankAfterOptional
  dsimp only
  split
  · split
    · have hends : ∀ c ∈ ['>', '>'], isAscii c := List.all_eq_true.1 rfl
      intro c hc
      simp only [List.mem_append] at hc
      rcases hc with ((hc | hc) | hc) | hc
      · exact h c ((List.takeWhile_sublist _).mem hc)
      · exact hrest c ((List.takeWhile_sublist _).mem hc)
      · exact hends c hc
      · refine isAscii_of_mem_blankMarkersAfter (fun c hc => ?_) c hc
        exact hrest c ((List.dropWhile_sublist _).mem (List.mem_of_mem_drop hc))
    · exact h
  · exact h

theorem isAscii_of_mem_blankLine (h : ∀ c ∈ line, isAscii c) :
    ∀ c ∈ blankLine line, isAscii c := by
  apply isAscii_of_mem_blankAfterOptional
  apply isAscii_of_mem_blankMarkersAfter
  intro c hc
  refine isAscii_of_mem_blankMarkersAfter (fun c hc => ?_) c (List.mem_reverse.1 hc)
  exact h c (List.mem_reverse.1 hc)

end

namespace Document

variable {f : Folding} {u v s w : List Char} {n : Nat}

theorem getElem?_append_moved {front front' base later later' : List Token} {tokens : List Token}
    {t t' : Token} {i m n : Nat} (hfront : Moved 0 tokens front) (hfront' : Moved 0 tokens front')
    (h : Moved m base later) (h' : Moved n base later') (ht : (front ++ later)[i]? = some t)
    (ht' : (front' ++ later')[i]? = some t') :
    (i < tokens.length ∧ ∃ b ∈ tokens, b.Moved 0 t ∧ b.Moved 0 t') ∨
      (tokens.length ≤ i ∧ ∃ b : Token, b.Moved m t ∧ b.Moved n t') := by
  have hlength := hfront.length_eq
  have hlength' := hfront'.length_eq
  by_cases hi : i < tokens.length
  · rw [List.getElem?_append_left (by omega)] at ht ht'
    exact .inl ⟨hi, hfront.exists_common hfront' ht ht'⟩
  · rw [List.getElem?_append_right (by omega), ← hlength] at ht
    rw [List.getElem?_append_right (by omega), ← hlength'] at ht'
    obtain ⟨b, -, hb, hb'⟩ := h.exists_common h' ht ht'
    exact .inr ⟨Nat.le_of_not_lt hi, b, hb, hb'⟩

/-- White space where two words are apart moves the tokens behind it, and nothing else. -/
theorem alike_insert {c : Char} {tokens front front' base later later' : List Token}
    (hc : isWhitespace c) (hapart : Apart u v) (htokens : tokenize f (u ++ v) = front ++ later)
    (htokens' : tokenize f (u ++ c :: v) = front' ++ later')
    (hbound : ∀ t ∈ tokens, t.UpTo (byteLength u)) (hfront : Moved 0 tokens front)
    (hfront' : Moved 0 tokens front') (hlater : Moved (byteLength u) base later)
    (hlater' : Moved (byteLength u + c.utf8Size) base later') :
    (ofSource f (u ++ v)).Alike (ofSource f (u ++ c :: v)) := by
  have hsize : (ofSource f (u ++ c :: v)).size = (ofSource f (u ++ v)).size := by
    rw [size_ofSource, size_ofSource, htokens, htokens', List.length_append, List.length_append,
      ← hfront.length_eq, hfront'.length_eq, ← hlater.length_eq, hlater'.length_eq]
  refine ⟨hsize, Holds.of_ofSource (by omega) (fun i _ => ?_) fun i j hlt hj => ?_⟩
  · rw [Nat.zero_add, text?_ofSource, text?_ofSource, htokens, htokens', List.map_append,
      List.map_append, hfront.map_text, hfront'.map_text, hlater.map_text, hlater'.map_text]
  rw [Nat.zero_add, Nat.zero_add]
  obtain ⟨t, t', ht, ht', hspan⟩ := exists_sourceSpan hlt hj
  obtain ⟨s, s', hs, hs', hspan'⟩ := exists_sourceSpan hlt (hsize ▸ hj)
  rw [htokens] at ht ht'
  rw [htokens'] at hs hs'
  rw [hspan, hspan', collapseWhitespace, collapseWhitespace]
  congr 1
  -- The span lies in front of the white space, around it, or behind it.
  rcases getElem?_append_moved hfront hfront' hlater hlater' ht hs with
    ⟨hi, b, hmem, hb, hb'⟩ | ⟨hi, b, hb, hb'⟩
  · rcases getElem?_append_moved hfront hfront' hlater hlater' ht' hs' with
      ⟨-, b', hmem', hd, hd'⟩ | ⟨-, b', hd, hd'⟩
    · have hstop := (hbound b' hmem').2
      rw [hb.start, hb'.start, hd.stop, hd'.stop, Nat.add_zero, Nat.add_zero,
        slice?_append_left hstop, slice?_append_left hstop]
    · rw [hb.start, hb'.start, hd.stop, hd'.stop, Nat.add_zero, Nat.add_comm b'.stop,
        Nat.add_comm b'.stop]
      exact words_slice?_insert hc hapart (hbound b hmem).1
  · rcases getElem?_append_moved hfront hfront' hlater hlater' ht' hs' with
      ⟨hj', -⟩ | ⟨-, b', hd, hd'⟩
    · omega
    · have hlength : byteLength u + c.utf8Size = byteLength (u ++ [c]) :=
        (byteLength_append u [c]).symm
      rw [hb.start, hb'.start, hd.stop, hd'.stop, Nat.add_comm b.start, Nat.add_comm b.start,
        Nat.add_comm b'.stop, Nat.add_comm b'.stop, hlength, List.append_cons,
        slice?_append_right, slice?_append_right]

theorem alike_blank (h : ∀ c ∈ v.head?, isAscii c) :
    (ofSource f (u ++ '\n' :: v)).Alike (ofSource f (u ++ '\n' :: ' ' :: v)) := by
  obtain ⟨later, htokens, hmoved⟩ := tokenize_append_lineFeed f u v
  obtain ⟨later', htokens', hmoved'⟩ := tokenize_append_lineFeed f u (' ' :: v)
  have hmoved' := (tokenize_blank_cons (f := f) h).trans hmoved'
  have hline : byteLength (u ++ ['\n']) = byteLength u + 1 := byteLength_append u ['\n']
  have hspace : ' '.utf8Size = 1 := rfl
  have hapart : Apart (u ++ ['\n']) v := by
    cases v <;> simp [Apart, isWhitespace]
  rw [List.append_cons] at htokens htokens'
  rw [List.append_cons, List.append_cons _ '\n' (' ' :: v)]
  refine alike_insert rfl hapart htokens htokens' (fun t ht => ?_) (.refl _) (.refl _)
    (hline ▸ hmoved) ?_
  · exact (upTo_of_mem_tokenize ht).trans (by omega)
  · rwa [hline, hspace, Nat.add_comm _ 1]

theorem alike_blanks (h : ∀ c ∈ v.head?, isAscii c) (n : Nat) :
    (ofSource f (u ++ '\n' :: v)).Alike
      (ofSource f (u ++ '\n' :: (List.replicate n ' ' ++ v))) := by
  induction n with
  | zero => exact .refl _
  | succ n ih =>
    refine ih.trans (alike_blank fun c hc => ?_)
    cases n with
    | zero => exact h c hc
    | succ n =>
      obtain rfl : ' ' = c := Option.some.inj hc
      rfl

theorem alike_behind_lineFeed (h : isBlank w) :
    (ofSource f s).Alike (ofSource f (w ++ '\n' :: s)) := by
  have hholds := holds_behind_lineFeed f w s
  obtain ⟨later, htokens, hmoved⟩ := tokenize_append_lineFeed f w s
  rw [tokenize_of_isBlank h] at hholds htokens
  refine ⟨?_, hholds⟩
  rw [size_ofSource, size_ofSource, htokens, List.nil_append, hmoved.length_eq]

theorem alike_before_lineFeed (h : isBlank w) :
    (ofSource f s).Alike (ofSource f (s ++ '\n' :: w)) := by
  obtain ⟨later, htokens, hmoved⟩ := tokenize_append_lineFeed f s w
  rw [tokenize_of_isBlank h] at hmoved
  cases hmoved
  refine ⟨?_, holds_before_lineFeed f s w⟩
  rw [size_ofSource, size_ofSource, htokens, List.append_nil]

end Document

def CommentedLine (line line' : List Char) : Prop :=
  ∃ marker ∈ commentMarkers, line' = marker ++ ' ' :: line

/-- Each line has a marker in front of it, and lines of a block comment may stand around all. -/
inductive Commented : List Char → List Char → Prop where
  | lines {text commented : List Char}
      (h : List.Forall₂ CommentedLine (lines text) (lines commented)) : Commented text commented
  | opened {text commented : List Char} (h : Commented text commented) :
      Commented text ("/*".toList ++ '\n' :: commented)
  | closed {text commented : List Char} (h : Commented text commented) :
      Commented text (commented ++ '\n' :: " */".toList)
  | ended {text commented : List Char} (h : Commented text commented) :
      Commented text (commented ++ ['\n'])
  | unended {text commented : List Char} (h : Commented text commented) :
      Commented (text ++ ['\n']) commented

namespace Document

variable {f : Folding} {ls ls' : List (List Char)} {text commented : List Char}

theorem alike_blankLines (h : List.Forall₂ CommentedLine ls ls')
    (hascii : ∀ line ∈ ls, ∀ c ∈ line, isAscii c) (u : List Char) :
    (ofSource f (u ++ '\n' :: blankLines ls)).Alike
      (ofSource f (u ++ '\n' :: blankLines ls')) := by
  induction h generalizing u with
  | nil => exact .refl _
  | cons hline hrest ih =>
    rename_i line line' rest rest'
    obtain ⟨marker, hmarker, rfl⟩ := hline
    obtain ⟨hfirst, hlater⟩ := List.forall_mem_cons.1 hascii
    have hblank := isAscii_of_mem_blankLine hfirst
    cases hrest with
    | nil =>
      rw [blankLines, blankLines, blankLine_marker hmarker]
      exact alike_blanks (fun c hc => hblank c (List.mem_of_mem_head? hc)) _
    | cons hnext hrest =>
      rw [blankLines_cons _ (List.cons_ne_nil _ _), blankLines_cons _ (List.cons_ne_nil _ _),
        blankLine_marker hmarker]
      refine (alike_blanks (fun c hc => ?_) (marker.length + 1)).trans ?_
      · cases hline : blankLine line with
        | nil =>
          rw [hline] at hc
          obtain rfl : '\n' = c := Option.some.inj hc
          rfl
        | cons d ds =>
          rw [hline] at hc
          obtain rfl : d = c := Option.some.inj hc
          exact hblank d (hline ▸ List.mem_cons_self)
      · have hlines := ih hlater
          (u ++ '\n' :: (List.replicate (marker.length + 1) ' ' ++ blankLine line))
        simpa only [List.append_assoc, List.cons_append] using hlines

theorem alike_of_commented (h : Commented text commented) (hascii : ∀ c ∈ text, isAscii c) :
    (ofText f text).Alike (ofText f commented) := by
  have hempty : isBlank [] := rfl
  induction h with
  | lines h =>
    rename_i text commented
    have hlines : ∀ line ∈ lines text, ∀ c ∈ line, isAscii c := by
      intro line hline c hc
      rcases mem_of_mem_linesFrom hline hc with hnil | hc
      · cases hnil
      · exact hascii c hc
    have halike (s : List Char) : (ofSource f s).Alike (ofSource f ('\n' :: s)) :=
      alike_behind_lineFeed hempty
    exact ((halike _).trans (alike_blankLines h hlines [])).trans (halike _).symm
  | opened h ih =>
    refine (ih hascii).trans ?_
    simp only [ofText_eq, stripComments_append_lineFeed]
    exact alike_behind_lineFeed rfl
  | closed h ih =>
    refine (ih hascii).trans ?_
    simp only [ofText_eq, stripComments_append_lineFeed]
    exact alike_before_lineFeed rfl
  | ended h ih =>
    refine (ih hascii).trans ?_
    simp only [ofText_eq, stripComments_append_lineFeed]
    exact alike_before_lineFeed rfl
  | unended h ih =>
    rename_i text commented
    have halike : (ofText f text).Alike (ofText f (text ++ ['\n'])) := by
      simp only [ofText_eq, stripComments_append_lineFeed]
      exact alike_before_lineFeed rfl
    exact halike.symm.trans (ih fun c hc => hascii c (List.mem_append_left _ hc))

end Document

end Licensing.Text

namespace Licensing.Matching

open Licensing.Text

/-- An ASCII text in comments compares as the text itself. -/
theorem commented_agree [Engine] (m : Matcher) (template text commented : List Char)
    (h : (m.compile template).isOk) (hascii : ∀ c ∈ text, isAscii c)
    (hcommented : Commented text commented) :
    (∃ difference difference', m.compare template text = .ok difference ∧
      m.compare template commented = .ok difference' ∧ difference'.found = difference.found ∧
        difference'.regions = difference.regions) ∧
    ∃ occurs, m.isWithin template text = .ok occurs ∧
      m.isWithin template commented = .ok occurs := by
  obtain ⟨body, -, -, hcompile⟩ := Matcher.compile_isOk h
  have halike : (m.prepare text).Alike (m.prepare commented) :=
    Document.alike_of_commented hcommented hascii
  simp only [Matcher.compare, Matcher.isWithin, hcompile, occursIn_of_alike halike]
  exact ⟨⟨_, _, rfl, rfl, compareWith_of_alike halike _⟩, _, rfl, rfl⟩

theorem commented_agree_marked_lines :
    let m : Matcher := {}
    let template := "a<<var;name=v;match=.{1,40}>>b".toList
    let text := "// a *\n\n<<beginOptional>>* b */\n".toList
    let commented := "/*\n# // a *\n * \nREM <<beginOptional>>* b */\n */".toList
    (m.compile template).isOk ∧ (∀ c ∈ text, isAscii c) ∧ Commented text commented ∧
      (∃ difference, m.compare template commented = .ok difference ∧ difference.found = false ∧
        difference.regions = some [(0, 1), (6, 7)]) ∧
      m.isWithin template commented = .ok true := by
  intro m template text commented
  have hok : (m.compile template).isOk := by decide +kernel
  have hascii : ∀ c ∈ text, isAscii c := List.all_eq_true.1 (by decide +kernel)
  have htext : lines "// a *\n\n<<beginOptional>>* b */".toList =
      ["// a *".toList, [], "<<beginOptional>>* b */".toList] := by decide +kernel
  have hmarked : lines "# // a *\n * \nREM <<beginOptional>>* b */".toList =
      ["# // a *".toList, " * ".toList, "REM <<beginOptional>>* b */".toList] := by decide +kernel
  have hlines : List.Forall₂ CommentedLine (lines "// a *\n\n<<beginOptional>>* b */".toList)
      (lines "# // a *\n * \nREM <<beginOptional>>* b */".toList) := by
    rw [htext, hmarked]
    refine .cons ⟨"#".toList, by decide, rfl⟩ (.cons ⟨" *".toList, by decide, rfl⟩ (.cons ?_ .nil))
    exact ⟨"REM".toList, by decide, rfl⟩
  have hcommented : Commented text commented := .closed (.opened (.unended (.lines hlines)))
  have hcompare : m.compare template text = .ok (.noDifference [(0, 1), (6, 7)]) := by
    decide +kernel
  have hwithin : m.isWithin template text = .ok true := by decide +kernel
  obtain ⟨⟨difference, difference', hdifference, hdifference', hfound, hregions⟩, occurs, hoccurs,
    hoccurs'⟩ := commented_agree m template text commented hok hascii hcommented
  obtain rfl : difference = .noDifference [(0, 1), (6, 7)] :=
    Except.ok.inj (hdifference.symm.trans hcompare)
  obtain rfl : occurs = true := Except.ok.inj (hoccurs.symm.trans hwithin)
  exact ⟨hok, hascii, hcommented, ⟨difference', hdifference', hfound, hregions⟩, hoccurs'⟩

end Licensing.Matching
