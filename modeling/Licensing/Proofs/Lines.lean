import Licensing.Proofs.Blank

namespace Licensing.Text

section

variable {u v line before : List Char}

theorem linesFrom_ne_nil (before u : List Char) : linesFrom before u ≠ [] := by
  induction u generalizing before with
  | nil => exact List.cons_ne_nil _ _
  | cons c cs ih =>
    rw [linesFrom]
    split
    · exact List.cons_ne_nil _ _
    · exact ih (c :: before)

theorem lines_ne_nil (u : List Char) : lines u ≠ [] :=
  linesFrom_ne_nil [] u

theorem linesFrom_append_lineFeed (before u v : List Char) :
    linesFrom before (u ++ '\n' :: v) = linesFrom before u ++ lines v := by
  induction u generalizing before with
  | nil => simp [linesFrom, lines]
  | cons c cs ih =>
    simp only [List.cons_append, linesFrom, ih]
    split <;> rfl

theorem lines_append_lineFeed (u v : List Char) : lines (u ++ '\n' :: v) = lines u ++ lines v :=
  linesFrom_append_lineFeed [] u v

theorem linesFrom_of_not_mem (h : '\n' ∉ u) : linesFrom before u = [before.reverse ++ u] := by
  induction u generalizing before with
  | nil => rw [linesFrom, List.append_nil]
  | cons c cs ih =>
    rw [List.mem_cons, not_or] at h
    rw [linesFrom, if_neg (Ne.symm h.1), ih h.2, List.reverse_cons, List.append_assoc,
      List.singleton_append]

theorem lines_of_not_mem (h : '\n' ∉ u) : lines u = [u] :=
  linesFrom_of_not_mem h

theorem lines_line_append (h : '\n' ∉ line) (u : List Char) :
    lines (line ++ '\n' :: u) = line :: lines u := by
  rw [lines_append_lineFeed, lines_of_not_mem h, List.singleton_append]

theorem lines_induction {P : List Char → Prop} (last : ∀ line, '\n' ∉ line → P line)
    (next : ∀ line rest, '\n' ∉ line → P rest → P (line ++ '\n' :: rest)) (s : List Char) :
    P s := by
  suffices h : ∀ line, '\n' ∉ line → P (line ++ s) from h [] List.not_mem_nil
  induction s with
  | nil =>
    intro line hline
    rw [List.append_nil]
    exact last line hline
  | cons c cs ih =>
    intro line hline
    by_cases hc : c = '\n'
    · subst hc
      exact next line cs hline (ih [] List.not_mem_nil)
    · rw [List.append_cons]
      apply ih
      rw [List.mem_append, List.mem_singleton, not_or]
      exact ⟨hline, Ne.symm hc⟩

theorem exists_linesFrom_eq (u : List Char) :
    ∃ first rest, first <+: u ∧
      ∀ before, linesFrom before u = (before.reverse ++ first) :: rest := by
  induction u with
  | nil => exact ⟨[], [], List.prefix_rfl, fun before => by rw [linesFrom, List.append_nil]⟩
  | cons c cs ih =>
    obtain ⟨first, rest, hprefix, hlines⟩ := ih
    by_cases hc : c = '\n'
    · refine ⟨[], first :: rest, List.nil_prefix, fun before => ?_⟩
      rw [linesFrom, if_pos hc, hlines, List.append_nil]
      rfl
    · refine ⟨c :: first, rest, List.cons_prefix_cons.2 ⟨rfl, hprefix⟩, fun before => ?_⟩
      rw [linesFrom, if_neg hc, hlines, List.reverse_cons, List.append_assoc]
      rfl

end

section

variable {c : Char} {m s t : List Char} {markers : List (List Char)}

theorem isPrefixOf_append_cons (h : c ∉ m) : m.isPrefixOf (s ++ c :: t) = m.isPrefixOf s := by
  induction m generalizing s with
  | nil => rfl
  | cons d m ih =>
    rw [List.mem_cons, not_or] at h
    cases s with
    | nil => simp [List.isPrefixOf, Ne.symm h.1]
    | cons e s => simp [List.isPrefixOf, ih h.2]

theorem markerLength?_congr (h : ∀ m ∈ markers, m.isPrefixOf s = m.isPrefixOf t) :
    markerLength? markers s = markerLength? markers t := by
  induction markers with
  | nil => rfl
  | cons m markers ih =>
    have hrest := ih fun m hm => h m (List.mem_cons_of_mem _ hm)
    unfold markerLength? at hrest ⊢
    rw [List.find?_cons, List.find?_cons, h m List.mem_cons_self]
    split
    · rfl
    · exact hrest

theorem markerLength?_append_cons (h : ∀ m ∈ markers, c ∉ m) :
    markerLength? markers (s ++ c :: t) = markerLength? markers s :=
  markerLength?_congr fun m hm => isPrefixOf_append_cons (h m hm)

theorem markerLength?_cons_append_cons (h : ∀ m ∈ markers, c ∉ m.tail) (d : Char) :
    markerLength? markers (d :: s ++ c :: t) = markerLength? markers (d :: s) := by
  apply markerLength?_congr
  intro m hm
  cases m with
  | nil => rfl
  | cons e m =>
    have hc : c ∉ m := h (e :: m) hm
    simp [List.isPrefixOf, isPrefixOf_append_cons hc]

theorem markerLength?_of_append (h : markerLength? markers (s ++ t) = none) :
    markerLength? markers s = none := by
  rw [markerLength?, Option.map_eq_none_iff, List.find?_eq_none] at h ⊢
  intro m hm hprefix
  apply h m hm
  rw [List.isPrefixOf_iff_prefix] at hprefix ⊢
  exact hprefix.trans (List.prefix_append s t)

theorem closerLength?_of_append (h : closerLength? (s ++ t) = none) : closerLength? s = none := by
  unfold closerLength? at h ⊢
  cases hmarker : markerLength? (closers.map List.reverse) (s ++ t) with
  | some n => simp [hmarker] at h
  | none =>
    rw [hmarker] at h
    rw [markerLength?_of_append hmarker]
    dsimp only at h ⊢
    split
    · exact h
    · rfl

theorem closerLength?_append_cons (hc : isWhitespace c) (hne : s ≠ []) (hstar : s ≠ ['*']) :
    closerLength? (s ++ c :: t) = closerLength? s := by
  have hblanks : ∀ m ∈ closers.map List.reverse, m.all (!isWhitespace ·) := by decide
  have hmarkers : ∀ m ∈ closers.map List.reverse, c ∉ m := by
    intro m hm hmem
    have hletter := List.all_eq_true.1 (hblanks m hm) c hmem
    rw [hc] at hletter
    cases hletter
  have hlength : markerLength? (closers.map List.reverse) (s ++ c :: t) =
      markerLength? (closers.map List.reverse) s := markerLength?_append_cons hmarkers
  unfold closerLength?
  rw [hlength]
  cases markerLength? (closers.map List.reverse) s with
  | some n => rfl
  | none =>
    obtain ⟨d, ds, rfl⟩ := List.exists_cons_of_ne_nil hne
    by_cases hd : d = '*'
    · subst hd
      cases ds with
      | nil => exact absurd rfl hstar
      | cons e es => rfl
    · simp [hd]

theorem le_length_of_markerLength? {n : Nat} (h : markerLength? markers s = some n) :
    n ≤ s.length := by
  obtain ⟨m, hfind, rfl⟩ := Option.map_eq_some_iff.1 h
  have hprefix : m.isPrefixOf s = true := by simpa using List.find?_some hfind
  exact (List.isPrefixOf_iff_prefix.1 hprefix).length_le

theorem blankMarkersAfter_append_cons {length? : List Char → Option Nat} {n : Nat}
    (hlength : ∀ d ds, length? (d :: ds ++ c :: t) = length? (d :: ds))
    (hbound : ∀ s n, length? s = some n → n ≤ s.length)
    (hstop : blankMarkersAfter length? 0 (c :: t) = c :: t) (hn : n ≤ s.length) :
    blankMarkersAfter length? n (s ++ c :: t) = blankMarkersAfter length? n s ++ c :: t := by
  induction s generalizing n with
  | nil =>
    obtain rfl := Nat.le_zero.1 hn
    exact hstop
  | cons d ds ih =>
    cases n with
    | succ n =>
      rw [List.cons_append, blankMarkersAfter, blankMarkersAfter, List.cons_append,
        ih (Nat.le_of_succ_le_succ hn)]
    | zero =>
      have hfirst := hlength d ds
      rw [List.cons_append] at hfirst ⊢
      rw [blankMarkersAfter, blankMarkersAfter, hfirst]
      split
      · rw [ih (Nat.zero_le _), List.cons_append]
      · cases hmarker : length? (d :: ds) with
        | none => rfl
        | some n =>
          have hle : n ≤ ds.length + 1 := hbound _ _ hmarker
          dsimp only
          rw [ih (by omega), List.cons_append]

theorem blankOpeners_append_cons (hmarkers : ∀ m ∈ openers, c ∉ m)
    (hstop : blankOpeners (c :: t) = c :: t) (line : List Char) :
    blankOpeners (line ++ c :: t) = blankOpeners line ++ c :: t :=
  blankMarkersAfter_append_cons (fun _ _ => markerLength?_append_cons hmarkers)
    (fun _ _ => le_length_of_markerLength?) hstop (Nat.zero_le _)

theorem blankOpeners_append_return (line : List Char) :
    blankOpeners (line ++ ['\r']) = blankOpeners line ++ ['\r'] :=
  blankOpeners_append_cons (by decide) rfl line

theorem blankClosers_append_return (line : List Char) :
    blankClosers (line ++ ['\r']) = blankClosers line ++ ['\r'] := by
  have hblank : isWhitespace '\r' = true := rfl
  simp [blankClosers, blankMarkersAfter, hblank]

theorem span_append_singleton {p : Char → Bool} (h : s.dropWhile p ≠ []) :
    (s ++ [c]).takeWhile p = s.takeWhile p ∧ (s ++ [c]).dropWhile p = s.dropWhile p ++ [c] := by
  have htake : (s.takeWhile p).length ≠ s.length := by
    intro hlength
    have hsplit := congrArg List.length (List.takeWhile_append_dropWhile (p := p) (l := s))
    rw [List.length_append, hlength, Nat.add_eq_left, List.length_eq_zero_iff] at hsplit
    exact h hsplit
  rw [List.takeWhile_append, if_neg htake, List.dropWhile_append, if_neg (by simpa using h)]
  exact ⟨rfl, rfl⟩

theorem dropWhile_append_singleton {p : Char → Bool} (hc : p c) (h : s.dropWhile p = []) :
    (s ++ [c]).dropWhile p = [] := by
  simp [List.dropWhile_append, h, hc]

theorem blankAfterOptional_append_return (line : List Char) :
    blankAfterOptional (line ++ ['\r']) = blankAfterOptional line ++ ['\r'] := by
  have hkeyword : '\r' ∉ optionalKeyword := by decide
  have hend : '\r' ∉ ['>', '>'] := by decide
  unfold blankAfterOptional
  by_cases hrest : line.dropWhile isWhitespace = []
  · have hreturn := dropWhile_append_singleton (c := '\r') rfl hrest
    simp only [hrest, hreturn]
    rfl
  · obtain ⟨hspace, hreturn⟩ := span_append_singleton (c := '\r') hrest
    simp only [hspace, hreturn, isPrefixOf_append_cons hkeyword]
    split
    · generalize line.dropWhile isWhitespace = rest
      by_cases hbehind : rest.dropWhile (· ≠ '>') = []
      · have hreturn := dropWhile_append_singleton (c := '\r') (by decide) hbehind
        simp only [hbehind, hreturn]
        rfl
      · obtain ⟨hrule, hreturn⟩ := span_append_singleton (c := '\r') hbehind
        simp only [hrule, hreturn, isPrefixOf_append_cons hend]
        split
        · rename_i hprefix
          have hlength : 2 ≤ (rest.dropWhile (· ≠ '>')).length :=
            (List.isPrefixOf_iff_prefix.1 hprefix).length_le
          rw [List.drop_append_of_le_length hlength, blankOpeners_append_return]
          simp only [List.append_assoc]
        · rfl
    · rfl

theorem blankLine_append_return (line : List Char) :
    blankLine (line ++ ['\r']) = blankLine line ++ ['\r'] := by
  rw [blankLine, blankClosers_append_return, blankOpeners_append_return,
    blankAfterOptional_append_return, blankLine]

theorem blankEndedLine_eq (line : List Char) : blankEndedLine line = blankLine line := by
  unfold blankEndedLine
  split
  · rename_i hlast
    rw [← blankLine_append_return, List.dropLast_append_getLast? '\r' hlast]
  · rfl

end

section

variable {ls ls' : List (List Char)}

theorem blankLines_cons (line : List Char) (h : ls ≠ []) :
    blankLines (line :: ls) = blankLine line ++ '\n' :: blankLines ls := by
  cases ls with
  | nil => exact absurd rfl h
  | cons next rest =>
    rw [blankLines, blankEndedLine_eq]
    exact List.cons_ne_nil _ _

theorem blankLines_append (h : ls ≠ []) (h' : ls' ≠ []) :
    blankLines (ls ++ ls') = blankLines ls ++ '\n' :: blankLines ls' := by
  induction ls with
  | nil => exact absurd rfl h
  | cons line rest ih =>
    rw [List.cons_append, blankLines_cons line (by simp [h'])]
    cases rest with
    | nil => rfl
    | cons next rest =>
      rw [ih (List.cons_ne_nil _ _), blankLines_cons line (List.cons_ne_nil _ _)]
      simp

theorem stripComments_append_lineFeed (u v : List Char) :
    stripComments (u ++ '\n' :: v) = stripComments u ++ '\n' :: stripComments v := by
  rw [stripComments, lines_append_lineFeed, blankLines_append (lines_ne_nil u) (lines_ne_nil v)]
  rfl

end

end Licensing.Text
