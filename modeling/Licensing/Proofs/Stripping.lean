import Licensing.Proofs.Overwriting

namespace Licensing.Text

/-- White space and markers, one behind the other. -/
inductive Covered (markers : List (List Char)) : List Char → Prop where
  | nil : Covered markers []
  | blank {c : Char} {s : List Char} (hc : isWhitespace c) (h : Covered markers s) :
      Covered markers (c :: s)
  | marker {m s : List Char} (hm : m ∈ markers) (h : Covered markers s) : Covered markers (m ++ s)

section

variable {markers : List (List Char)} {length? : List Char → Option Nat} {m s : List Char} {n : Nat}

theorem dropWhile_of_head? (h : ∀ c ∈ s.head?, isWhitespace c = false) :
    s.dropWhile isWhitespace = s := by
  cases s with
  | nil => rfl
  | cons c cs => rw [List.dropWhile_cons_of_neg (by simp [h c rfl])]

theorem takeWhile_of_head? (h : ∀ c ∈ s.head?, isWhitespace c = false) :
    s.takeWhile isWhitespace = [] := by
  cases s with
  | nil => rfl
  | cons c cs => rw [List.takeWhile_cons_of_neg (by simp [h c rfl])]

theorem dropWhile_append_of_isBlank {blanks : List Char} (h : isBlank blanks) (s : List Char) :
    (blanks ++ s).dropWhile isWhitespace = s.dropWhile isWhitespace :=
  List.dropWhile_append_of_pos (isBlank_iff.1 h)

theorem dropWhile_append_cons {c : Char} {t : List Char} (hc : isWhitespace c = false) :
    (s ++ c :: t).dropWhile isWhitespace = s.dropWhile isWhitespace ++ c :: t := by
  rw [List.dropWhile_append, List.dropWhile_cons_of_neg (by simp [hc])]
  split
  · rename_i hempty
    rw [List.isEmpty_iff.1 hempty, List.nil_append]
  · rfl

theorem blankMarkersAfter_of_dropWhile (h : length? (s.dropWhile isWhitespace) = none) :
    blankMarkersAfter length? 0 s = s := by
  induction s with
  | nil => rfl
  | cons c cs ih =>
    by_cases hc : isWhitespace c
    · rw [List.dropWhile_cons_of_pos hc] at h
      rw [blankMarkersAfter, if_pos hc, ih h]
    · rw [List.dropWhile_cons_of_neg hc] at h
      rw [blankMarkersAfter, if_neg hc, h]

theorem FindsMarkers.dropWhile_blankMarkersAfter (h : FindsMarkers markers length?)
    (s : List Char) : length? ((blankMarkersAfter length? 0 s).dropWhile isWhitespace) = none := by
  refine h.induction (P := fun _ s' => length? (s'.dropWhile isWhitespace) = none) ?_ ?_ ?_ s
  · intro s hlength hhead
    rwa [dropWhile_of_head? hhead]
  · intro c s s' hc ih
    rwa [List.dropWhile_cons_of_pos hc]
  · intro u v s' _ _ _ ih
    rwa [dropWhile_append_of_isBlank (isBlank_replicate _)]

theorem FindsMarkers.exists_blankMarkersAfter (h : FindsMarkers markers length?)
    {found : List (List Char)} (hfound : ∀ u v, length? (u ++ v) = some u.length → u ∈ found)
    (s : List Char) : ∃ front blanks rest, Covered found front ∧ s = front ++ rest ∧
      blankMarkersAfter length? 0 s = blanks ++ rest ∧ blanks.length = front.length ∧
      isBlank blanks ∧ length? rest = none ∧ ∀ c ∈ rest.head?, isWhitespace c = false := by
  refine h.induction (P := fun s s' => ∃ front blanks rest, Covered found front ∧
    s = front ++ rest ∧ s' = blanks ++ rest ∧ blanks.length = front.length ∧ isBlank blanks ∧
    length? rest = none ∧ ∀ c ∈ rest.head?, isWhitespace c = false) ?_ ?_ ?_ s
  · intro s hlength hhead
    exact ⟨[], [], s, .nil, rfl, rfl, rfl, rfl, hlength, hhead⟩
  · rintro c _ _ hc ⟨front, blanks, rest, hfront, rfl, rfl, hsize, hblanks, hrest⟩
    exact ⟨c :: front, c :: blanks, rest, .blank hc hfront, rfl, rfl, congrArg (· + 1) hsize,
      isBlank_cons.2 ⟨hc, hblanks⟩, hrest⟩
  · rintro u _ _ _ _ hlength ⟨front, blanks, rest, hfront, rfl, rfl, hsize, hblanks, hrest⟩
    refine ⟨u ++ front, List.replicate u.length ' ' ++ blanks, rest,
      .marker (hfound _ _ hlength) hfront, by rw [List.append_assoc], by rw [List.append_assoc],
      ?_, isBlank_append.2 ⟨isBlank_replicate _, hblanks⟩, hrest⟩
    rw [List.length_append, List.length_append, List.length_replicate, hsize]

end

def Unopened (line : List Char) : Prop :=
  openerLength? (line.dropWhile isWhitespace) = none

def Unclosed (line : List Char) : Prop :=
  closerLength? (line.reverse.dropWhile isWhitespace) = none

section

variable {line s u v front behind : List Char} {n : Nat}

theorem markerLength?_append {markers : List (List Char)}
    (h : markerLength? markers (u ++ v) = some u.length) : u ∈ markers := by
  obtain ⟨m, hfind, hlength⟩ := Option.map_eq_some_iff.1 h
  have hprefix : m.isPrefixOf (u ++ v) = true := by simpa using List.find?_some hfind
  obtain ⟨w, hw⟩ := List.isPrefixOf_iff_prefix.1 hprefix
  obtain ⟨rfl, -⟩ := List.append_inj hw hlength
  exact List.mem_of_find?_eq_some hfind

theorem closerLength?_append (h : closerLength? (u ++ v) = some u.length) :
    u ∈ ['*'] :: closers.map List.reverse := by
  unfold closerLength? at h
  split at h
  · rename_i hmarker
    exact List.mem_cons_of_mem _ (markerLength?_append (hmarker.trans h))
  · split at h
    · rename_i c cs hsplit
      split at h
      · obtain ⟨d, rfl⟩ := List.length_eq_one_iff.1 (Option.some.inj h).symm
        obtain rfl : d = '*' := (List.cons.inj hsplit).1
        exact List.mem_cons_self
      · cases h
    · cases h

theorem exists_blankOpeners (line : List Char) : ∃ front blanks rest, Covered openers front ∧
    line = front ++ rest ∧ blankOpeners line = blanks ++ rest ∧ blanks.length = front.length ∧
    isBlank blanks ∧ openerLength? rest = none ∧ ∀ c ∈ rest.head?, isWhitespace c = false :=
  findsMarkers_openerLength?.exists_blankMarkersAfter (fun _ _ => markerLength?_append) line

theorem exists_blankClosers (line : List Char) : ∃ rest back blanks, line = rest ++ back ∧
    blankClosers line = rest ++ blanks ∧ blanks.length = back.length ∧ isBlank blanks ∧
    ∀ c ∈ rest.getLast?, isWhitespace c = false := by
  obtain ⟨front, blanks, rest, -, hline, hpass, hsize, hblanks, -, hhead⟩ :=
    findsMarkers_closerLength?.exists_blankMarkersAfter (fun _ _ => closerLength?_append)
      line.reverse
  refine ⟨rest.reverse, front.reverse, blanks.reverse, ?_, ?_, by simpa using hsize,
    isBlank_reverse.2 hblanks, by rwa [List.getLast?_reverse]⟩
  · rw [← List.reverse_append, ← hline, List.reverse_reverse]
  · rw [blankClosers, hpass, List.reverse_append]

theorem unopened_blankOpeners (line : List Char) : Unopened (blankOpeners line) :=
  findsMarkers_openerLength?.dropWhile_blankMarkersAfter line

theorem unclosed_blankClosers (line : List Char) : Unclosed (blankClosers line) := by
  rw [Unclosed, blankClosers, List.reverse_reverse]
  exact findsMarkers_closerLength?.dropWhile_blankMarkersAfter line.reverse

theorem Unopened.blankOpeners_eq (h : Unopened line) : blankOpeners line = line :=
  blankMarkersAfter_of_dropWhile h

theorem Unclosed.blankClosers_eq (h : Unclosed line) : blankClosers line = line := by
  rw [blankClosers, blankMarkersAfter_of_dropWhile h, List.reverse_reverse]

theorem blankOpeners_blankOpeners (line : List Char) :
    blankOpeners (blankOpeners line) = blankOpeners line :=
  (unopened_blankOpeners line).blankOpeners_eq

theorem Unclosed.append_blank (h : isBlank s) : Unclosed (u ++ s) ↔ Unclosed u := by
  rw [Unclosed, List.reverse_append, dropWhile_append_of_isBlank (isBlank_reverse.2 h), Unclosed]

theorem dropWhile_reverse_append_cons {c : Char} (hc : isWhitespace c = false) (u v : List Char) :
    (u ++ c :: v).reverse.dropWhile isWhitespace =
      v.reverse.dropWhile isWhitespace ++ [c] ++ u.reverse := by
  rw [List.reverse_append, List.reverse_cons, List.append_assoc, List.append_assoc]
  exact dropWhile_append_cons hc

theorem Unclosed.append_blankOpeners (h : Unclosed (u ++ s)) (hu : Unclosed u) :
    Unclosed (u ++ blankOpeners s) := by
  obtain ⟨front, blanks, rest, -, rfl, hpass, hsize, hblanks, hopener, hhead⟩ :=
    exists_blankOpeners s
  rw [hpass]
  cases rest with
  | nil =>
    rw [List.append_nil]
    exact (append_blank hblanks).2 hu
  | cons c cs =>
    have hc : isWhitespace c = false := hhead c rfl
    -- A star in front of the rest would have been overwritten.
    have hstar : cs.reverse.dropWhile isWhitespace ++ [c] ≠ ['*'] := by
      intro heq
      have hsplit : cs.reverse.dropWhile isWhitespace ++ [c] = [] ++ ['*'] := heq
      obtain ⟨-, hlast⟩ := List.append_inj' hsplit rfl
      obtain rfl : c = '*' := List.singleton_inj.1 hlast
      cases hopener
    rw [Unclosed, ← List.append_assoc, dropWhile_reverse_append_cons hc, List.reverse_append] at h ⊢
    cases hback : blanks.reverse with
    | nil =>
      obtain rfl := List.reverse_eq_nil_iff.1 hback
      obtain rfl := List.length_eq_zero_iff.1 hsize.symm
      exact h
    | cons d ds =>
      have hd : isWhitespace d := by
        refine isBlank_iff.1 hblanks d (List.mem_reverse.1 ?_)
        rw [hback]
        exact List.mem_cons_self
      rw [List.cons_append, closerLength?_append_cons hd (by simp) hstar]
      exact closerLength?_of_append h

/-- The start of a line up to the end of a rule that opens an optional region. -/
def OpensOptional (front : List Char) : Prop :=
  ∃ space rule, isBlank space ∧ '>' ∉ rule ∧
    front = space ++ (optionalKeyword ++ rule ++ ['>', '>'])

def cutOptional? (line : List Char) : Option (List Char × List Char) :=
  let rest := line.dropWhile isWhitespace
  let behind := rest.dropWhile (· ≠ '>')
  if optionalKeyword.isPrefixOf rest then
    if ['>', '>'].isPrefixOf behind then
      some (line.takeWhile isWhitespace ++ rest.takeWhile (· ≠ '>') ++ ['>', '>'], behind.drop 2)
    else none
  else none

theorem blankAfterOptional_eq (line : List Char) : blankAfterOptional line =
    (cutOptional? line).elim line fun (front, behind) => front ++ blankOpeners behind := by
  unfold blankAfterOptional cutOptional?
  dsimp only
  split
  · split <;> rfl
  · rfl

theorem passesKeyword : ∀ c ∈ optionalKeyword, decide (c ≠ '>') = true :=
  List.all_eq_true.1 rfl

theorem OpensOptional.dropWhile_append (h : OpensOptional front) (behind : List Char) :
    ∃ rest, (front ++ behind).dropWhile isWhitespace = '<' :: '<' :: rest := by
  obtain ⟨space, rule, hspace, -, rfl⟩ := h
  rw [List.append_assoc, dropWhile_append_of_isBlank hspace]
  exact ⟨_, rfl⟩

theorem OpensOptional.cutOptional?_append (h : OpensOptional front) (behind : List Char) :
    cutOptional? (front ++ behind) = some (front, behind) := by
  obtain ⟨space, rule, hspace, hrule, rfl⟩ := h
  have hbody : ∀ c ∈ optionalKeyword ++ rule, decide (c ≠ '>') = true :=
    List.forall_mem_append.2 ⟨passesKeyword, fun c hc => decide_eq_true fun heq => hrule (heq ▸ hc)⟩
  have hline : space ++ (optionalKeyword ++ rule ++ ['>', '>']) ++ behind =
      space ++ (optionalKeyword ++ rule ++ '>' :: '>' :: behind) := by simp
  have hspaceRest (rest : List Char) :
      (space ++ (optionalKeyword ++ rest)).takeWhile isWhitespace = space ∧
        (space ++ (optionalKeyword ++ rest)).dropWhile isWhitespace = optionalKeyword ++ rest := by
    rw [List.takeWhile_append_of_pos (isBlank_iff.1 hspace), dropWhile_append_of_isBlank hspace]
    exact ⟨List.append_nil _, rfl⟩
  have hprefix : optionalKeyword.isPrefixOf (optionalKeyword ++ rule ++ '>' :: '>' :: behind) := by
    rw [List.isPrefixOf_iff_prefix, List.append_assoc]
    exact List.prefix_append _ _
  have htake : (optionalKeyword ++ rule ++ '>' :: '>' :: behind).takeWhile (· ≠ '>') =
      optionalKeyword ++ rule := by
    rw [List.takeWhile_append_of_pos hbody]
    simp
  have hdrop : (optionalKeyword ++ rule ++ '>' :: '>' :: behind).dropWhile (· ≠ '>') =
      '>' :: '>' :: behind := by
    rw [List.dropWhile_append_of_pos hbody]
    simp
  obtain ⟨hspaceTake, hspaceDrop⟩ := hspaceRest (rule ++ '>' :: '>' :: behind)
  rw [← List.append_assoc optionalKeyword] at hspaceTake hspaceDrop
  rw [hline, cutOptional?]
  simp only [hspaceTake, hspaceDrop, hprefix, htake, hdrop]
  simp

theorem eq_of_cutOptional? (h : cutOptional? line = some (front, behind)) :
    line = front ++ behind ∧ OpensOptional front := by
  unfold cutOptional? at h
  dsimp only at h
  split at h
  · rename_i hkeyword
    split at h
    · rename_i hend
      obtain ⟨rest, hrest⟩ := List.isPrefixOf_iff_prefix.1 hkeyword
      obtain ⟨after, hafter⟩ := List.isPrefixOf_iff_prefix.1 hend
      have hbody : (line.dropWhile isWhitespace).takeWhile (· ≠ '>') =
          optionalKeyword ++ rest.takeWhile (· ≠ '>') := by
        rw [← hrest, List.takeWhile_append_of_pos passesKeyword]
      obtain ⟨rfl, rfl⟩ := Prod.mk.inj (Option.some.inj h)
      have hdrop : (['>', '>'] ++ after).drop 2 = after := rfl
      constructor
      · rw [List.append_assoc, List.append_assoc, ← hafter, hdrop, hafter,
          List.takeWhile_append_dropWhile, List.takeWhile_append_dropWhile]
      · refine ⟨line.takeWhile isWhitespace, rest.takeWhile (· ≠ '>'), isBlank_takeWhile line,
          fun hmem => ?_, ?_⟩
        · have hne := List.mem_takeWhile_imp hmem
          simp at hne
        · rw [hbody, List.append_assoc]
    · cases h
  · cases h

theorem OpensOptional.unopened (h : OpensOptional front) (behind : List Char) :
    Unopened (front ++ behind) := by
  obtain ⟨rest, hrest⟩ := h.dropWhile_append behind
  rw [Unopened, hrest]
  rfl

theorem OpensOptional.unclosed (h : OpensOptional front) : Unclosed front := by
  obtain ⟨space, rule, -, -, rfl⟩ := h
  rw [Unclosed, ← List.append_assoc, List.reverse_append]
  rfl

theorem bare_blankLine (line : List Char) : Unclosed (blankLine line) ∧ Unopened (blankLine line) ∧
    blankAfterOptional (blankLine line) = blankLine line := by
  have hunopened := unopened_blankOpeners (blankClosers line)
  have hunclosed : Unclosed (blankOpeners (blankClosers line)) :=
    Unclosed.append_blankOpeners (u := []) (unclosed_blankClosers line) rfl
  rw [blankLine, blankAfterOptional_eq]
  cases hcut : cutOptional? (blankOpeners (blankClosers line)) with
  | none => exact ⟨hunclosed, hunopened, by rw [Option.elim_none, blankAfterOptional_eq, hcut]; rfl⟩
  | some parts =>
    obtain ⟨front, behind⟩ := parts
    obtain ⟨heq, hfront⟩ := eq_of_cutOptional? hcut
    rw [heq] at hunclosed
    refine ⟨hunclosed.append_blankOpeners hfront.unclosed, hfront.unopened _, ?_⟩
    rw [blankAfterOptional_eq, Option.elim_some, hfront.cutOptional?_append, Option.elim_some]
    exact congrArg (front ++ ·) (blankOpeners_blankOpeners behind)

theorem blankLine_blankLine (line : List Char) : blankLine (blankLine line) = blankLine line := by
  obtain ⟨hunclosed, hunopened, hoptional⟩ := bare_blankLine line
  rw [blankLine, hunclosed.blankClosers_eq, hunopened.blankOpeners_eq, hoptional]

end

theorem lineFeed_not_mem_blankLine {line : List Char} (h : '\n' ∉ line) :
    '\n' ∉ blankLine line := by
  intro hmem
  rcases (overwritten_blankLine line).mem hmem with hline | hblank
  · exact h hline
  · exact absurd hblank (by decide)

theorem stripComments_of_not_mem {line : List Char} (h : '\n' ∉ line) :
    stripComments line = blankLine line := by
  rw [stripComments, lines_of_not_mem h, blankLines]

theorem lines_stripComments (s : List Char) :
    lines (stripComments s) = (lines s).map blankLine := by
  induction s using lines_induction with
  | last line hline =>
    rw [stripComments_of_not_mem hline, lines_of_not_mem hline,
      lines_of_not_mem (lineFeed_not_mem_blankLine hline), List.map_singleton]
  | next line rest hline ih =>
    rw [stripComments_append_lineFeed, stripComments_of_not_mem hline, lines_line_append hline,
      lines_line_append (lineFeed_not_mem_blankLine hline), ih, List.map_cons]

/-- A stripped text is left as it is, and prepared as the text that it comes from. -/
theorem stripComments_stripComments (s : List Char) :
    stripComments (stripComments s) = stripComments s ∧
      ∀ f : Folding, Document.ofText f (stripComments s) = Document.ofText f s := by
  have hstrip : stripComments (stripComments s) = stripComments s := by
    induction s using lines_induction with
    | last line hline =>
      rw [stripComments_of_not_mem hline,
        stripComments_of_not_mem (lineFeed_not_mem_blankLine hline), blankLine_blankLine]
    | next line rest hline ih =>
      rw [stripComments_append_lineFeed, stripComments_append_lineFeed, ih,
        stripComments_of_not_mem hline,
        stripComments_of_not_mem (lineFeed_not_mem_blankLine hline), blankLine_blankLine]
  refine ⟨hstrip, fun f => ?_⟩
  rw [Document.ofText, hstrip, Document.ofText]

end Licensing.Text
