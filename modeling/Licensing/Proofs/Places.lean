import Licensing.Proofs.Joints
import Licensing.Proofs.Lines
import Licensing.Proofs.Slices

namespace Licensing.Text

open Licensing.Unicode

/-- A way to cut lines into consecutive pieces, none of which is empty. -/
structure Segmentation where
  pieces : List Char → List (List Char)
  flatten_pieces {s : List Char} (hline : '\n' ∉ s) : (pieces s).flatten = s
  nil_notMem_pieces {s : List Char} (hline : '\n' ∉ s) : [] ∉ pieces s

namespace Segmentation

def graphemes : Segmentation where
  pieces := clusters
  flatten_pieces _ := clusters_flatten _
  nil_notMem_pieces _ := fun hmem => ne_nil_of_mem_clusters hmem rfl

variable (σ : Segmentation) (f : Folding)

/-- The tokens of lines, the first of which is line `line` and starts at the byte `start`. -/
def tokensOfLines (line start : Nat) : List (List Char) → List Token
  | [] => []
  | s :: rest =>
    lineTokensFrom line [] (glyphs f 0 start (σ.pieces s)) ++
      tokensOfLines (line + 1) (start + byteLength s + 1) rest

/-- All tokens of a text, skippable ones included. -/
def rawTokens (s : List Char) : List Token :=
  σ.tokensOfLines f 1 0 (lines s)

/-- The tokens of a text that take part in a comparison. -/
def tokenize (s : List Char) : List Token :=
  keptTokens f (σ.rawTokens f s)

theorem tokensOfLines_graphemes (line start : Nat) (ls : List (List Char)) :
    graphemes.tokensOfLines f line start ls = Text.tokensOfLines f line start ls := by
  induction ls generalizing line start with
  | nil => rfl
  | cons s rest ih =>
    rw [tokensOfLines, Text.tokensOfLines, ih]
    rfl

theorem rawTokens_graphemes (s : List Char) : graphemes.rawTokens f s = Text.rawTokens f s :=
  tokensOfLines_graphemes f 1 0 (lines s)

theorem tokenize_graphemes (s : List Char) : graphemes.tokenize f s = Text.tokenize f s := by
  rw [tokenize, rawTokens_graphemes, tokenize_eq]

end Segmentation

def Glyph.IsWide (g : Glyph) : Prop :=
  g.start + g.width < g.stop

/-- Both glyphs come from one piece. -/
structure Glyph.SamePlace (g h : Glyph) : Prop where
  column_eq : g.column = h.column
  width_eq : g.width = h.width
  start_eq : g.start = h.start
  stop_eq : g.stop = h.stop

/-- Glyphs that have no byte in common and stand in order, or that come from one piece. -/
structure Glyph.Precedes (g h : Glyph) : Prop where
  column_le : g.column ≤ h.column
  column_stop_le : g.column + g.width ≤ h.column + h.width
  surplus_le : g.start + h.column ≤ h.start + g.column
  surplus_stop_le : g.stop + (h.column + h.width) ≤ h.stop + (g.column + g.width)
  apart : g.stop ≤ h.start ∨ g.SamePlace h

section

variable {f : Folding} {column start low high : Nat} {part s u v : List Char}
  {parts : List (List Char)} {c : Char} {g h : Glyph} {gs : List Glyph}

theorem one_lt_utf8Size (hc : isAscii c = false) : 1 < c.utf8Size := by
  have hpos := c.utf8Size_pos
  have hne : c.utf8Size ≠ 1 := by
    intro hone
    have hle := Char.utf8Size_eq_one_iff.1 hone
    rw [isAscii, decide_eq_false_iff_not] at hc
    exact hc (Nat.lt_succ_of_le (UInt32.le_iff_toNat_le.1 hle))
  omega

theorem length_le_byteLength (s : List Char) : s.length ≤ byteLength s := by
  induction s with
  | nil => exact Nat.le_refl _
  | cons c cs ih =>
    have hpos := c.utf8Size_pos
    rw [List.length_cons, byteLength]
    omega

theorem length_lt_byteLength (hc : c ∈ s) (hascii : isAscii c = false) :
    s.length < byteLength s := by
  obtain ⟨u, v, rfl⟩ := List.append_of_mem hc
  have hu := length_le_byteLength u
  have hv := length_le_byteLength v
  have hsize := one_lt_utf8Size hascii
  rw [byteLength_append, byteLength, List.length_append, List.length_cons]
  omega

theorem length_foldCluster (f : Folding) (hnarrow : byteLength part ≤ part.length) :
    (foldCluster f part).length = part.length := by
  have hascii : ∀ c ∈ part, isAscii c := fun c hc => by
    by_contra hwide
    exact Nat.not_lt.2 hnarrow (length_lt_byteLength hc (Bool.eq_false_iff.2 hwide))
  have hchars : part.flatMap foldChar = part.map foldAscii := by
    rw [List.map_eq_flatMap]
    exact List.flatMap_congr fun c hc => foldChar_of_isAscii (hascii c hc)
  rw [foldCluster, List.all_eq_true.2 hascii]
  split
  · rfl
  · rw [Bool.not_true, Bool.and_false, if_neg Bool.false_ne_true, hchars, List.length_map]

namespace Glyph

theorem SamePlace.symm (hsame : g.SamePlace h) : h.SamePlace g :=
  ⟨hsame.column_eq.symm, hsame.width_eq.symm, hsame.start_eq.symm, hsame.stop_eq.symm⟩

theorem SamePlace.refl (g : Glyph) : g.SamePlace g :=
  ⟨rfl, rfl, rfl, rfl⟩

theorem SamePlace.precedes (hsame : g.SamePlace h) : g.Precedes h := by
  obtain ⟨hcolumn, hwidth, hstart, hstop⟩ := hsame
  refine ⟨?_, ?_, ?_, ?_, .inr ⟨hcolumn, hwidth, hstart, hstop⟩⟩ <;> omega

instance : Std.Refl Precedes :=
  ⟨fun g => (SamePlace.refl g).precedes⟩

end Glyph

theorem exists_piece_of_mem_glyphs (h : g ∈ glyphs f column start parts) :
    ∃ before source behind, parts.flatten = before ++ (source ++ behind) ∧ source ∈ parts ∧
      g.column = column + before.length ∧ g.width = source.length ∧
      g.start = start + byteLength before ∧ g.stop = g.start + byteLength source := by
  induction parts generalizing column start with
  | nil => cases h
  | cons part rest ih =>
    rw [glyphs, List.mem_append] at h
    rcases h with h | h
    · obtain ⟨c, -, rfl⟩ := List.mem_map.1 h
      exact ⟨[], part, rest.flatten, rfl, List.mem_cons_self, rfl, rfl, rfl, rfl⟩
    · obtain ⟨before, source, behind, hflatten, hmem, hcolumn, hwidth, hstart, hstop⟩ := ih h
      refine ⟨part ++ before, source, behind, ?_, List.mem_cons_of_mem part hmem, ?_, hwidth, ?_,
        hstop⟩
      · rw [List.flatten_cons, hflatten, List.append_assoc]
      · rw [hcolumn, List.length_append, Nat.add_assoc]
      · rw [hstart, byteLength_append, Nat.add_assoc]

theorem exists_piece_between (hparts : [] ∉ parts) {first last : Glyph}
    (hfirst : first ∈ glyphs f 0 start parts) (hlast : last ∈ glyphs f 0 start parts)
    (hcolumns : first.column ≤ last.column) : ∃ before source behind,
      parts.flatten = before ++ (source ++ behind) ∧ source ≠ [] ∧
        first.column = before.length ∧ last.column + last.width = before.length + source.length ∧
        first.start = start + byteLength before ∧
        last.stop = start + byteLength before + byteLength source := by
  obtain ⟨before, source, behind, hsplit, -, hcolumn, -, hstart, -⟩ :=
    exists_piece_of_mem_glyphs hfirst
  obtain ⟨before', source', behind', hsplit', hmem, hcolumn', hwidth, hstart', hstop⟩ :=
    exists_piece_of_mem_glyphs hlast
  rw [Nat.zero_add] at hcolumn hcolumn'
  obtain ⟨between, rfl⟩ : before <+: before' := by
    apply List.prefix_of_prefix_length_le ⟨_, hsplit.symm⟩ ⟨_, hsplit'.symm⟩
    rwa [← hcolumn, ← hcolumn']
  refine ⟨before, between ++ source', behind', ?_, ?_, hcolumn, ?_, hstart, ?_⟩
  · rw [hsplit', List.append_assoc, List.append_assoc]
  · refine List.append_ne_nil_of_right_ne_nil _ ?_
    rintro rfl
    exact hparts hmem
  · rw [hcolumn', hwidth, List.length_append, List.length_append, Nat.add_assoc]
  · rw [hstop, hstart', byteLength_append, byteLength_append]
    omega

theorem pairwise_glyphs (f : Folding) (column start : Nat) (parts : List (List Char)) :
    (glyphs f column start parts).Pairwise Glyph.Precedes := by
  induction parts generalizing column start with
  | nil => exact .nil
  | cons part rest ih =>
    rw [glyphs, List.pairwise_append]
    refine ⟨?_, ih _ _, ?_⟩
    · exact List.pairwise_map.2
        (List.pairwise_of_forall fun c d => Glyph.SamePlace.precedes ⟨rfl, rfl, rfl, rfl⟩)
    · intro g hg h hh
      obtain ⟨c, -, rfl⟩ := List.mem_map.1 hg
      obtain ⟨before, source, behind, -, -, hcolumn, hwidth, hstart, hstop⟩ :=
        exists_piece_of_mem_glyphs hh
      have hbytes := length_le_byteLength part
      have hbefore := length_le_byteLength before
      have hsource := length_le_byteLength source
      constructor <;> dsimp only <;> omega

theorem length_le_of_sublist_glyphs (hsub : gs.Sublist (glyphs f column start parts))
    (hgs : ∀ g ∈ gs, low ≤ g.column ∧ g.column + g.width ≤ high ∧ ¬g.IsWide) :
    gs.length ≤ high - low := by
  induction parts generalizing column start low gs with
  | nil =>
    rw [glyphs, List.sublist_nil] at hsub
    rw [hsub]
    exact Nat.zero_le _
  | cons part rest ih =>
    rw [glyphs, List.sublist_append_iff] at hsub
    obtain ⟨own, behind, rfl, hown, hbehind⟩ := hsub
    obtain ⟨hgsOwn, hgsBehind⟩ := List.forall_mem_append.1 hgs
    cases own with
    | nil => exact ih hbehind hgsBehind
    | cons g own =>
      obtain ⟨c, -, rfl⟩ := List.mem_map.1 (hown.subset List.mem_cons_self)
      obtain ⟨hlow, hhigh, hnarrow⟩ := hgsOwn _ List.mem_cons_self
      rw [Glyph.IsWide] at hnarrow
      dsimp only at hlow hhigh hnarrow
      have hownLength := hown.length_le
      rw [List.length_map, length_foldCluster f (by omega)] at hownLength
      have hbehindLength : behind.length ≤ high - (column + part.length) := by
        refine ih hbehind fun g hg => ⟨?_, (hgsBehind g hg).2⟩
        obtain ⟨before, -, -, -, -, hcolumn, -⟩ := exists_piece_of_mem_glyphs (hbehind.subset hg)
        omega
      rw [List.length_append]
      omega

end

/-- The groups of glyphs that make up tokens, empty ones among them. -/
def groupsFrom (word : List Glyph) : List Glyph → List (List Glyph)
  | [] => [word.reverse]
  | g :: gs =>
    if isWhitespace g.char then word.reverse :: groupsFrom [] gs
    else if isBoundaryMark g.char then word.reverse :: [g] :: groupsFrom [] gs
    else groupsFrom (g :: word) gs

def Token.IsWide (t : Token) : Prop :=
  t.start + t.position.length < t.stop

/-- The token takes up more than its own characters. -/
def Token.IsLoose (t : Token) : Prop :=
  t.text.length < t.position.length ∨ t.IsWide

/-- Tokens that have no byte in common and stand in order, or that are both loose. -/
structure Token.Precedes (t u : Token) : Prop where
  start_le : t.start ≤ u.start
  stop_le : t.stop ≤ u.stop
  apart : t.stop ≤ u.start ∨ t.IsLoose ∧ u.IsLoose

/-- The token is made up of a group of glyphs, and goes from the first of them on to the last. -/
structure Token.Spans (line : Nat) (group : List Glyph) (first last : Glyph) (t : Token) :
    Prop where
  first_mem : first ∈ group
  last_mem : last ∈ group
  first_precedes : ∀ g ∈ group, first.Precedes g
  precedes_last : ∀ g ∈ group, g.Precedes last
  length_eq : t.text.length = group.length
  position_eq : t.position = ⟨line, first.column, last.column + last.width - first.column⟩
  start_eq : t.start = first.start
  stop_eq : t.stop = last.stop

section

variable {α : Type} {f : Folding} {line column start : Nat} {parts : List (List Char)}
  {word group group' larger gs : List Glyph} {t u : Token} {first last first' last' g : Glyph}

theorem markToken_eq (line : Nat) (g : Glyph) : wordToken? line [g] = some (markToken line g) := by
  have hlength : g.column + g.width - g.column = g.width := Nat.add_sub_cancel_left _ _
  rw [markToken, String.singleton_eq_ofList, ← hlength]
  rfl

theorem lineTokensFrom_eq (line : Nat) (word gs : List Glyph) : lineTokensFrom line word gs =
    (groupsFrom word gs).filterMap fun group => wordToken? line group.reverse := by
  induction gs generalizing word with
  | nil => cases h : wordToken? line word <;> simp [lineTokensFrom, groupsFrom, h]
  | cons g gs ih =>
    rw [lineTokensFrom, groupsFrom]
    split
    · cases h : wordToken? line word <;> simp [ih, h]
    · split
      · cases h : wordToken? line word <;> simp [ih, h, markToken_eq]
      · exact ih (g :: word)

theorem flatten_groupsFrom_sublist (word gs : List Glyph) :
    (groupsFrom word gs).flatten.Sublist (word.reverse ++ gs) := by
  induction gs generalizing word with
  | nil => simp [groupsFrom]
  | cons g gs ih =>
    rw [groupsFrom]
    split
    · exact (List.Sublist.refl _).append ((ih []).cons g)
    · split
      · exact (List.Sublist.refl _).append ((ih []).cons_cons g)
      · have hrest := ih (g :: word)
        rwa [List.reverse_cons, ← List.append_cons] at hrest

theorem pairwise_append_sublist_flatten (groups : List (List α)) :
    groups.Pairwise fun l l' => (l ++ l').Sublist groups.flatten := by
  induction groups with
  | nil => exact .nil
  | cons l rest ih =>
    rw [List.flatten_cons]
    refine List.pairwise_cons.2 ⟨?_, ih.imp ?_⟩
    · exact fun l' hl' => (List.Sublist.refl l).append (List.sublist_flatten_of_mem hl')
    · exact fun h => h.trans (List.sublist_append_right l _)

theorem exists_spans (hgroup : group.Pairwise Glyph.Precedes)
    (h : wordToken? line group.reverse = some t) : ∃ first last, t.Spans line group first last := by
  cases hreverse : group.reverse with
  | nil => simp [hreverse, wordToken?] at h
  | cons last earlier =>
    obtain rfl : group = (last :: earlier).reverse := by rw [← hreverse, List.reverse_reverse]
    rw [hreverse] at h
    obtain rfl := Option.some.inj h
    have hne : (last :: earlier).reverse ≠ [] := by simp
    have hfirst : (last :: earlier).reverse.head hne = earlier.getLastD last := by
      rw [List.head_reverse, List.getLast_eq_getLastD]
    have hlast : (last :: earlier).reverse.getLast hne = last := List.getLast_reverse _
    refine ⟨_, _, List.head_mem hne, List.getLast_mem hne, fun g => hgroup.rel_head,
      fun g => hgroup.rel_getLast, ?_, ?_, ?_, ?_⟩
    · rw [String.length_ofList, List.length_map]
    · rw [hfirst, hlast]
    · rw [hfirst]
    · rw [hlast]

namespace Token.Spans

theorem isWide_of_mem (h : t.Spans line group first last) (hg : g ∈ group) (hwide : g.IsWide) :
    t.IsWide := by
  obtain ⟨hcolumn, -, hsurplus, -, -⟩ := h.first_precedes g hg
  obtain ⟨-, hcolumnStop, -, hsurplusStop, -⟩ := h.precedes_last g hg
  rw [Glyph.IsWide] at hwide
  rw [IsWide, h.position_eq, h.start_eq, h.stop_eq]
  dsimp only
  omega

theorem isLoose_of_sublist (h : t.Spans line group first last)
    (hlarger : larger.Sublist (glyphs f column start parts))
    (hlength : group.length < larger.length)
    (hplaces : ∀ g ∈ larger, ∃ h ∈ group, g.SamePlace h) : t.IsLoose := by
  by_cases hwide : t.IsWide
  · exact .inr hwide
  · have hcount : larger.length ≤ last.column + last.width - first.column := by
      refine length_le_of_sublist_glyphs hlarger fun g hg => ?_
      obtain ⟨g', hg', hcolumn, hwidth, hstart, hstop⟩ := hplaces g hg
      rw [Glyph.IsWide, hcolumn, hwidth, hstart, hstop]
      exact ⟨(h.first_precedes g' hg').column_le, (h.precedes_last g' hg').column_stop_le,
        fun hglyph => hwide (h.isWide_of_mem hg' hglyph)⟩
    left
    rw [h.length_eq, h.position_eq]
    exact Nat.lt_of_lt_of_le hlength hcount

theorem precedes (h : t.Spans line group first last) (h' : u.Spans line group' first' last')
    (hsub : (group ++ group').Sublist (glyphs f column start parts)) : t.Precedes u := by
  have hprecedes : ∀ g ∈ group, ∀ g' ∈ group', g.Precedes g' :=
    (List.pairwise_append.1 ((pairwise_glyphs f column start parts).sublist hsub)).2.2
  refine ⟨?_, ?_, ?_⟩
  · obtain ⟨hcolumn, -, hsurplus, -, -⟩ := hprecedes first h.first_mem first' h'.first_mem
    rw [h.start_eq, h'.start_eq]
    omega
  · obtain ⟨-, hcolumn, -, hsurplus, -⟩ := hprecedes last h.last_mem last' h'.last_mem
    rw [h.stop_eq, h'.stop_eq]
    omega
  · rw [h.stop_eq, h'.start_eq]
    refine (hprecedes last h.last_mem first' h'.first_mem).apart.imp_right fun hsame => ⟨?_, ?_⟩
    · -- The first glyph of the later token stands at the place of the last one here.
      have hlarger : (group ++ [first']).Sublist (group ++ group') :=
        (List.singleton_sublist.2 h'.first_mem).append_left group
      refine h.isLoose_of_sublist (hlarger.trans hsub) (by simp) ?_
      refine List.forall_mem_append.2 ⟨fun g hg => ⟨g, hg, .refl g⟩, ?_⟩
      exact List.forall_mem_singleton.2 ⟨last, h.last_mem, hsame.symm⟩
    · have hlarger : (last :: group').Sublist (group ++ group') :=
        (List.singleton_sublist.2 h.last_mem).append_right group'
      refine h'.isLoose_of_sublist (hlarger.trans hsub) (by simp) ?_
      exact List.forall_mem_cons.2 ⟨⟨first', h'.first_mem, hsame⟩, fun g hg => ⟨g, hg, .refl g⟩⟩

end Token.Spans

theorem pairwise_groups (gs : List Glyph) :
    (groupsFrom [] gs).Pairwise fun group group' => (group ++ group').Sublist gs :=
  (pairwise_append_sublist_flatten _).imp fun h => h.trans (flatten_groupsFrom_sublist [] gs)

theorem exists_spans_of_mem (hgs : gs.Pairwise Glyph.Precedes) (h : t ∈ lineTokensFrom line [] gs) :
    ∃ group first last, group.Sublist gs ∧ t.Spans line group first last := by
  rw [lineTokensFrom_eq, List.mem_filterMap] at h
  obtain ⟨group, hgroup, htoken⟩ := h
  have hsub : group.Sublist gs :=
    (List.sublist_flatten_of_mem hgroup).trans (flatten_groupsFrom_sublist [] gs)
  obtain ⟨first, last, hspans⟩ := exists_spans (hgs.sublist hsub) htoken
  exact ⟨group, first, last, hsub, hspans⟩

theorem pairwise_lineTokens (f : Folding) (line start : Nat) (parts : List (List Char)) :
    (lineTokensFrom line [] (glyphs f 0 start parts)).Pairwise Token.Precedes := by
  rw [lineTokensFrom_eq, List.pairwise_filterMap]
  apply (pairwise_groups _).imp
  intro group group' hsub t ht u hu
  have hgroups := (pairwise_glyphs f 0 start parts).sublist hsub
  rw [List.pairwise_append] at hgroups
  obtain ⟨first, last, hspans⟩ := exists_spans hgroups.1 ht
  obtain ⟨first', last', hspans'⟩ := exists_spans hgroups.2.1 hu
  exact hspans.precedes hspans' hsub

end

/-- The column behind a text: the number of characters behind its last line feed. -/
def lastColumn (s : List Char) : Nat :=
  (s.reverse.takeWhile (· ≠ '\n')).length

/-- The token has the place of the text `source` behind the text `before`. -/
structure Token.Covers (before source : List Char) (t : Token) : Prop where
  start_eq : t.start = byteLength before
  stop_eq : t.stop = byteLength before + byteLength source
  line_eq : t.position.line = before.count '\n' + 1
  column_eq : t.position.column = lastColumn before
  length_eq : t.position.length = source.length
  ne_nil : source ≠ []
  lineFeed : '\n' ∉ source

def Token.LiesIn (s : List Char) (t : Token) : Prop :=
  ∃ before source behind, s = before ++ (source ++ behind) ∧ t.Covers before source

section

variable {σ : Segmentation} {f : Folding} {before source behind front line s u v : List Char}
  {t : Token}

@[simp] theorem lastColumn_lineFeed (s : List Char) : lastColumn (s ++ ['\n']) = 0 := by
  simp [lastColumn]

theorem lastColumn_append (h : '\n' ∉ u) : lastColumn (s ++ u) = lastColumn s + u.length := by
  have hu : ∀ c ∈ u.reverse, decide (c ≠ '\n') = true := fun c hc =>
    decide_eq_true fun heq => h (heq ▸ List.mem_reverse.1 hc)
  rw [lastColumn, List.reverse_append, List.takeWhile_append_of_pos hu, List.length_append,
    List.length_reverse, Nat.add_comm, lastColumn]

theorem byteLength_pos (h : s ≠ []) : 0 < byteLength s :=
  Nat.lt_of_lt_of_le (List.length_pos_iff.2 h) (length_le_byteLength s)

namespace Token.Covers

theorem start_lt_stop (h : t.Covers before source) : t.start < t.stop := by
  have hpos := byteLength_pos h.ne_nil
  rw [h.start_eq, h.stop_eq]
  omega

theorem of_eq {t' : Token} (h : t.Covers before source) (hposition : t'.position = t.position)
    (hstart : t'.start = t.start) (hstop : t'.stop = t.stop) : t'.Covers before source := by
  constructor
  · exact hstart.trans h.start_eq
  · exact hstop.trans h.stop_eq
  · rw [hposition, h.line_eq]
  · rw [hposition, h.column_eq]
  · rw [hposition, h.length_eq]
  · exact h.ne_nil
  · exact h.lineFeed

theorem stop_le (h : t.Covers before source) (behind : List Char) :
    t.stop ≤ byteLength (before ++ (source ++ behind)) := by
  rw [h.stop_eq, byteLength_append, byteLength_append]
  omega

end Token.Covers

theorem exists_covers_of_mem_line (hfront : lastColumn front = 0) (hline : '\n' ∉ line)
    (h : t ∈ lineTokensFrom (front.count '\n' + 1) []
      (glyphs f 0 (byteLength front) (σ.pieces line))) :
    ∃ before source behind, line = before ++ (source ++ behind) ∧
      t.Covers (front ++ before) source := by
  obtain ⟨group, first, last, hsub, hspans⟩ := exists_spans_of_mem (pairwise_glyphs _ _ _ _) h
  obtain ⟨hfirst, hlast, hprecedes, -, -, hposition, hstart, hstop⟩ := hspans
  obtain ⟨before, source, behind, hsplit, hne, hcolumn, hcolumnStop, hstartBytes, hstopBytes⟩ :=
    exists_piece_between (σ.nil_notMem_pieces hline) (hsub.subset hfirst) (hsub.subset hlast)
      (hprecedes last hlast).column_le
  rw [σ.flatten_pieces hline] at hsplit
  have hfeed : '\n' ∉ before ∧ '\n' ∉ source := by
    rw [hsplit] at hline
    simp only [List.mem_append, not_or] at hline
    exact ⟨hline.1, hline.2.1⟩
  refine ⟨before, source, behind, hsplit, ?_, ?_, ?_, ?_, ?_, hne, hfeed.2⟩
  · rw [hstart, hstartBytes, byteLength_append]
  · rw [hstop, hstopBytes, byteLength_append]
  · rw [hposition, List.count_append, List.count_eq_zero.2 hfeed.1, Nat.add_zero]
  · rw [hposition, lastColumn_append hfeed.1, hfront, Nat.zero_add]
    exact hcolumn
  · rw [hposition, hcolumnStop, hcolumn]
    exact Nat.add_sub_cancel_left _ _

theorem covers_and_precedes_tokensOfLines (σ : Segmentation) (f : Folding) (s front : List Char)
    (hfront : lastColumn front = 0) :
    (∀ t ∈ σ.tokensOfLines f (front.count '\n' + 1) (byteLength front) (lines s),
      ∃ before source behind, s = before ++ (source ++ behind) ∧
        t.Covers (front ++ before) source) ∧
      (σ.tokensOfLines f (front.count '\n' + 1) (byteLength front) (lines s)).Pairwise
        Token.Precedes := by
  induction s using lines_induction generalizing front with
  | last line hline =>
    rw [lines_of_not_mem hline, Segmentation.tokensOfLines, Segmentation.tokensOfLines,
      List.append_nil]
    exact ⟨fun t ht => exists_covers_of_mem_line hfront hline ht, pairwise_lineTokens _ _ _ _⟩
  | next line rest hline ih =>
    have hcount : (front ++ line ++ ['\n']).count '\n' = front.count '\n' + 1 := by
      rw [List.count_append, List.count_append, List.count_eq_zero.2 hline]
      rfl
    have hbytes : byteLength (front ++ line ++ ['\n']) =
        byteLength front + byteLength line + 1 := by
      rw [byteLength_append, byteLength_append]
      rfl
    obtain ⟨hcovers, hpairwise⟩ := ih (front ++ line ++ ['\n']) (lastColumn_lineFeed _)
    rw [hcount, hbytes] at hcovers hpairwise
    rw [lines_line_append hline, Segmentation.tokensOfLines]
    refine ⟨?_, List.pairwise_append.2 ⟨pairwise_lineTokens _ _ _ _, hpairwise, ?_⟩⟩
    · intro t ht
      rcases List.mem_append.1 ht with ht | ht
      · obtain ⟨before, source, behind, rfl, hplace⟩ := exists_covers_of_mem_line hfront hline ht
        exact ⟨before, source, behind ++ '\n' :: rest, by simp, hplace⟩
      · obtain ⟨before, source, behind, rfl, hplace⟩ := hcovers t ht
        exact ⟨line ++ '\n' :: before, source, behind, by simp, by simpa using hplace⟩
    · intro t ht u hu
      obtain ⟨before, source, behind, rfl, hplace⟩ := exists_covers_of_mem_line hfront hline ht
      obtain ⟨before', source', behind', -, hplace'⟩ := hcovers u hu
      have hapart : t.stop ≤ u.start := by
        rw [hplace.stop_eq, hplace'.start_eq]
        simp only [byteLength_append]
        omega
      exact ⟨Nat.le_trans (Nat.le_of_lt hplace.start_lt_stop) hapart,
        Nat.le_trans hapart (Nat.le_of_lt hplace'.start_lt_stop), .inl hapart⟩

namespace Segmentation

theorem liesIn_of_mem_rawTokens (h : t ∈ σ.rawTokens f s) : t.LiesIn s :=
  (covers_and_precedes_tokensOfLines σ f s [] rfl).1 t h

theorem pairwise_rawTokens (σ : Segmentation) (f : Folding) (s : List Char) :
    (σ.rawTokens f s).Pairwise Token.Precedes :=
  (covers_and_precedes_tokensOfLines σ f s [] rfl).2

end Segmentation

end

/-- The halves share the place of a token, cut behind so many characters and bytes. -/
structure Token.Halves (cut : Nat) (head tail t : Token) : Prop where
  pos : 0 < cut
  lt : cut < t.position.length
  narrow : t.stop = t.start + t.position.length
  length_eq : t.position.length = t.text.length
  head_position : head.position = { t.position with length := cut }
  head_start : head.start = t.start
  head_stop : head.stop = t.start + cut
  tail_position : tail.position =
    { t.position with column := t.position.column + cut, length := t.position.length - cut }
  tail_start : tail.start = t.start + cut
  tail_stop : tail.stop = t.stop

/-- The second token neither starts nor ends before the first. -/
def Token.NotBefore (t u : Token) : Prop :=
  t.start ≤ u.start ∧ t.stop ≤ u.stop

section

variable {σ : Segmentation} {f : Folding} {before source s u v : List Char}
  {t t' head tail : Token} {raw : List Token} {cut : Nat} {word first second : String}

theorem splitCompound?_utf8ByteSize (h : splitCompound? word = some (first, second)) :
    word.utf8ByteSize = word.length := by
  have hall : ∀ entry ∈ compounds, entry.1.utf8ByteSize = entry.1.length := by decide +kernel
  obtain ⟨front, behind, hmem, -⟩ := List.lookup_eq_some_iff.1 h
  exact hall (word, first, second) (by rw [hmem]; simp)

theorem isSkippable_of_splitCompound?
    (h : splitCompound? (canonicalSpelling word) = some (first, second)) :
    isSkippable word = false := by
  have hall : ∀ mark ∈ ["-", ",", "'", "\"", "*", "="],
      splitCompound? (canonicalSpelling mark) = none := by decide +kernel
  rw [isSkippable, Bool.eq_false_iff]
  intro hmem
  cases h.symm.trans (hall word (List.contains_iff_mem.1 hmem))

theorem length_canonicalSpelling
    (h : splitCompound? (canonicalSpelling word) = some (first, second)) :
    (canonicalSpelling word).length = word.length := by
  have hall : ∀ entry ∈ spellingVariants, splitCompound? entry.2 = none ∨
      entry.2.length = entry.1.length := by decide +kernel
  unfold canonicalSpelling at h ⊢
  cases hlookup : spellingVariants.lookup word with
  | none => rfl
  | some spelling =>
    obtain ⟨front, behind, hmem, -⟩ := List.lookup_eq_some_iff.1 hlookup
    rw [hlookup] at h
    rcases hall (word, spelling) (by rw [hmem]; simp) with hnone | hlength
    · cases hnone.symm.trans h
    · exact hlength

theorem Token.exists_halves
    (hsplit : splitCompound? (canonicalSpelling t.text) = some (first, second))
    (hbytes : t.stop - t.start = (canonicalSpelling t.text).utf8ByteSize)
    (hchars : t.position.length = (canonicalSpelling t.text).length) :
    ∃ head tail, t.canonical = [head, tail] ∧ head.text = first ∧ tail.text = second ∧
      Halves first.utf8ByteSize head tail t := by
  obtain ⟨hpos, hlt⟩ := splitCompound?_size hsplit
  have hascii := splitCompound?_utf8ByteSize hsplit
  have hspelling := length_canonicalSpelling hsplit
  have hcanonical : t.canonical =
      Token.split { t with text := canonicalSpelling t.text } first second := by
    simp only [Token.canonical, hsplit]
  rw [Token.split, if_pos ⟨hbytes, hchars⟩] at hcanonical
  refine ⟨_, _, hcanonical, rfl, rfl, hpos, ?_, ?_, ?_, rfl, rfl, rfl, rfl, rfl, rfl⟩ <;> omega

theorem Token.canonical_cases (t : Token) :
    (∀ t' ∈ t.canonical, t'.position = t.position ∧ t'.start = t.start ∧ t'.stop = t.stop) ∨
      ∃ cut head tail, t.canonical = [head, tail] ∧ Halves cut head tail t := by
  cases hsplit : splitCompound? (canonicalSpelling t.text) with
  | none => exact .inl (by simp [Token.canonical, hsplit])
  | some halves =>
    obtain ⟨first, second⟩ := halves
    by_cases hexact : t.stop - t.start = (canonicalSpelling t.text).utf8ByteSize ∧
        t.position.length = (canonicalSpelling t.text).length
    · obtain ⟨head, tail, hcanonical, -, -, hhalves⟩ := exists_halves hsplit hexact.1 hexact.2
      exact .inr ⟨_, head, tail, hcanonical, hhalves⟩
    · left
      simp [Token.canonical, hsplit, Token.split, hexact]

theorem Token.Halves.covers (h : Halves cut head tail t) (hplace : t.Covers before source) :
    head.Covers before (source.take cut) ∧
      tail.Covers (before ++ source.take cut) (source.drop cut) := by
  obtain ⟨hpos, hlt, hnarrow, -, headPosition, headStart, headStop, tailPosition, tailStart,
    tailStop⟩ := h
  obtain ⟨hstart, hstop, hline, hcolumn, hlength, -, hfeed⟩ := hplace
  have hfeeds : '\n' ∉ source.take cut ∧ '\n' ∉ source.drop cut := by
    rw [← List.take_append_drop cut source, List.mem_append, not_or] at hfeed
    exact hfeed
  have htake : (source.take cut).length = cut := by rw [List.length_take]; omega
  have hdrop : (source.drop cut).length = t.position.length - cut := by
    rw [List.length_drop, hlength]
  -- The source is as long in bytes as it is in characters, and so are its parts.
  have hbytes :
      byteLength (source.take cut) + byteLength (source.drop cut) = byteLength source := by
    rw [← byteLength_append, List.take_append_drop]
  have htakeBytes := length_le_byteLength (source.take cut)
  have hdropBytes := length_le_byteLength (source.drop cut)
  constructor
  · refine ⟨by rw [headStart, hstart], by omega, by rw [headPosition, hline],
      by rw [headPosition, hcolumn], by rw [headPosition, htake], ?_, hfeeds.1⟩
    exact List.ne_nil_of_length_pos (by omega)
  · refine ⟨by rw [byteLength_append]; omega, by rw [byteLength_append]; omega, ?_, ?_,
      by rw [tailPosition, hdrop], List.ne_nil_of_length_pos (by omega), hfeeds.2⟩
    · rw [tailPosition, List.count_append, List.count_eq_zero.2 hfeeds.1, Nat.add_zero, ← hline]
    · rw [tailPosition, lastColumn_append hfeeds.1, htake, ← hcolumn]

theorem Token.Covers.exists_of_mem_canonical (hplace : t.Covers before source)
    (h : t' ∈ t.canonical) : ∃ front source' behind, source = front ++ (source' ++ behind) ∧
      t'.Covers (before ++ front) source' := by
  rcases t.canonical_cases with hsame | ⟨cut, head, tail, hcanonical, hhalves⟩
  · obtain ⟨hposition, hstart, hstop⟩ := hsame t' h
    refine ⟨[], source, [], by simp, ?_⟩
    rw [List.append_nil]
    exact hplace.of_eq hposition hstart hstop
  · obtain ⟨hhead, htail⟩ := hhalves.covers hplace
    rw [hcanonical, List.mem_cons, List.mem_singleton] at h
    rcases h with rfl | rfl
    · exact ⟨[], source.take cut, source.drop cut, by simp, by simpa using hhead⟩
    · exact ⟨source.take cut, source.drop cut, [], by simp, htail⟩

theorem Token.pairwise_canonical (t : Token) : t.canonical.Pairwise NotBefore := by
  rcases t.canonical_cases with hsame | ⟨cut, head, tail, hcanonical, hhalves⟩
  · apply List.pairwise_of_forall_mem_list
    intro u hu v hv
    obtain ⟨-, hstart, hstop⟩ := hsame u hu
    obtain ⟨-, hstart', hstop'⟩ := hsame v hv
    rw [NotBefore, hstart, hstop, hstart', hstop']
    exact ⟨Nat.le_refl _, Nat.le_refl _⟩
  · obtain ⟨hpos, hlt, hnarrow, -, -, hheadStart, hheadStop, -, htailStart, htailStop⟩ := hhalves
    rw [hcanonical, List.pairwise_pair, NotBefore]
    omega

theorem Token.IsLoose.place_of_mem_canonical (hloose : t.IsLoose) (h : t' ∈ t.canonical) :
    t'.start = t.start ∧ t'.stop = t.stop := by
  rcases t.canonical_cases with hsame | ⟨cut, head, tail, -, hhalves⟩
  · exact (hsame t' h).2
  · have hnarrow := hhalves.narrow
    have hlength := hhalves.length_eq
    rw [IsLoose, IsWide] at hloose
    omega

theorem Token.Precedes.notBefore {u t' u' : Token} (h : t.Precedes u) (ht' : t' ∈ t.canonical)
    (hu' : u' ∈ u.canonical) : t'.NotBefore u' := by
  obtain ⟨hstart, hstop, hapart⟩ := h
  rw [NotBefore]
  rcases hapart with hapart | ⟨hloose, hloose'⟩
  · have hplace := place_of_mem_canonical ht'
    have hplace' := place_of_mem_canonical hu'
    omega
  · have hplace := hloose.place_of_mem_canonical ht'
    have hplace' := hloose'.place_of_mem_canonical hu'
    omega

theorem liesIn_of_mem_keptTokens (hraw : ∀ t ∈ raw, t.LiesIn s) (h : t ∈ keptTokens f raw) :
    t.LiesIn s := by
  unfold keptTokens at h
  dsimp only at h
  split at h
  · obtain ⟨t', ht', hcanonical⟩ := List.mem_flatMap.1 h
    obtain ⟨before, source, behind, rfl, hplace⟩ := hraw t' (List.mem_filter.1 ht').1
    obtain ⟨front, source', behind', rfl, hplace'⟩ := hplace.exists_of_mem_canonical hcanonical
    exact ⟨before ++ front, source', behind' ++ behind, by simp, hplace'⟩
  · exact hraw t (List.mem_filter.1 h).1

theorem pairwise_keptTokens (hraw : raw.Pairwise Token.Precedes) :
    (keptTokens f raw).Pairwise Token.NotBefore := by
  have hkept := hraw.filter (!isSkippable ·.text)
  unfold keptTokens
  dsimp only
  split
  · refine List.pairwise_flatMap.2 ⟨fun t _ => t.pairwise_canonical, ?_⟩
    apply hkept.imp
    intro t u hprecedes t' ht' u' hu'
    exact hprecedes.notBefore ht' hu'
  · exact hkept.imp fun hprecedes => ⟨hprecedes.start_le, hprecedes.stop_le⟩

theorem canonical_infix_keptTokens (hwords : f.words) (ht : t ∈ raw)
    (hkept : isSkippable t.text = false) : t.canonical <:+: keptTokens f raw := by
  have hmem : t ∈ raw.filter (!isSkippable ·.text) :=
    List.mem_filter.2 ⟨ht, by rw [hkept]; rfl⟩
  obtain ⟨earlier, later, hsplit⟩ := List.append_of_mem hmem
  rw [keptTokens, if_pos hwords, hsplit, List.flatMap_append, List.flatMap_cons]
  exact ⟨_, _, List.append_assoc _ _ _⟩

/-- Every token is a piece of the text, with its line, column, length and bytes, in order. -/
structure Placed (f : Folding) (s : List Char) (raw tokens : List Token) : Prop where
  covers : ∀ t ∈ tokens, t.start < t.stop ∧ t.stop ≤ byteLength s ∧
    ∃ before source behind, s = before ++ (source ++ behind) ∧
      slice? s t.start t.stop = some source ∧ t.Covers before source
  ordered : tokens.Pairwise Token.NotBefore
  halves : f.words → ∀ t ∈ raw, ∃ before source behind,
    s = before ++ (source ++ behind) ∧ t.Covers before source ∧
      ∀ first second, splitCompound? (canonicalSpelling t.text) = some (first, second) →
        byteLength source = (canonicalSpelling t.text).utf8ByteSize →
        source.length = (canonicalSpelling t.text).length →
        ∃ head tail, [head, tail] <:+: tokens ∧ head.text = first ∧ tail.text = second ∧
          head.start = t.start ∧ head.stop = tail.start ∧ tail.stop = t.stop

theorem Segmentation.placed (σ : Segmentation) (f : Folding) (s : List Char) :
    Placed f s (σ.rawTokens f s) (σ.tokenize f s) where
  covers := by
    intro t ht
    obtain ⟨before, source, behind, rfl, hplace⟩ :=
      liesIn_of_mem_keptTokens (fun t => σ.liesIn_of_mem_rawTokens) ht
    refine ⟨hplace.start_lt_stop, hplace.stop_le behind, before, source, behind, rfl, ?_, hplace⟩
    rw [hplace.start_eq, hplace.stop_eq]
    exact slice?_between before source behind
  ordered := pairwise_keptTokens (σ.pairwise_rawTokens f s)
  halves := by
    intro hwords t ht
    obtain ⟨before, source, behind, hs, hplace⟩ := σ.liesIn_of_mem_rawTokens ht
    refine ⟨before, source, behind, hs, hplace, ?_⟩
    intro first second hsplit hbytes hchars
    have hsize : t.stop - t.start = (canonicalSpelling t.text).utf8ByteSize := by
      rw [hplace.start_eq, hplace.stop_eq, Nat.add_sub_cancel_left, hbytes]
    obtain ⟨head, tail, hcanonical, hfirst, hsecond, hhalves⟩ :=
      Token.exists_halves hsplit hsize (hplace.length_eq.trans hchars)
    have hinfix := canonical_infix_keptTokens hwords ht (isSkippable_of_splitCompound? hsplit)
    rw [hcanonical] at hinfix
    exact ⟨head, tail, hinfix, hfirst, hsecond, hhalves.head_start,
      hhalves.head_stop.trans hhalves.tail_start.symm, hhalves.tail_stop⟩

theorem placed_tokenize (f : Folding) (s : List Char) :
    Placed f s (rawTokens f s) (tokenize f s) := by
  have hplaced := Segmentation.graphemes.placed f s
  rwa [Segmentation.rawTokens_graphemes, Segmentation.tokenize_graphemes] at hplaced

theorem liesIn_of_mem_rawTokens (h : t ∈ rawTokens f s) : t.LiesIn s := by
  rw [← Segmentation.rawTokens_graphemes] at h
  exact Segmentation.liesIn_of_mem_rawTokens h

theorem liesIn_of_mem_tokenize (h : t ∈ tokenize f s) : t.LiesIn s :=
  liesIn_of_mem_keptTokens (fun _ => liesIn_of_mem_rawTokens) h

theorem pairwise_tokenize (f : Folding) (s : List Char) :
    (tokenize f s).Pairwise Token.NotBefore :=
  (placed_tokenize f s).ordered

end

/-- The tokens of a text are placed, and would be with any way to cut its lines into pieces. -/
theorem tokenize_places (f : Folding) (s : List Char) :
    Placed f s (rawTokens f s) (tokenize f s) ∧
      ∀ σ : Segmentation, Placed f s (σ.rawTokens f s) (σ.tokenize f s) :=
  ⟨placed_tokenize f s, fun σ => σ.placed f s⟩

theorem tokenize_places_sublicence : ∃ head tail,
    [head, tail] <:+: tokenize {} "to\na Sublicence.".toList ∧ head.text = "sub" ∧
      tail.text = "license" ∧ head.start = 5 ∧ head.stop = tail.start ∧ tail.stop = 15 := by
  obtain ⟨⟨-, -, hcompounds⟩, -⟩ := tokenize_places {} "to\na Sublicence.".toList
  obtain ⟨before, source, behind, -, hplace, hhalves⟩ :=
    hcompounds rfl ⟨"sublicence", ⟨2, 2, 10⟩, 5, 15⟩ (by decide +kernel)
  have hbytes : byteLength source = 10 := by
    have hstart := hplace.start_eq
    have hstop := hplace.stop_eq
    dsimp only at hstart hstop
    omega
  exact hhalves "sub" "license" (by decide) hbytes hplace.length_eq.symm

end Licensing.Text
