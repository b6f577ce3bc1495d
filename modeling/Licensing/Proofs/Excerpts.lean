import Licensing.Proofs.Places
import Licensing.Proofs.Surroundings
import Licensing.Proofs.Turns

namespace Licensing.Text

/-- The tokens of a text, comment markers aside. -/
def strippedTokens (f : Folding) (s : List Char) : List Token :=
  tokenize f (stripComments s)

/-- Both texts have a piece from byte `start` to `stop`, with markers blanked in the second. -/
def BlankedPiece (s s' : List Char) (start stop : Nat) (piece piece' : List Char) : Prop :=
  ∃ before behind before' behind', s = before ++ (piece ++ behind) ∧
    s' = before' ++ (piece' ++ behind') ∧ List.Forall₂ BlankedTo before before' ∧
    List.Forall₂ BlankedTo piece piece' ∧ List.Forall₂ BlankedTo behind behind' ∧
    start = byteLength before ∧ stop = byteLength before + byteLength piece

section

variable {f : Folding} {s s' u v piece piece' : List Char} {t t' : Token} {first last : Nat}
  {start stop : Nat}

theorem prefix_of_byteLength_le (hu : u <+: s) (hv : v <+: s)
    (hle : byteLength u ≤ byteLength v) : u <+: v := by
  rcases List.prefix_or_prefix_of_prefix hu hv with hprefix | ⟨w, rfl⟩
  · exact hprefix
  · have hlength := length_le_byteLength w
    rw [byteLength_append] at hle
    obtain rfl : w = [] := List.eq_nil_of_length_eq_zero (by omega)
    rw [List.append_nil]

theorem exists_append_of_forall₂ (h : List.Forall₂ BlankedTo s (u ++ v)) : ∃ u' v',
    s = u' ++ v' ∧ List.Forall₂ BlankedTo u' u ∧ List.Forall₂ BlankedTo v' v :=
  ⟨s.take u.length, s.drop u.length, (List.take_append_drop _ _).symm,
    List.forall₂_take_append _ _ _ h, List.forall₂_drop_append _ _ _ h⟩

namespace BlankedPiece

theorem slice?_eq (h : BlankedPiece s s' start stop piece piece') :
    slice? s start stop = some piece ∧ slice? s' start stop = some piece' := by
  obtain ⟨before, behind, before', behind', rfl, rfl, hbefore, hpiece, -, rfl, rfl⟩ := h
  constructor
  · exact slice?_between before piece behind
  · rw [← byteLength_of_forall₂ hbefore, ← byteLength_of_forall₂ hpiece]
    exact slice?_between before' piece' behind'

theorem byteLength_eq (h : BlankedPiece s s' start stop piece piece') :
    byteLength piece = byteLength piece' := by
  obtain ⟨-, -, -, -, -, -, -, hpiece, -⟩ := h
  exact (byteLength_of_forall₂ hpiece).symm

theorem exists_of_append {before' behind' : List Char}
    (h : List.Forall₂ BlankedTo s (before' ++ (piece' ++ behind'))) : ∃ piece,
    BlankedPiece s (before' ++ (piece' ++ behind')) (byteLength before')
      (byteLength before' + byteLength piece') piece piece' := by
  obtain ⟨before, rest, rfl, hbefore, hrest⟩ := exists_append_of_forall₂ h
  obtain ⟨piece, behind, rfl, hpiece, hbehind⟩ := exists_append_of_forall₂ hrest
  refine ⟨piece, before, behind, before', behind', rfl, rfl, hbefore, hpiece, hbehind, ?_, ?_⟩
  · exact byteLength_of_forall₂ hbefore
  · rw [byteLength_of_forall₂ hbefore, byteLength_of_forall₂ hpiece]

end BlankedPiece

theorem start_le_of_getElem? (hle : first ≤ last) (ht : (tokenize f s)[first]? = some t)
    (ht' : (tokenize f s)[last]? = some t') : t.start ≤ t'.start := by
  rcases Nat.eq_or_lt_of_le hle with rfl | hlt
  · rw [Option.some.inj (ht.symm.trans ht')]
  · obtain ⟨hfirst, rfl⟩ := List.getElem?_eq_some_iff.1 ht
    obtain ⟨hlast, rfl⟩ := List.getElem?_eq_some_iff.1 ht'
    exact (List.pairwise_iff_getElem.1 (pairwise_tokenize f s) first last hfirst hlast hlt).1

theorem exists_piece_of_getElem? (hle : first ≤ last) (ht : (tokenize f s)[first]? = some t)
    (ht' : (tokenize f s)[last]? = some t') : ∃ before piece behind,
      s = before ++ (piece ++ behind) ∧ piece ≠ [] ∧ t.start = byteLength before ∧
        t'.stop = byteLength before + byteLength piece := by
  obtain ⟨before, source, behind, hs, hplace⟩ := liesIn_of_mem_tokenize (List.mem_of_getElem? ht)
  obtain ⟨before', source', behind', hs', hplace'⟩ :=
    liesIn_of_mem_tokenize (List.mem_of_getElem? ht')
  have hstart := start_le_of_getElem? hle ht ht'
  rw [hplace.start_eq, hplace'.start_eq] at hstart
  obtain ⟨between, rfl⟩ := prefix_of_byteLength_le ⟨_, hs.symm⟩ ⟨_, hs'.symm⟩ hstart
  refine ⟨before, between ++ source', behind', ?_, ?_, hplace.start_eq, ?_⟩
  · rw [hs', List.append_assoc, List.append_assoc]
  · exact List.append_ne_nil_of_right_ne_nil _ hplace'.ne_nil
  · rw [hplace'.stop_eq, byteLength_append, byteLength_append, Nat.add_assoc]

theorem excerpt_of_getElem? {tokens : List Token} (hle : first ≤ last)
    (ht : tokens[first]? = some t) (ht' : tokens[last]? = some t') :
    excerpt s tokens first last = (slice? s t.start t'.stop).getD [] := by
  rw [excerpt, if_neg (Nat.not_lt.2 hle), ht, ht']

theorem excerpt_of_length_le {tokens : List Token} (hle : first ≤ last)
    (ht : tokens[first]? = some t) (hlast : tokens.length ≤ last) :
    excerpt s tokens first last = (slice? s t.start (byteLength s)).getD [] := by
  rw [excerpt, if_neg (Nat.not_lt.2 hle), ht, List.getElem?_eq_none hlast]

theorem excerpt_eq_nil {tokens : List Token} (h : last < first ∨ tokens.length ≤ first) :
    excerpt s tokens first last = [] := by
  unfold excerpt
  split
  · rfl
  · rename_i hle
    rw [List.getElem?_eq_none (h.resolve_left hle)]

theorem blankedPiece_excerpt (hle : first ≤ last) (ht : (strippedTokens f s)[first]? = some t)
    (ht' : (strippedTokens f s)[last]? = some t') :
    excerpt s (strippedTokens f s) first last ≠ [] ∧
      BlankedPiece s (stripComments s) t.start t'.stop
        (excerpt s (strippedTokens f s) first last)
        ((Document.ofText f s).sourceSpan first (last + 1)) := by
  obtain ⟨before, piece', behind, hstrip, hne, hstart, hstop⟩ := exists_piece_of_getElem? hle ht ht'
  have hplaces := forall₂_blankedTo_stripComments s
  rw [hstrip] at hplaces
  obtain ⟨piece, hpiece⟩ := BlankedPiece.exists_of_append hplaces
  rw [← hstrip, ← hstop, ← hstart] at hpiece
  obtain ⟨hslice, hslice'⟩ := hpiece.slice?_eq
  have hexcerpt : excerpt s (strippedTokens f s) first last = piece := by
    rw [excerpt_of_getElem? hle ht ht', hslice, Option.getD_some]
  have hspan : (Document.ofText f s).sourceSpan first (last + 1) = piece' := by
    rw [Document.ofText_eq, Document.sourceSpan_ofSource (Nat.lt_succ_of_le hle) ht ht', hslice',
      Option.getD_some]
  rw [hexcerpt, hspan]
  refine ⟨?_, hpiece⟩
  rintro rfl
  have hpos := byteLength_pos hne
  have hzero := hpiece.byteLength_eq
  rw [byteLength] at hzero
  omega

theorem append_excerpt (hle : first ≤ last) (ht : (strippedTokens f s)[first]? = some t)
    (hlast : (strippedTokens f s).length ≤ last) : ∃ before,
      s = before ++ excerpt s (strippedTokens f s) first last ∧ byteLength before = t.start := by
  obtain ⟨before, source, behind, hstrip, hplace⟩ :=
    liesIn_of_mem_tokenize (List.mem_of_getElem? ht)
  have hplaces := forall₂_blankedTo_stripComments s
  rw [hstrip] at hplaces
  obtain ⟨before', rest, rfl, hbefore, -⟩ := exists_append_of_forall₂ hplaces
  have hstart : t.start = byteLength before' := by
    rw [hplace.start_eq, byteLength_of_forall₂ hbefore]
  have hslice := slice?_between before' rest []
  rw [List.append_nil, ← byteLength_append, ← hstart] at hslice
  refine ⟨before', ?_, hstart.symm⟩
  rw [excerpt_of_length_le hle ht hlast, hslice, Option.getD_some]

end

/-- The excerpt between two tokens is a slice of the text as it was, comment markers and all. -/
theorem excerpt_strippedTokens (f : Folding) (s : List Char) (first last : Nat) :
    (first ≤ last → last < (strippedTokens f s).length →
      ∃ t t', (strippedTokens f s)[first]? = some t ∧ (strippedTokens f s)[last]? = some t' ∧
        slice? s t.start t'.stop = some (excerpt s (strippedTokens f s) first last) ∧
        excerpt s (strippedTokens f s) first last ≠ [] ∧
        byteLength (excerpt s (strippedTokens f s) first last) =
          byteLength ((Document.ofText f s).sourceSpan first (last + 1)) ∧
        BlankedPiece s (stripComments s) t.start t'.stop
          (excerpt s (strippedTokens f s) first last)
          ((Document.ofText f s).sourceSpan first (last + 1))) ∧
      (first < (strippedTokens f s).length → (strippedTokens f s).length ≤ last →
        ∃ t before, (strippedTokens f s)[first]? = some t ∧
          s = before ++ excerpt s (strippedTokens f s) first last ∧ byteLength before = t.start) ∧
      (last < first ∨ (strippedTokens f s).length ≤ first →
        excerpt s (strippedTokens f s) first last = []) := by
  refine ⟨?_, ?_, excerpt_eq_nil⟩
  · intro hle hlast
    have ht := List.getElem?_eq_getElem (Nat.lt_of_le_of_lt hle hlast)
    have ht' := List.getElem?_eq_getElem hlast
    obtain ⟨hne, hpiece⟩ := blankedPiece_excerpt hle ht ht'
    exact ⟨_, _, ht, ht', hpiece.slice?_eq.1, hne, hpiece.byteLength_eq, hpiece⟩
  · intro hfirst hlast
    have ht := List.getElem?_eq_getElem hfirst
    obtain ⟨before, hs, hbytes⟩ := append_excerpt (by omega) ht hlast
    exact ⟨_, before, ht, hs, hbytes⟩

theorem excerpt_strippedTokens_comments :
    (∃ t t', (strippedTokens {} "# a b\n# c;".toList)[1]? = some t ∧
      (strippedTokens {} "# a b\n# c;".toList)[2]? = some t' ∧
      slice? "# a b\n# c;".toList t.start t'.stop = some "b\n# c".toList) ∧
      (∃ t before, (strippedTokens {} "# a b\n# c;".toList)[2]? = some t ∧
        "# a b\n# c;".toList = before ++ "c;".toList ∧ byteLength before = t.start) ∧
      excerpt "# a b\n# c;".toList (strippedTokens {} "# a b\n# c;".toList) 7 9 = [] := by
  have hlength : (strippedTokens {} "# a b\n# c;".toList).length = 4 := by decide +kernel
  have hwithin : excerpt "# a b\n# c;".toList (strippedTokens {} "# a b\n# c;".toList) 1 2 =
      "b\n# c".toList := by decide +kernel
  have hbehind : excerpt "# a b\n# c;".toList (strippedTokens {} "# a b\n# c;".toList) 2 9 =
      "c;".toList := by decide +kernel
  obtain ⟨t, t', ht, ht', hslice, -⟩ :=
    (excerpt_strippedTokens {} "# a b\n# c;".toList 1 2).1 (by decide) (by rw [hlength]; decide)
  obtain ⟨u, before, hu, hs, hbytes⟩ :=
    (excerpt_strippedTokens {} "# a b\n# c;".toList 2 9).2.1 (by rw [hlength]; decide)
      (by rw [hlength]; decide)
  rw [hwithin] at hslice
  rw [hbehind] at hs
  refine ⟨⟨t, t', ht, ht', hslice⟩, ⟨u, before, hu, hs, hbytes⟩, ?_⟩
  exact (excerpt_strippedTokens {} "# a b\n# c;".toList 7 9).2.2 (.inr (by rw [hlength]; decide))

end Licensing.Text
