import Licensing.Proofs.Interpretation
import Licensing.Proofs.Moved
import Licensing.Proofs.NormalizedSpans

namespace Licensing.Text

namespace Document

/-- The tokens of `d` stand in `d'` from `place` on, and variables see the same between them. -/
structure Holds (d' : Document) (place : Nat) (d : Document) : Prop where
  size_le : place + d.size ≤ d'.size
  text? : ∀ i < d.size, d'.text? (place + i) = d.text? i
  span : ∀ i j, i < j → j ≤ d.size →
    d'.normalizedSpan (place + i) (place + j) = d.normalizedSpan i j
  length : ∀ i j, i < j → j ≤ d.size →
    d'.normalizedLength (place + i) (place + j) = d.normalizedLength i j
  source : ∀ i j, i < j → j ≤ d.size →
    collapseWhitespace (d'.sourceSpan (place + i) (place + j)) =
      collapseWhitespace (d.sourceSpan i j)

section

variable {f : Folding} {u v : List Char} {d d' : Document} {place i j : Nat} {t : Token}

theorem size_ofSource (f : Folding) (s : List Char) : (ofSource f s).size = (tokenize f s).length :=
  List.size_toArray

theorem text?_ofSource (f : Folding) (s : List Char) (i : Nat) :
    (ofSource f s).text? i = ((tokenize f s).map (·.text))[i]? := by
  simp [text?, ofSource]

theorem sourceSpan_ofSource {s : List Char} {first last : Token} (hlt : i < j)
    (hfirst : (tokenize f s)[i]? = some first) (hlast : (tokenize f s)[j - 1]? = some last) :
    (ofSource f s).sourceSpan i j = (slice? s first.start last.stop).getD [] := by
  have hj : j - 1 < (tokenize f s).length := (List.getElem?_eq_some_iff.1 hlast).1
  unfold sourceSpan
  rw [if_neg (by rw [size_ofSource]; omega)]
  simp only [ofSource, List.getElem?_toArray, hfirst, hlast]

theorem exists_sourceSpan {s : List Char} (hlt : i < j) (hj : j ≤ (tokenize f s).length) :
    ∃ first last, (tokenize f s)[i]? = some first ∧ (tokenize f s)[j - 1]? = some last ∧
      (ofSource f s).sourceSpan i j = (slice? s first.start last.stop).getD [] := by
  have hfirst := List.getElem?_eq_getElem (l := tokenize f s) (i := i) (by omega)
  have hlast := List.getElem?_eq_getElem (l := tokenize f s) (i := j - 1) (by omega)
  exact ⟨_, _, hfirst, hlast, sourceSpan_ofSource hlt hfirst hlast⟩

theorem Holds.of_ofSource (hsize : place + (ofSource f u).size ≤ (ofSource f v).size)
    (htext : ∀ i < (ofSource f u).size, (ofSource f v).text? (place + i) = (ofSource f u).text? i)
    (hsource : ∀ i j, i < j → j ≤ (ofSource f u).size →
      collapseWhitespace ((ofSource f v).sourceSpan (place + i) (place + j)) =
        collapseWhitespace ((ofSource f u).sourceSpan i j)) :
    (ofSource f v).Holds place (ofSource f u) := by
  have hspan (i j : Nat) (hlt : i < j) (hj : j ≤ (ofSource f u).size) :
      (ofSource f v).normalizedSpan (place + i) (place + j) =
        (ofSource f u).normalizedSpan i j := by
    have hlength : place + j - (place + i) = j - i := Nat.add_sub_add_left place j i
    have htexts : (ofSource f v).rangeTexts (place + i) (place + j) =
        (ofSource f u).rangeTexts i j := by
      apply List.ext_getElem?
      intro k
      rw [getElem?_rangeTexts, getElem?_rangeTexts, hlength]
      split
      · rw [Nat.add_assoc, htext (i + k) (by omega)]
      · rfl
    rw [normalizedSpan_ofSource (by omega) (by omega), normalizedSpan_ofSource hlt hj, htexts]
  refine ⟨hsize, htext, hspan, fun i j hlt hj => ?_, hsource⟩
  rw [normalizedLength_ofSource, normalizedLength_ofSource, hspan i j hlt hj]

theorem Holds.trans {d'' : Document} {place' : Nat} (h : d'.Holds place d)
    (h' : d''.Holds place' d') : d''.Holds (place' + place) d := by
  have hle := h.size_le
  constructor
  · have hle' := h'.size_le
    omega
  · intro i hi
    rw [Nat.add_assoc, h'.text? _ (by omega), h.text? i hi]
  · intro i j hlt hj
    rw [Nat.add_assoc, Nat.add_assoc, h'.span _ _ (by omega) (by omega), h.span i j hlt hj]
  · intro i j hlt hj
    rw [Nat.add_assoc, Nat.add_assoc, h'.length _ _ (by omega) (by omega), h.length i j hlt hj]
  · intro i j hlt hj
    rw [Nat.add_assoc, Nat.add_assoc, h'.source _ _ (by omega) (by omega), h.source i j hlt hj]

theorem holds_append {first later : List Token} (htokens : tokenize f (u ++ v) = first ++ later)
    (hmoved : Moved (byteLength u) (tokenize f v) later) :
    (ofSource f (u ++ v)).Holds first.length (ofSource f v) := by
  have hlength := hmoved.length_eq
  have hplace (i : Nat) : (first ++ later)[first.length + i]? = later[i]? := by
    rw [List.getElem?_append_right (Nat.le_add_right _ _), Nat.add_sub_cancel_left]
  apply Holds.of_ofSource
  · rw [size_ofSource, size_ofSource, htokens, List.length_append, hlength]
  · intro i _
    rw [text?_ofSource, text?_ofSource, htokens, List.getElem?_map, hplace, ← List.getElem?_map,
      hmoved.map_text]
  · intro i j hlt hj
    rw [size_ofSource] at hj
    obtain ⟨t, t', ht, ht', hspan⟩ := exists_sourceSpan hlt hj
    obtain ⟨s, hs, hstart⟩ := hmoved.getElem? ht
    obtain ⟨s', hs', hstop⟩ := hmoved.getElem? ht'
    have hspan' : (ofSource f (u ++ v)).sourceSpan (first.length + i) (first.length + j) =
        (slice? (u ++ v) s.start s'.stop).getD [] := by
      apply sourceSpan_ofSource (by omega)
      · rw [htokens, hplace, hs]
      · rw [htokens, Nat.add_sub_assoc (by omega), hplace, hs']
    rw [hspan, hspan', hstart.start, hstop.stop, Nat.add_comm, Nat.add_comm t'.stop,
      slice?_append_right]

theorem holds_behind_lineFeed (f : Folding) (u v : List Char) :
    (ofSource f (u ++ '\n' :: v)).Holds (tokenize f u).length (ofSource f v) := by
  obtain ⟨later, htokens, hmoved⟩ := tokenize_append_lineFeed f u v
  have hlength : byteLength u + 1 = byteLength (u ++ ['\n']) := by
    rw [byteLength_append]
    rfl
  rw [hlength] at hmoved
  rw [List.append_cons] at htokens ⊢
  exact holds_append htokens hmoved

theorem holds_before_lineFeed (f : Folding) (u v : List Char) :
    (ofSource f (u ++ '\n' :: v)).Holds 0 (ofSource f u) := by
  obtain ⟨later, htokens, -⟩ := tokenize_append_lineFeed f u v
  apply Holds.of_ofSource
  · rw [size_ofSource, size_ofSource, htokens, List.length_append]
    omega
  · intro i hi
    rw [size_ofSource] at hi
    rw [Nat.zero_add, text?_ofSource, text?_ofSource, htokens, List.map_append,
      List.getElem?_append_left (by rwa [List.length_map])]
  · intro i j hlt hj
    rw [size_ofSource] at hj
    obtain ⟨first, last, hfirst, hlast, hspan⟩ := exists_sourceSpan hlt hj
    have hspan' : (ofSource f (u ++ '\n' :: v)).sourceSpan i j =
        (slice? (u ++ '\n' :: v) first.start last.stop).getD [] := by
      apply sourceSpan_ofSource hlt
      · rw [htokens, List.getElem?_append_left (by omega), hfirst]
      · rw [htokens, List.getElem?_append_left (by omega), hlast]
    have hstop := (upTo_of_mem_tokenize (List.mem_of_getElem? hlast)).2
    rw [Nat.zero_add, Nat.zero_add, hspan, hspan', slice?_append_left hstop]

end

end Document

end Licensing.Text

namespace Licensing.Matching

open Licensing.Text Licensing.Template

section

variable {f : Folding} {d d' : Document} {place i j : Nat} {body : Body}

theorem acceptsSpan_of_holds [Engine] (h : d'.Holds place d) (rule : VariableRule)
    (literal : Option String) (hle : i ≤ j) (hj : j ≤ d.size) :
    acceptsSpan d' rule literal (place + i) (place + j) = acceptsSpan d rule literal i j := by
  rcases Nat.lt_or_eq_of_le hle with hlt | rfl
  · have hstop : place + j = place + i + 1 ↔ j = i + 1 := by omega
    unfold acceptsSpan
    rw [h.text? i (by omega), h.span i j hlt hj, h.length i j hlt hj, h.source i j hlt hj]
    simp only [hstop]
  · simp [acceptsSpan, Document.normalizedLength, Document.normalizedSpan, Document.sourceSpan]

theorem Spells.of_holds {texts : List String} (h : d'.Holds place d) (hi : i ≤ d.size)
    (hspells : Spells d i j texts) : Spells d' (place + i) (place + j) texts := by
  have hj := (hspells.le_size hi).2
  obtain ⟨hstop, htexts⟩ := hspells
  refine ⟨by omega, fun k hk => ?_⟩
  rw [Nat.add_assoc, h.text? _ (by omega), htexts k hk]

/-- What is derived in a document is derived where another holds it. -/
theorem Derives.of_holds [Engine] (h : d'.Holds place d) (hi : i ≤ d.size)
    (hderives : Derives f d body i j) : Derives f d' body (place + i) (place + j) := by
  induction hderives with
  | done i => exact .done _
  | text htext hrest ih =>
    exact .text (htext.of_holds h hi) (ih (htext.le_size hi).2)
  | taken hinner hrest ihInner ihRest =>
    exact .taken (ihInner hi) (ihRest (hinner.le_size hi).2)
  | skipped hrest ih => exact .skipped (ih hi)
  | «variable» hle hsize haccepts hrest ih =>
    have hsize' := h.size_le
    rw [← acceptsSpan_of_holds h _ _ hle hsize] at haccepts
    exact .variable (Nat.add_le_add_left hle place) (by omega) haccepts (ih hsize)

theorem occursIn_of_holds [Engine] (h : d'.Holds place d) (hoccurs : occursIn (.ofBody f body) d) :
    occursIn (.ofBody f body) d' := by
  obtain ⟨hsize, i, j, hle, hj, hderives⟩ := occursIn_ofBody.1 hoccurs
  have hsize' := h.size_le
  exact occursIn_ofBody.2 ⟨by omega, place + i, place + j, by omega, by omega,
    hderives.of_holds h (by omega)⟩

end

section

variable {m : Matcher} {template text : List Char}

theorem holds_among_lines (m : Matcher) (before text after : List Char) :
    ∃ place, (m.prepare (before ++ '\n' :: (text ++ '\n' :: after))).Holds place
      (m.prepare text) := by
  simp only [Matcher.prepare, Document.ofText_eq, stripComments_append_lineFeed]
  exact ⟨_, (Document.holds_before_lineFeed _ _ _).trans (Document.holds_behind_lineFeed _ _ _)⟩

theorem isWithin_of_compare [Engine] {difference : Difference}
    (hcompare : m.compare template text = .ok difference) (hfound : difference.found = false)
    (hsize : 0 < (m.prepare text).size) : m.isWithin template text = .ok true := by
  obtain ⟨body, -, hcompile, rfl⟩ := Matcher.compare_eq_ok hcompare
  rw [Matcher.comparePrepared, compareWith_found, exactOutcome_isMatch] at hfound
  rw [Matcher.isWithin, hcompile]
  exact congrArg Except.ok
    (occursIn_ofBody.2 ⟨hsize, 0, _, Nat.zero_le _, Nat.le_refl _, hfound⟩)

end

/-- Lines around a text never hide a template. -/
theorem isWithin_among_lines [Engine] (m : Matcher) (template before text after : List Char)
    (h : m.isWithin template text = .ok true ∨
      0 < (m.prepare text).size ∧
        ∃ difference, m.compare template text = .ok difference ∧ difference.found = false) :
    m.isWithin template (before ++ '\n' :: (text ++ '\n' :: after)) = .ok true := by
  have hwithin : m.isWithin template text = .ok true := by
    rcases h with h | ⟨hsize, difference, hcompare, hfound⟩
    · exact h
    · exact isWithin_of_compare hcompare hfound hsize
  obtain ⟨body, hcompile, hoccurs⟩ := Matcher.isWithin_eq_ok hwithin
  obtain ⟨place, hholds⟩ := holds_among_lines m before text after
  rw [Matcher.isWithin, hcompile]
  exact congrArg Except.ok (occursIn_of_holds hholds hoccurs.symm)

theorem isWithin_among_lines_carriage_returns :
    let m : Matcher := {}
    let template := "a<<var;name=v;match=.{1,3}>>b".toList
    let whole := "// A x\r\n// B\r".toList
    let part := "c A x b c\r".toList
    let before := "b a".toList
    let after := "// a x b\r".toList
    m.compare template whole = .ok (.noDifference [(0, 1), (2, 3)]) ∧
      m.isWithin template (before ++ '\n' :: (whole ++ '\n' :: after)) = .ok true ∧
      m.isWithin template part = .ok true ∧
      m.isWithin template (before ++ '\n' :: (part ++ '\n' :: after)) = .ok true := by
  intro m template whole part before after
  have hsize : 0 < (m.prepare whole).size := by decide +kernel
  have hcompare : m.compare template whole = .ok (.noDifference [(0, 1), (2, 3)]) := by
    decide +kernel
  have hwithin : m.isWithin template part = .ok true := by decide +kernel
  refine ⟨hcompare, ?_, hwithin, ?_⟩
  · exact isWithin_among_lines m template before whole after (.inr ⟨hsize, _, hcompare, rfl⟩)
  · exact isWithin_among_lines m template before part after (.inl hwithin)

end Licensing.Matching
