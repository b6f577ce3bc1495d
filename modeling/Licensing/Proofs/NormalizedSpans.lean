import Licensing.Proofs.Slices
import Licensing.Proofs.Spans
import Licensing.Proofs.TokenTexts

namespace Licensing.Text

def blanked (tokens : List Token) : List Char :=
  tokens.flatMap fun t => ' ' :: t.text.toList

def joinBehind (before tokens : List Token) : JoinedTokens :=
  joinFrom (byteLength (blanked before) - 1) ((blanked before).length - 1) tokens

section

variable {before first middle last tokens : List Token} {t : Token}

theorem blanked_append (first last : List Token) :
    blanked (first ++ last) = blanked first ++ blanked last :=
  List.flatMap_append

theorem blanked_cons (t : Token) (rest : List Token) :
    blanked (t :: rest) = ' ' :: (t.text.toList ++ blanked rest) :=
  rfl

theorem blanked_singleton (t : Token) : blanked [t] = ' ' :: t.text.toList :=
  List.flatMap_singleton ..

theorem blanked_eq_cons (h : tokens ≠ []) :
    blanked tokens = ' ' :: [' '].intercalate (tokens.map (·.text.toList)) := by
  induction tokens with
  | nil => exact absurd rfl h
  | cons t rest ih =>
    rcases eq_or_ne rest [] with rfl | hrest
    · rw [blanked_singleton, List.map_singleton, List.intercalate_singleton]
    · rw [List.map_cons, List.intercalate_cons_of_ne_nil (by simpa using hrest),
        List.append_assoc, List.singleton_append, ← ih hrest]
      rfl

theorem byteLength_blank_cons (s : List Char) : byteLength (' ' :: s) = byteLength s + 1 := by
  rw [byteLength, Nat.add_comm]
  rfl

theorem byteLength_blanked_append (first : List Token) (h : middle ≠ []) :
    byteLength (blanked (first ++ middle)) = byteLength (blanked first) + 1 +
      byteLength ([' '].intercalate (middle.map (·.text.toList))) := by
  rw [blanked_append, byteLength_append, blanked_eq_cons h, byteLength_blank_cons]
  omega

theorem length_blanked_append (first : List Token) (h : middle ≠ []) :
    (blanked (first ++ middle)).length = (blanked first).length + 1 +
      ([' '].intercalate (middle.map (·.text.toList))).length := by
  rw [blanked_append, List.length_append, blanked_eq_cons h, List.length_cons]
  omega

theorem one_lt_byteLength_blanked (h : ∀ t ∈ tokens, t.text ≠ "") (hne : tokens ≠ []) :
    1 < byteLength (blanked tokens) := by
  obtain ⟨t, rest, rfl⟩ := List.exists_cons_of_ne_nil hne
  have htext : t.text.toList ≠ [] := by
    rw [ne_eq, String.toList_eq_nil_iff]
    exact h t List.mem_cons_self
  obtain ⟨c, cs, hc⟩ := List.exists_cons_of_ne_nil htext
  have hpos := c.utf8Size_pos
  rw [← List.singleton_append, blanked_append, blanked_singleton, hc, byteLength_append,
    byteLength_blank_cons, byteLength]
  omega

theorem joinBehind_cons (h : ∀ t ∈ before, t.text ≠ "") (t : Token) (rest : List Token) :
    joinBehind before (t :: rest) =
      let later := joinBehind (before ++ [t]) rest
      ⟨(if before = [] then [] else [' ']) ++ t.text.toList ++ later.text,
        (byteLength (blanked before), byteLength (blanked (before ++ [t])) - 1) :: later.ranges,
        (blanked before).length :: later.places⟩ := by
  have hbytes : byteLength (blanked (before ++ [t])) =
      byteLength (blanked before) + (byteLength t.text.toList + 1) := by
    rw [blanked_append, byteLength_append, blanked_singleton, byteLength_blank_cons]
  have hlength : (blanked (before ++ [t])).length =
      (blanked before).length + (t.text.length + 1) := by
    rw [blanked_append, List.length_append, blanked_singleton, List.length_cons,
      String.length_toList]
  rw [joinBehind, joinFrom, joinBehind, hbytes, hlength]
  rcases eq_or_ne before [] with rfl | hne
  · simp [blanked, byteLength]
  · have hone := one_lt_byteLength_blanked h hne
    have hpos : 0 < (blanked before).length := by
      rw [blanked_eq_cons hne]
      exact Nat.succ_pos _
    have hblank : byteLength [' '] = 1 := rfl
    have hstart : byteLength (blanked before) - 1 + 1 = byteLength (blanked before) := by omega
    have hplace : (blanked before).length - 1 + 1 = (blanked before).length := by omega
    rw [if_neg (by omega), if_neg hne]
    simp only [hblank, List.length_singleton, hstart, hplace]
    rfl

theorem text_joinBehind (before tokens : List Token) (hbefore : ∀ t ∈ before, t.text ≠ "")
    (h : ∀ t ∈ tokens, t.text ≠ "") : (joinBehind before tokens).text =
      if before = [] then (blanked tokens).tail else blanked tokens := by
  induction tokens generalizing before with
  | nil => simp [joinBehind, joinFrom, blanked]
  | cons t rest ih =>
    obtain ⟨ht, hrest⟩ := List.forall_mem_cons.1 h
    have hbefore' : ∀ u ∈ before ++ [t], u.text ≠ "" :=
      List.forall_mem_append.2 ⟨hbefore, List.forall_mem_singleton.2 ht⟩
    have hne : before ++ [t] ≠ [] := by simp
    rw [joinBehind_cons hbefore, blanked_cons]
    simp only [ih (before ++ [t]) hbefore' hrest, if_neg hne]
    split <;> simp

theorem getElem?_ranges (before first last : List Token) (t : Token)
    (h : ∀ t ∈ before ++ first, t.text ≠ "") :
    (joinBehind before (first ++ t :: last)).ranges[first.length]? =
      some (byteLength (blanked (before ++ first)),
        byteLength (blanked (before ++ first ++ [t])) - 1) := by
  induction first generalizing before with
  | nil =>
    rw [List.append_nil] at h ⊢
    rw [List.nil_append, joinBehind_cons h]
    rfl
  | cons u first ih =>
    rw [List.append_cons before u first] at h ⊢
    have hbefore := (List.forall_mem_append.1 (List.forall_mem_append.1 h).1).1
    rw [List.cons_append, joinBehind_cons hbefore]
    exact ih (before ++ [u]) h

theorem getElem?_places (before first last : List Token)
    (h : ∀ t ∈ before ++ first, t.text ≠ "") (hne : before ++ first ++ last ≠ []) :
    (joinBehind before (first ++ last)).places[first.length]? =
      some (blanked (before ++ first)).length := by
  induction first generalizing before with
  | nil =>
    rw [List.append_nil] at h hne ⊢
    rw [List.nil_append]
    cases last with
    | nil =>
      rw [List.append_nil] at hne
      rw [joinBehind, joinFrom, blanked_eq_cons hne]
      rfl
    | cons t last =>
      rw [joinBehind_cons h]
      rfl
  | cons u first ih =>
    rw [List.append_cons before u first] at h hne ⊢
    have hbefore := (List.forall_mem_append.1 (List.forall_mem_append.1 h).1).1
    rw [List.cons_append, joinBehind_cons hbefore]
    exact ih (before ++ [u]) h hne

theorem exists_ranges (h : ∀ t ∈ first ++ middle ++ last, t.text ≠ "") (hmiddle : middle ≠ []) :
    ∃ stop start,
      (joinBehind [] (first ++ middle ++ last)).ranges[first.length]? =
          some (byteLength (blanked first), stop) ∧
        (joinBehind [] (first ++ middle ++ last)).ranges[(first ++ middle).length - 1]? =
          some (start, byteLength (blanked (first ++ middle)) - 1) := by
  have hfront := (List.forall_mem_append.1 h).1
  have hstart : ∃ stop, (joinBehind [] (first ++ middle ++ last)).ranges[first.length]? =
      some (byteLength (blanked first), stop) := by
    obtain ⟨t, rest, rfl⟩ := List.exists_cons_of_ne_nil hmiddle
    rw [List.append_assoc]
    exact ⟨_, getElem?_ranges [] first _ t (List.forall_mem_append.1 hfront).1⟩
  have hstop : ∃ start,
      (joinBehind [] (first ++ middle ++ last)).ranges[(first ++ middle).length - 1]? =
        some (start, byteLength (blanked (first ++ middle)) - 1) := by
    obtain ⟨others, t, rfl⟩ := (List.eq_nil_or_concat' middle).resolve_left hmiddle
    rw [← List.append_assoc] at hfront
    rw [← List.append_assoc, List.append_assoc (first ++ others), List.length_append,
      List.length_singleton, Nat.add_sub_cancel]
    exact ⟨_, getElem?_ranges [] (first ++ others) _ t (List.forall_mem_append.1 hfront).1⟩
  obtain ⟨stop, hstart⟩ := hstart
  obtain ⟨start, hstop⟩ := hstop
  exact ⟨stop, start, hstart, hstop⟩

theorem slice?_tail_blanked (first last : List Token) (hmiddle : middle ≠ []) :
    slice? (blanked (first ++ middle ++ last)).tail (byteLength (blanked first))
        (byteLength (blanked (first ++ middle)) - 1) =
      some ([' '].intercalate (middle.map (·.text.toList))) := by
  have hall : first ++ middle ++ last ≠ [] := by simp [hmiddle]
  have hcons : [' '] ++ (blanked (first ++ middle ++ last)).tail =
      blanked (first ++ middle ++ last) := by
    rw [blanked_eq_cons hall]
    rfl
  have hcut : blanked (first ++ middle ++ last) = blanked first ++ [' '] ++
      ([' '].intercalate (middle.map (·.text.toList)) ++ blanked last) := by
    rw [blanked_append, blanked_append, blanked_eq_cons hmiddle]
    simp
  have hstart : byteLength [' '] + byteLength (blanked first) =
      byteLength (blanked first ++ [' ']) := by
    rw [byteLength_append, Nat.add_comm]
  have hstop : byteLength [' '] + (byteLength (blanked (first ++ middle)) - 1) =
      byteLength (blanked first ++ [' ']) +
        byteLength ([' '].intercalate (middle.map (·.text.toList))) := by
    have hblank : byteLength [' '] = 1 := rfl
    rw [byteLength_blanked_append first hmiddle, byteLength_append, hblank]
    omega
  -- The first blank is not part of the normalized form.
  rw [← slice?_append_right [' '], hcons, hstart, hstop, hcut]
  exact slice?_between _ _ _

end

theorem text_ne_empty_of_mem_tokenize {f : Folding} {s : List Char} {t : Token}
    (h : t ∈ tokenize f s) : t.text ≠ "" := by
  obtain ⟨⟨hraw, -⟩, -⟩ := exists_of_mem_tokenize h
  generalize t.text = text at hraw
  cases hraw with
  | mark => simp [← String.toList_inj]
  | word hne => exact hne

namespace Document

section

variable {f : Folding} {s : List Char} {i j : Nat}

theorem exists_eq_append (hlt : i < j) (hj : j ≤ (ofSource f s).size) :
    ∃ first middle last, tokenize f s = first ++ middle ++ last ∧ middle ≠ [] ∧
      first.length = i ∧ (first ++ middle).length = j ∧
      (ofSource f s).rangeTexts i j = middle.map (·.text) := by
  have hsize : (ofSource f s).size = (tokenize f s).length := List.size_toArray
  rw [hsize] at hj
  have hsplit : (tokenize f s).take i ++ (tokenize f s).extract i j = (tokenize f s).take j := by
    rw [List.extract_eq_take_drop, ← List.take_add, Nat.add_sub_cancel' (Nat.le_of_lt hlt)]
  have hlength : ((tokenize f s).take i).length = i := List.length_take_of_le (by omega)
  have hlength' : ((tokenize f s).take j).length = j := List.length_take_of_le hj
  refine ⟨(tokenize f s).take i, (tokenize f s).extract i j, (tokenize f s).drop j, ?_, ?_, hlength,
    by rw [hsplit, hlength'], ?_⟩
  · rw [hsplit, List.take_append_drop]
  · intro hnil
    rw [hnil, List.append_nil] at hsplit
    rw [hsplit] at hlength
    omega
  · rw [rangeTexts, Array.toList_extract, toList_tokens_ofSource]

theorem lookups_ofSource (hlt : i < j) (hj : j ≤ (ofSource f s).size) :
    let span := [' '].intercalate (((ofSource f s).rangeTexts i j).map (·.toList))
    (∃ first last, (ofSource f s).ranges[i]? = some first ∧
        (ofSource f s).ranges[j - 1]? = some last ∧
        slice? (ofSource f s).normalized first.1 last.2 = some span) ∧
      ∃ place, (ofSource f s).places[i]? = some place ∧
        (ofSource f s).places[j]? = some (place + 1 + span.length) := by
  intro span
  obtain ⟨first, middle, last, htokens, hmiddle, rfl, rfl, htexts⟩ := exists_eq_append hlt hj
  have hspan : span = [' '].intercalate (middle.map (·.text.toList)) := by
    simp only [span, htexts, List.map_map]
    rfl
  have hne : ∀ t ∈ first ++ middle ++ last, t.text ≠ "" := by
    rw [← htokens]
    exact fun t ht => text_ne_empty_of_mem_tokenize ht
  have hall : first ++ middle ++ last ≠ [] := by simp [hmiddle]
  have hnormalized : (ofSource f s).normalized = (blanked (first ++ middle ++ last)).tail := by
    rw [← htokens]
    exact text_joinBehind [] _ (List.forall_mem_nil _) (by rwa [htokens])
  have hranges (k : Nat) : (ofSource f s).ranges[k]? =
      (joinBehind [] (first ++ middle ++ last)).ranges[k]? := by
    rw [← htokens]
    exact List.getElem?_toArray
  have hplaces (k : Nat) : (ofSource f s).places[k]? =
      (joinBehind [] (first ++ middle ++ last)).places[k]? := by
    rw [← htokens]
    exact List.getElem?_toArray
  rw [hspan, hnormalized]
  simp only [hranges, hplaces]
  constructor
  · obtain ⟨stop, start, hfirst, hlast⟩ := exists_ranges hne hmiddle
    exact ⟨_, _, hfirst, hlast, slice?_tail_blanked first last hmiddle⟩
  · have hfront := (List.forall_mem_append.1 hne).1
    refine ⟨(blanked first).length, ?_, ?_⟩
    · rw [List.append_assoc] at hall ⊢
      exact getElem?_places [] first _ (List.forall_mem_append.1 hfront).1 hall
    · rw [← length_blanked_append first hmiddle]
      exact getElem?_places [] (first ++ middle) last hfront hall

theorem normalizedSpan_ofSource (hlt : i < j) (hj : j ≤ (ofSource f s).size) :
    (ofSource f s).normalizedSpan i j =
      [' '].intercalate (((ofSource f s).rangeTexts i j).map (·.toList)) := by
  obtain ⟨⟨first, last, hfirst, hlast, hslice⟩, -⟩ := lookups_ofSource hlt hj
  have hrange : ¬ (j ≤ i ∨ (ofSource f s).ranges.size < j) := by
    have hsize : (ofSource f s).ranges.size = (ofSource f s).size := (ofSource f s).size_ranges
    omega
  rw [normalizedSpan, if_neg hrange, hfirst, hlast]
  exact congrArg (·.getD []) hslice

theorem normalizedSpan_of_out {d : Document} (h : ¬ (i < j ∧ j ≤ d.size)) :
    d.normalizedSpan i j = [] := by
  have hsize : d.ranges.size = d.size := d.size_ranges
  exact if_pos (by omega)

theorem normalizedLength_ofSource :
    (ofSource f s).normalizedLength i j = ((ofSource f s).normalizedSpan i j).length := by
  by_cases hrange : i < j ∧ j ≤ (ofSource f s).size
  · obtain ⟨hlt, hj⟩ := hrange
    obtain ⟨-, place, hplace, hbehind⟩ := lookups_ofSource hlt hj
    rw [normalizedSpan_ofSource hlt hj, normalizedLength, if_neg (by omega),
      Array.getD_eq_getD_getElem?, Array.getD_eq_getD_getElem?, hplace, hbehind, Option.getD_some,
      Option.getD_some]
    omega
  · rw [normalizedSpan_of_out hrange, normalizedLength, if_pos (by omega), List.length_nil]

theorem normalized_ofSource :
    (ofSource f s).normalized = (ofSource f s).normalizedSpan 0 (ofSource f s).size := by
  have hnormalized : (ofSource f s).normalized = (blanked (tokenize f s)).tail :=
    text_joinBehind [] _ (List.forall_mem_nil _) fun t ht => text_ne_empty_of_mem_tokenize ht
  have hsize : (ofSource f s).size = (tokenize f s).length := List.size_toArray
  rcases eq_or_ne (tokenize f s) [] with hnil | hne
  · rw [hnormalized, hsize, hnil, normalizedSpan_of_out (by simp)]
    rfl
  · have hpos : 0 < (ofSource f s).size := by
      rw [hsize]
      exact List.length_pos_of_ne_nil hne
    have htexts : (ofSource f s).rangeTexts 0 (ofSource f s).size =
        (tokenize f s).map (·.text) := by
      rw [rangeTexts, Array.toList_extract, toList_tokens_ofSource, hsize,
        List.extract_eq_take_drop, List.drop_zero, Nat.sub_zero, List.take_length]
    rw [normalizedSpan_ofSource hpos (Nat.le_refl _), htexts, List.map_map, hnormalized,
      blanked_eq_cons hne]
    rfl

end

/-- A span is the texts of its tokens, joined by blanks, and as long as its places say. -/
theorem normalized_spans (f : Folding) (s : List Char) (start stop : Nat) :
    let d := ofText f s
    d.normalizedLength start stop = (d.normalizedSpan start stop).length ∧
      (d.normalizedSpan start stop =
        if start < stop ∧ stop ≤ d.size then
          [' '].intercalate ((d.rangeTexts start stop).map (·.toList))
        else []) ∧
      (start < stop → stop ≤ d.size →
        (∃ first last, d.ranges[start]? = some first ∧ d.ranges[stop - 1]? = some last ∧
            slice? d.normalized first.1 last.2 = some (d.normalizedSpan start stop)) ∧
          ∃ place behind, d.places[start]? = some place ∧ d.places[stop]? = some behind ∧
            place < behind) ∧
      d.normalized = d.normalizedSpan 0 d.size := by
  intro d
  refine ⟨normalizedLength_ofSource, ?_, fun hlt hj => ?_, normalized_ofSource⟩
  · split
    · rename_i hrange
      exact normalizedSpan_ofSource hrange.1 hrange.2
    · rename_i hrange
      exact normalizedSpan_of_out hrange
  · obtain ⟨hslice, place, hplace, hbehind⟩ := lookups_ofSource hlt hj
    rw [← normalizedSpan_ofSource hlt hj] at hslice
    exact ⟨hslice, place, _, hplace, hbehind, by omega⟩

theorem normalized_spans_bracketed :
    let d := ofText {} "// Copy (or\n// sell)!".toList
    1 < 5 ∧ 5 ≤ d.size ∧ d.normalizedSpan 1 5 = "( or sell )".toList ∧ d.normalizedLength 1 5 = 11 ∧
      (∃ first last, d.ranges[1]? = some first ∧ d.ranges[5 - 1]? = some last ∧
        slice? d.normalized first.1 last.2 = some (d.normalizedSpan 1 5)) ∧
      ∃ place behind, d.places[1]? = some place ∧ d.places[5]? = some behind ∧ place < behind := by
  intro d
  have hsize : 5 ≤ d.size := by decide +kernel
  exact ⟨by decide, hsize, by decide +kernel, by decide +kernel,
    (normalized_spans _ _ 1 5).2.2.1 (by decide) hsize⟩

end Document

end Licensing.Text
