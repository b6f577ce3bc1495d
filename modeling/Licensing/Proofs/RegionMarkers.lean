import Licensing.Proofs.Commented
import Licensing.Proofs.RuleBodies
import Licensing.Proofs.Stripping

namespace Licensing.Text

open Licensing.Template

/-- The name of the rule that begins an optional region, as stripping looks for it. -/
def regionName : List Char :=
  "beginOptional".toList

/-- Whether stripping finds the rule with the given body to its end. -/
def IsPlainRegion (body : List Char) : Prop :=
  regionName <+: body ∧ '>' ∉ body

instance (body : List Char) : Decidable (IsPlainRegion body) :=
  inferInstanceAs (Decidable (_ ∧ _))

/-- What closing markers leave of an opening one behind the blanks `gap` and before `text`. -/
def leftOfMarker (gap marker text : List Char) : List Char :=
  ((blankClosers (gap ++ (marker ++ text))).drop gap.length).take marker.length

section

variable {u v s w t body behind lead marker gap text left back : List Char} {c : Char}

theorem closerLength?_cons_of_not_mem (h : ∀ m ∈ closers, c ∉ m) (s : List Char) :
    closerLength? (c :: s) = none := by
  have hne : ∀ m ∈ closers.map List.reverse, m ≠ [] := by decide
  have hlength : markerLength? (closers.map List.reverse) (c :: s) = none := by
    rw [markerLength?, Option.map_eq_none_iff, List.find?_eq_none]
    intro m hm hprefix
    obtain ⟨d, ds, rfl⟩ := List.exists_cons_of_ne_nil (hne m hm)
    obtain ⟨m, hmem, hreverse⟩ := List.mem_map.1 hm
    obtain rfl : d = c := (List.cons_prefix_cons.1 (List.isPrefixOf_iff_prefix.1 hprefix)).1
    refine h m hmem (List.mem_reverse.1 ?_)
    rw [hreverse]
    exact List.mem_cons_self
  have hstar : c ≠ '*' := by
    rintro rfl
    exact h "*/".toList (by decide) (by decide)
  rw [closerLength?, hlength]
  simp [hstar]

theorem blankClosers_append_cons (hmarkers : ∀ m ∈ closers, c ∉ m.dropLast)
    (hc : isWhitespace c = false) (hstop : closerLength? (c :: u.reverse) = none) (v : List Char) :
    blankClosers (u ++ c :: v) = u ++ c :: blankClosers v := by
  have hmarkers' : ∀ m ∈ closers.map List.reverse, c ∉ m.tail := by
    intro m hm
    obtain ⟨m, hmem, rfl⟩ := List.mem_map.1 hm
    rw [List.tail_reverse, List.mem_reverse]
    exact hmarkers m hmem
  have hlength (d : Char) (ds : List Char) :
      closerLength? (d :: ds ++ c :: u.reverse) = closerLength? (d :: ds) := by
    unfold closerLength?
    rw [markerLength?_cons_append_cons hmarkers']
    cases markerLength? (closers.map List.reverse) (d :: ds) with
    | some n => rfl
    | none =>
      by_cases hd : d = '*'
      · subst hd
        cases ds with
        | nil => simp [hc]
        | cons e ds => rfl
      · simp [hd]
  have hpass := blankMarkersAfter_append_cons (n := 0) (s := v.reverse) hlength
    (fun _ _ h => (findsMarkers_closerLength?.bounds h).2)
    (by rw [blankMarkersAfter, hc, hstop]; rfl) (Nat.zero_le _)
  rw [blankClosers, List.reverse_append, List.reverse_cons, List.append_assoc,
    List.singleton_append, hpass, List.reverse_append, List.reverse_cons, List.reverse_reverse,
    List.append_assoc]
  rfl

theorem blankClosers_enclose (front body behind : List Char) :
    blankClosers (front ++ enclose body behind) = front ++ enclose body (blankClosers behind) := by
  have hsplit (s : List Char) :
      front ++ enclose body s = (front ++ '<' :: '<' :: (body ++ ['>'])) ++ '>' :: s := by
    simp [enclose]
  rw [hsplit, hsplit]
  refine blankClosers_append_cons (by decide) rfl ?_ behind
  simp [closerLength?, markerLength?, closers, List.isPrefixOf]

theorem leftOfMarker_of_mem (h : c ∈ text) (hc : isWhitespace c = false)
    (hmarkers : ∀ m ∈ closers, c ∉ m) : leftOfMarker gap marker text = marker := by
  obtain ⟨x, y, rfl⟩ := List.append_of_mem h
  have hsplit : gap ++ (marker ++ (x ++ c :: y)) = (gap ++ (marker ++ x)) ++ c :: y := by simp
  have hclosed := blankClosers_append_cons (u := gap ++ (marker ++ x))
    (fun m hm hmem => hmarkers m hm (List.dropLast_subset _ hmem)) hc
    (closerLength?_cons_of_not_mem hmarkers _) y
  rw [leftOfMarker, hsplit, hclosed]
  simp

theorem openers_prefixFree : ∀ m ∈ openers, ∀ m' ∈ openers, m <+: m' ∨ m' <+: m → m' = m := by
  decide

theorem openers_head : ∀ m ∈ openers, m ≠ [] ∧ ∀ c ∈ m.head?, isWhitespace c = false := by
  have hheads : ∀ m ∈ openers, m.head?.any (!isWhitespace ·) := by decide
  intro m hm
  have hhead := hheads m hm
  cases m with
  | nil => cases hhead
  | cons d ds => simpa using hhead

theorem openerLength?_append (h : marker ∈ openers) (rest : List Char) :
    openerLength? (marker ++ rest) = some marker.length := by
  rw [openerLength?, markerLength?]
  cases hfind : openers.find? (·.isPrefixOf (marker ++ rest)) with
  | none =>
    rw [List.find?_eq_none] at hfind
    exact absurd (List.isPrefixOf_iff_prefix.2 (List.prefix_append _ _)) (hfind marker h)
  | some m =>
    have hprefix : m.isPrefixOf (marker ++ rest) := by simpa using List.find?_some hfind
    obtain rfl := openers_prefixFree marker h m (List.mem_of_find?_eq_some hfind)
      (List.prefix_or_prefix_of_prefix (List.prefix_append _ _)
        (List.isPrefixOf_iff_prefix.1 hprefix))
    rfl

theorem blankOpeners_opener (h : marker ∈ openers) (rest : List Char) :
    blankOpeners (marker ++ rest) =
      List.replicate marker.length ' ' ++ blankOpeners rest := by
  obtain ⟨hne, hhead⟩ := openers_head marker h
  exact blankMarkersAfter_of_length? hne hhead (openerLength?_append h rest)

theorem blankOpeners_append_of_isBlank (h : isBlank s) (rest : List Char) :
    blankOpeners (s ++ rest) = s ++ blankOpeners rest := by
  induction s with
  | nil => rfl
  | cons c cs ih =>
    rw [isBlank_cons] at h
    rw [List.cons_append, blankOpeners, blankMarkersAfter, if_pos h.1, List.cons_append]
    exact congrArg (c :: ·) (ih h.2)

theorem Covered.exists_blankOpeners (h : Covered openers lead) :
    ∃ blanks, isBlank blanks ∧ blanks.length = lead.length ∧
      ∀ rest, blankOpeners (lead ++ rest) = blanks ++ blankOpeners rest := by
  induction h with
  | nil => exact ⟨[], rfl, rfl, fun _ => rfl⟩
  | @blank c s hc _ ih =>
    obtain ⟨blanks, hblanks, hlength, hopeners⟩ := ih
    have hfirst : isBlank [c] := isBlank_cons.2 ⟨hc, rfl⟩
    refine ⟨c :: blanks, isBlank_cons.2 ⟨hc, hblanks⟩, congrArg (· + 1) hlength, fun rest => ?_⟩
    exact (blankOpeners_append_of_isBlank hfirst (s ++ rest)).trans
      (congrArg (c :: ·) (hopeners rest))
  | @marker m s hm _ ih =>
    obtain ⟨blanks, hblanks, hlength, hopeners⟩ := ih
    refine ⟨List.replicate m.length ' ' ++ blanks,
      isBlank_append.2 ⟨isBlank_replicate _, hblanks⟩, ?_, fun rest => ?_⟩
    · rw [List.length_append, List.length_append, List.length_replicate, hlength]
    · rw [List.append_assoc, blankOpeners_opener hm, hopeners, List.append_assoc]

theorem openers_take : ∀ m ∈ openers, ∀ m' ∈ openers, ∀ k < m.length, 0 < k →
    m'.take k = m.take k → isBlank (m'.drop k) → m' = m := by
  decide

theorem blankOpeners_of_blanked_end (hmarker : u ++ v ∈ openers) (hu : u ≠ []) (hs : isBlank s)
    (hne : ¬ u ++ v <+: u ++ s) : blankOpeners (u ++ s) = u ++ s := by
  have hv : v ≠ [] := by
    rintro rfl
    exact hne (by rw [List.append_nil]; exact List.prefix_append u s)
  have hpos : 0 < u.length := List.length_pos_iff.2 hu
  have hlt : u.length < (u ++ v).length := by
    rw [List.length_append]
    exact Nat.lt_add_of_pos_right (List.length_pos_iff.2 hv)
  have hlength : openerLength? (u ++ s) = none := by
    rw [openerLength?, markerLength?, Option.map_eq_none_iff, List.find?_eq_none]
    intro m hm hprefix
    rw [List.isPrefixOf_iff_prefix] at hprefix
    rcases List.prefix_or_prefix_of_prefix hprefix (List.prefix_append u s) with hmu | ⟨w, rfl⟩
    · obtain rfl := openers_prefixFree _ hmarker m hm (.inr (hmu.trans (List.prefix_append u v)))
      exact absurd hmu.length_le (Nat.not_le_of_lt hlt)
    · obtain ⟨t, rfl⟩ := (List.prefix_append_right_inj u).1 hprefix
      have heq := openers_take _ hmarker _ hm u.length hlt hpos
        (by rw [List.take_left, List.take_left])
        (by rw [List.drop_left]; exact (isBlank_append.1 hs).1)
      exact hne (heq ▸ hprefix)
  obtain ⟨c, cs, rfl⟩ := List.exists_cons_of_ne_nil hu
  have hc := (openers_head _ hmarker).2 c rfl
  apply blankMarkersAfter_of_dropWhile
  rwa [List.cons_append, List.dropWhile_cons_of_neg (by simp [hc])]

theorem exists_blankClosers_marker (text : List Char) (hgap : isBlank gap)
    (hmarker : marker ∈ openers) :
    ∃ gap' left back, blankClosers (gap ++ (marker ++ text)) = gap' ++ (left ++ back) ∧
      gap'.length = gap.length ∧ isBlank gap' ∧ left.length = marker.length ∧
      (left = marker ∨ isBlank left ∨
        ¬ isBlank left ∧ blankOpeners (left ++ back) = left ++ back) := by
  obtain ⟨rest, back, blanks, hline, hclosed, hlength, hblanks, -⟩ :=
    exists_blankClosers (gap ++ (marker ++ text))
  rw [hclosed]
  rcases List.append_eq_append_iff.1 hline with ⟨u, rfl, hmiddle⟩ | ⟨w, rfl, rfl⟩
  · rcases List.append_eq_append_iff.1 hmiddle with ⟨v, rfl, rfl⟩ | ⟨v, rfl, rfl⟩
    · exact ⟨gap, marker, v ++ blanks, by simp, rfl, hgap, rfl, .inl rfl⟩
    · obtain ⟨s, t, rfl, hs⟩ : ∃ s t, blanks = s ++ t ∧ s.length = v.length :=
        ⟨blanks.take v.length, blanks.drop v.length, (List.take_append_drop _ _).symm, by
          rw [List.length_append] at hlength
          rw [List.length_take, Nat.min_eq_left (by omega)]⟩
      refine ⟨gap, u ++ s, t, by simp, rfl, hgap, by simp [hs], ?_⟩
      by_cases hu : u = []
      · subst hu
        exact .inr (.inl (isBlank_append.1 hblanks).1)
      · by_cases hprefix : u ++ v <+: u ++ (s ++ t)
        · have hsv : v <+: s ++ t := (List.prefix_append_right_inj u).1 hprefix
          obtain ⟨z, hz⟩ := hsv
          exact .inl (congrArg (u ++ ·) (List.append_inj hz hs.symm).1.symm)
        · refine .inr (.inr ⟨fun h => ?_, ?_⟩)
          · obtain ⟨c, cs, rfl⟩ := List.exists_cons_of_ne_nil hu
            have hc := (openers_head _ hmarker).2 c rfl
            rw [(isBlank_cons.1 h).1] at hc
            cases hc
          · rw [List.append_assoc]
            exact blankOpeners_of_blanked_end hmarker hu hblanks hprefix
  · obtain ⟨s, t, z, rfl, hs, ht⟩ : ∃ s t z, blanks = s ++ (t ++ z) ∧ s.length = w.length ∧
        t.length = marker.length := by
      refine ⟨blanks.take w.length, (blanks.drop w.length).take marker.length,
        (blanks.drop w.length).drop marker.length, by simp only [List.take_append_drop], ?_, ?_⟩
      all_goals
        simp only [List.length_append] at hlength
        simp only [List.length_take, List.length_drop]
        omega
    rw [isBlank_append, isBlank_append] at hblanks
    exact ⟨rest ++ s, t, z, by simp, by simp [hs],
      isBlank_append.2 ⟨(isBlank_append.1 hgap).1, hblanks.1⟩, ht, .inr (.inl hblanks.2.1)⟩

theorem leftOfMarker_eq (h : blankClosers (gap ++ (marker ++ text)) = s ++ (left ++ back))
    (hs : s.length = gap.length) (hleft : left.length = marker.length) :
    leftOfMarker gap marker text = left := by
  rw [leftOfMarker, h, List.drop_left' hs, List.take_left' hleft]

theorem exists_blankOpeners_append (hmarker : marker ∈ openers)
    (hlength : left.length = marker.length)
    (h : left = marker ∨ isBlank left ∨
      ¬ isBlank left ∧ blankOpeners (left ++ back) = left ++ back) :
    ∃ place later, blankOpeners (left ++ back) = place ++ later ∧
      place.length = marker.length ∧ (isBlank place ↔ isBlank left ∨ left = marker) := by
  rcases h with rfl | hblank | ⟨hblank, hopeners⟩
  · refine ⟨List.replicate left.length ' ', blankOpeners back, blankOpeners_opener hmarker back,
      List.length_replicate, ?_⟩
    exact iff_of_true (isBlank_replicate _) (.inr rfl)
  · exact ⟨left, blankOpeners back, blankOpeners_append_of_isBlank hblank back, hlength,
      iff_of_true hblank (.inl hblank)⟩
  · refine ⟨left, back, hopeners, hlength, (or_iff_left ?_).symm⟩
    rintro rfl
    have hmark := congrArg (List.take left.length)
      (hopeners.symm.trans (blankOpeners_opener hmarker back))
    rw [List.take_left, List.take_left' List.length_replicate] at hmark
    exact hblank (hmark ▸ isBlank_replicate _)

theorem regionName_append : optionalKeyword = '<' :: '<' :: regionName := by
  decide

theorem not_mem_regionName : '>' ∉ regionName := by
  decide

theorem optionalKeyword_isPrefixOf (body behind : List Char) :
    optionalKeyword.isPrefixOf (enclose body behind) = regionName.isPrefixOf body := by
  rw [regionName_append, enclose]
  simp [List.isPrefixOf, isPrefixOf_append_cons not_mem_regionName]

theorem opensOptional_enclose (h : IsPlainRegion body) : OpensOptional (enclose body []) := by
  obtain ⟨⟨rule, rfl⟩, hrule⟩ := h
  exact ⟨[], rule, rfl, fun hmem => hrule (List.mem_append_right _ hmem), by
    simp [enclose, regionName_append]⟩

theorem blankAfterOptional_enclose_of_isPlainRegion (h : IsPlainRegion body) (behind : List Char) :
    blankAfterOptional (enclose body behind) = enclose body (blankOpeners behind) := by
  have hsplit (s : List Char) : enclose body s = enclose body [] ++ s := by simp [enclose]
  rw [hsplit, blankAfterOptional_eq, (opensOptional_enclose h).cutOptional?_append,
    Option.elim_some]
  exact (hsplit _).symm

theorem blankOpeners_enclose (body behind : List Char) :
    blankOpeners (enclose body behind) = enclose body behind :=
  rfl

theorem dropWhile_enclose (body behind : List Char) :
    (enclose body behind).dropWhile isWhitespace = enclose body behind :=
  rfl

theorem blankAfterOptional_enclose_of_not_prefix (h : ¬ regionName <+: body)
    (behind : List Char) :
    blankAfterOptional (enclose body behind) = enclose body behind := by
  have hkeyword : optionalKeyword.isPrefixOf (enclose body behind) = false := by
    rw [optionalKeyword_isPrefixOf, Bool.eq_false_iff, ne_eq, List.isPrefixOf_iff_prefix]
    exact h
  rw [blankAfterOptional, dropWhile_enclose]
  simp [hkeyword]

theorem blankAfterOptional_enclose_of_single (hu : '>' ∉ u) (hc : c ≠ '>') (v behind : List Char) :
    blankAfterOptional (enclose (u ++ '>' :: c :: v) behind) =
      enclose (u ++ '>' :: c :: v) behind := by
  have hfront : ∀ d ∈ '<' :: '<' :: u, decide (d ≠ '>') = true := by
    simp only [List.forall_mem_cons]
    exact ⟨rfl, rfl, fun d hd => decide_eq_true fun heq => hu (heq ▸ hd)⟩
  have hsplit : enclose (u ++ '>' :: c :: v) behind =
      '<' :: '<' :: u ++ '>' :: c :: (v ++ '>' :: '>' :: behind) := by simp [enclose]
  have hbehind : (enclose (u ++ '>' :: c :: v) behind).dropWhile (· ≠ '>') =
      '>' :: c :: (v ++ '>' :: '>' :: behind) := by
    rw [hsplit, List.dropWhile_append_of_pos hfront]
    rfl
  rw [blankAfterOptional, dropWhile_enclose, hbehind]
  simp [Ne.symm hc]

theorem eq_of_append_cons_eq (hu : c ∉ u) (hs : c ∉ s) (h : u ++ c :: v = s ++ c :: t) :
    v = t := by
  rcases List.append_eq_append_iff.1 h with ⟨w, rfl, hw⟩ | ⟨w, rfl, hw⟩
  · cases w with
    | nil => exact (List.cons.inj hw).2
    | cons d w =>
      obtain rfl : c = d := (List.cons.inj hw).1
      exact absurd (List.mem_append_right u List.mem_cons_self) hs
  · cases w with
    | nil => exact (List.cons.inj hw).2.symm
    | cons d w =>
      obtain rfl : c = d := (List.cons.inj hw).1
      exact absurd (List.mem_append_right s List.mem_cons_self) hu

/-- Stripping takes the first `>>` for the end of the rule, and strips what stands behind it. -/
theorem blankAfterOptional_enclose_of_mem (hu : IsPlainRegion u) (w : List Char) :
    ∃ body', body'.length = (u ++ '>' :: w).length ∧
      (body' = u ++ '>' :: w ↔ ∀ v, w = '>' :: v → Unopened v) ∧
      ∀ behind, blankAfterOptional (enclose (u ++ '>' :: w) behind) = enclose body' behind := by
  cases w with
  | nil =>
    refine ⟨u ++ ['>'], rfl, iff_of_true rfl (by simp), fun behind => ?_⟩
    have hsplit : enclose (u ++ ['>']) behind = enclose u ('>' :: behind) := by simp [enclose]
    rw [hsplit, blankAfterOptional_enclose_of_isPlainRegion hu]
    rfl
  | cons c v =>
    by_cases hc : c = '>'
    · subst hc
      have hsplit (s t : List Char) : enclose (u ++ '>' :: '>' :: s) t =
          enclose u (s ++ '>' :: '>' :: t) := by simp [enclose]
      refine ⟨u ++ '>' :: '>' :: blankOpeners v, ?_, ?_, fun behind => ?_⟩
      · simp [(overwritten_blankOpeners v).length_eq]
      · have hequal : u ++ '>' :: '>' :: blankOpeners v = u ++ '>' :: '>' :: v ↔
            blankOpeners v = v := by simp
        rw [hequal]
        constructor
        · intro hv v' heq
          obtain rfl : v = v' := (List.cons.inj heq).2
          exact hv ▸ unopened_blankOpeners v
        · intro h
          exact (h v rfl).blankOpeners_eq
      · rw [hsplit, hsplit, blankAfterOptional_enclose_of_isPlainRegion hu,
          blankOpeners_append_cons (by decide) rfl]
    · refine ⟨u ++ '>' :: c :: v, rfl, iff_of_true rfl fun v' heq => ?_, fun behind => ?_⟩
      · exact absurd (List.cons.inj heq).1 hc
      · exact blankAfterOptional_enclose_of_single hu.2 hc v behind

theorem blankAfterOptional_enclose (body : List Char) :
    ∃ body', body'.length = body.length ∧
      (body' = body ↔ ∀ u v, body = u ++ '>' :: '>' :: v → IsPlainRegion u → Unopened v) ∧
      ∀ behind, blankAfterOptional (enclose body behind) =
        enclose body' (if IsPlainRegion body then blankOpeners behind else behind) := by
  by_cases hname : regionName <+: body
  · by_cases hmem : '>' ∈ body
    · have hplain : ¬ IsPlainRegion body := fun h => h.2 hmem
      obtain ⟨u, w, rfl, hu⟩ := List.eq_append_cons_of_mem hmem
      have hname' : regionName <+: u := by
        rw [← List.isPrefixOf_iff_prefix] at hname ⊢
        rwa [isPrefixOf_append_cons not_mem_regionName] at hname
      obtain ⟨body', hlength, hequal, hbody⟩ := blankAfterOptional_enclose_of_mem ⟨hname', hu⟩ w
      refine ⟨body', hlength, hequal.trans ⟨fun h u' v heq hu' => ?_, fun h v heq => ?_⟩, ?_⟩
      · exact h v (eq_of_append_cons_eq hu hu'.2 heq)
      · exact h u v (heq ▸ rfl) ⟨hname', hu⟩
      · simpa only [if_neg hplain] using hbody
    · have hplain : IsPlainRegion body := ⟨hname, hmem⟩
      refine ⟨body, rfl, iff_of_true rfl fun u v heq _ => ?_, fun behind => ?_⟩
      · exact absurd (heq ▸ List.mem_append_right u List.mem_cons_self) hmem
      · rw [if_pos hplain, blankAfterOptional_enclose_of_isPlainRegion hplain]
  · have hplain : ¬ IsPlainRegion body := fun h => hname h.1
    refine ⟨body, rfl, iff_of_true rfl fun u v heq hu => ?_, fun behind => ?_⟩
    · exact absurd (heq ▸ hu.1.trans (List.prefix_append u _)) hname
    · rw [if_neg hplain, blankAfterOptional_enclose_of_not_prefix hname]

theorem getElem?_lines_stripComments {line : List Char} {i : Nat} (hline : '\n' ∉ line)
    (h : (lines s)[i]? = some line) :
    (lines (stripComments s))[i]? = some (stripComments line) := by
  rw [lines_stripComments, List.getElem?_map, h, Option.map_some, stripComments_of_not_mem hline]

/-- The marker behind a rule is blanked exactly if stripping finds the end of the rule. -/
theorem stripComments_region_line (lead body gap marker text : List Char)
    (hlead : Covered openers lead) (hgap : isBlank gap) (hmarker : marker ∈ openers)
    (hline : '\n' ∉ lead ++ enclose body (gap ++ (marker ++ text))) :
    let line := lead ++ enclose body (gap ++ (marker ++ text))
    let left := leftOfMarker gap marker text
    (∃ front body' gap' place back,
      stripComments line = front ++ enclose body' (gap' ++ (place ++ back)) ∧
      (front.length = lead.length ∧ isBlank front) ∧ body'.length = body.length ∧
      (gap'.length = gap.length ∧ isBlank gap') ∧ place.length = marker.length ∧
      (body' = body ↔ ∀ u v, body = u ++ '>' :: '>' :: v → IsPlainRegion u → Unopened v) ∧
      (isBlank place ↔ isBlank left ∨ left = marker ∧ IsPlainRegion body)) ∧
    ((∃ c ∈ text, isWhitespace c = false ∧ ∀ m ∈ closers, c ∉ m) → left = marker) ∧
    ∀ (s : List Char) (i : Nat), (lines s)[i]? = some line →
      (lines (stripComments s))[i]? = some (stripComments line) := by
  intro line left
  refine ⟨?_, ?_, fun s i => getElem?_lines_stripComments hline⟩
  · obtain ⟨front, hfront, hsize, hopeners⟩ := hlead.exists_blankOpeners
    obtain ⟨gap', left', back, hclosers, hgapSize, hgap', hleftSize, hcases⟩ :=
      exists_blankClosers_marker text hgap hmarker
    obtain rfl : left = left' := leftOfMarker_eq hclosers hgapSize hleftSize
    obtain ⟨body', hbodySize, hbody, hoptional⟩ := blankAfterOptional_enclose body
    have hstrip : stripComments line = front ++ enclose body'
        (if IsPlainRegion body then gap' ++ blankOpeners (left ++ back)
          else gap' ++ (left ++ back)) := by
      rw [stripComments_of_not_mem hline, blankLine, blankClosers_enclose, hclosers, hopeners,
        blankOpeners_enclose, blankAfterOptional_append_of_isBlank hfront, hoptional,
        blankOpeners_append_of_isBlank hgap']
    by_cases hplain : IsPlainRegion body
    · obtain ⟨place, later, hplace, hplaceSize, hblank⟩ :=
        exists_blankOpeners_append hmarker hleftSize hcases
      rw [if_pos hplain, hplace] at hstrip
      refine ⟨front, body', gap', place, later, hstrip, ⟨hsize, hfront⟩, hbodySize,
        ⟨hgapSize, hgap'⟩, hplaceSize, hbody, ?_⟩
      rw [hblank, and_iff_left hplain]
    · rw [if_neg hplain] at hstrip
      refine ⟨front, body', gap', left, back, hstrip, ⟨hsize, hfront⟩, hbodySize,
        ⟨hgapSize, hgap'⟩, hleftSize, hbody, ?_⟩
      rw [or_iff_left fun h => hplain h.2]
  · rintro ⟨c, hmem, hc, hclosers⟩
    exact leftOfMarker_of_mem hmem hc hclosers

end

theorem stripComments_region_line_named :
    let body := "beginOptional;name=\"a\"".toList
    let line := "// ".toList ++ enclose body (" ".toList ++ ("#".toList ++ " x".toList))
    Covered openers "// ".toList ∧ isBlank " ".toList ∧ "#".toList ∈ openers ∧ '\n' ∉ line ∧
      ∃ front gap' place back,
        stripComments line = front ++ enclose body (gap' ++ (place ++ back)) ∧
        isBlank front ∧ isBlank place := by
  intro body line
  have hlead : Covered openers ("//".toList ++ [' ']) := .marker (by decide) (.blank rfl .nil)
  have hgap : isBlank " ".toList := rfl
  have hmarker : "#".toList ∈ openers := by decide
  have hline : '\n' ∉ line := by decide
  have hplain : IsPlainRegion body := by decide
  obtain ⟨⟨front, body', gap', place, back, hstrip, ⟨-, hfront⟩, -, -, -, hbody, hplace⟩, hleft,
    -⟩ := stripComments_region_line "// ".toList body " ".toList "#".toList " x".toList hlead hgap
      hmarker hline
  obtain rfl : body' = body := hbody.2 fun u v heq _ =>
    absurd (heq ▸ List.mem_append_right u List.mem_cons_self) hplain.2
  refine ⟨hlead, hgap, hmarker, hline, front, gap', place, back, hstrip, hfront, ?_⟩
  exact hplace.2 (.inr ⟨hleft ⟨'x', by decide, rfl, by decide⟩, hplain⟩)

/-- The reader of templates takes both rules for the beginning of an optional region. -/
theorem stripComments_keeps_region_marker :
    (pieces "<<BEGINOPTIONAL>> # x".toList).1.head? = some (.rule "BEGINOPTIONAL".toList 1) ∧
      Rule.parse "BEGINOPTIONAL".toList 1 = .ok (.beginOptional ⟨none, 1⟩) ∧
      stripComments "<<BEGINOPTIONAL>> # x".toList = "<<BEGINOPTIONAL>> # x".toList ∧
      (pieces "<<beginOptional;name=\"a>># b\">> # x".toList).1.head? =
        some (.rule "beginOptional;name=\"a>># b\"".toList 1) ∧
      Rule.parse "beginOptional;name=\"a>># b\"".toList 1 =
        .ok (.beginOptional ⟨some "a>># b".toList, 1⟩) ∧
      stripComments "<<beginOptional;name=\"a>># b\">> # x".toList =
        "<<beginOptional;name=\"a>>  b\">> # x".toList := by
  refine ⟨?_, rfl, ?_, ?_, rfl, ?_⟩
  all_goals decide +kernel

end Licensing.Text
