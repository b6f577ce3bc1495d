import Licensing.Proofs.Lines

namespace Licensing.Text

/-- The second text is the first with some of the given markers overwritten. -/
inductive Overwritten (markers : List (List Char)) : List Char → List Char → Prop where
  | nil : Overwritten markers [] []
  | keep (c : Char) {s s' : List Char} (h : Overwritten markers s s') :
      Overwritten markers (c :: s) (c :: s')
  | marker {c : Char} {m s s' : List Char} (hm : c :: m ∈ markers) (h : Overwritten markers s s') :
      Overwritten markers (c :: (m ++ s)) (' ' :: (List.replicate m.length ' ' ++ s'))

/-- The markers of comments, without the white space that belongs to some of them. -/
def marks : List (List Char) :=
  (openers ++ closers).map trimRight

theorem not_mem_marks : ∀ m ∈ marks, ' ' ∉ m := by
  decide

namespace Overwritten

variable {markers : List (List Char)} {a b c s s' u u' v v' w p m : List Char} {d : Char} {n : Nat}

theorem refl (s : List Char) : Overwritten markers s s := by
  induction s with
  | nil => exact .nil
  | cons c cs ih => exact .keep c ih

theorem marker_append (hm : m ∈ markers) (h : Overwritten markers s s') :
    Overwritten markers (m ++ s) (List.replicate m.length ' ' ++ s') := by
  cases m with
  | nil => exact h
  | cons c m => exact .marker hm h

theorem length_eq (h : Overwritten markers s s') : s'.length = s.length := by
  induction h with
  | nil => rfl
  | keep c _ ih => rw [List.length_cons, List.length_cons, ih]
  | marker hm _ ih =>
    rw [List.length_cons, List.length_cons, List.length_append, List.length_append,
      List.length_replicate, ih]

theorem append (h : Overwritten markers u u') (h' : Overwritten markers v v') :
    Overwritten markers (u ++ v) (u' ++ v') := by
  induction h with
  | nil => exact h'
  | keep c _ ih => exact .keep c ih
  | marker hm _ ih =>
    rw [List.cons_append, List.cons_append, List.append_assoc, List.append_assoc]
    exact .marker hm ih

theorem reverse (h : Overwritten markers s s') :
    Overwritten (markers.map List.reverse) s.reverse s'.reverse := by
  induction h with
  | nil => exact .nil
  | keep c _ ih =>
    rw [List.reverse_cons, List.reverse_cons]
    exact ih.append (.refl [c])
  | @marker c m s s' hm _ ih =>
    have hmarker := ih.append (marker_append (List.mem_map_of_mem (f := List.reverse) hm) .nil)
    simpa [List.replicate_succ'] using hmarker

theorem eq_cons_of_ne (h : Overwritten markers a (d :: s)) (hd : d ≠ ' ') :
    ∃ a', a = d :: a' ∧ Overwritten markers a' s := by
  cases h with
  | keep _ h => exact ⟨_, rfl, h⟩
  | marker hm h => exact absurd rfl hd

theorem of_cons {e : Char} (h : Overwritten markers (e :: a) (d :: s)) (hd : d ≠ ' ') :
    Overwritten markers a s := by
  obtain ⟨a', heq, hrest⟩ := eq_cons_of_ne h hd
  obtain rfl := (List.cons.inj heq).2
  exact hrest

theorem eq_append_of_not_mem (h : Overwritten markers a (u ++ s)) (hu : ' ' ∉ u) :
    ∃ a', a = u ++ a' ∧ Overwritten markers a' s := by
  induction u generalizing a with
  | nil => exact ⟨a, rfl, h⟩
  | cons d ds ih =>
    rw [List.mem_cons, not_or] at hu
    obtain ⟨a', rfl, hrest⟩ := eq_cons_of_ne h (Ne.symm hu.1)
    obtain ⟨a'', rfl, hbehind⟩ := ih hrest hu.2
    exact ⟨a'', rfl, hbehind⟩

theorem exists_eq_append (h : Overwritten markers (p ++ v) s')
    (hp : ∀ q, q <:+ p → q ≠ [] → ∀ m ∈ markers, m ≠ [] → ¬ m <+: q ++ v) :
    ∃ v', s' = p ++ v' ∧ Overwritten markers v v' := by
  induction p generalizing s' with
  | nil => exact ⟨s', rfl, h⟩
  | cons c cs ih =>
    rw [List.cons_append] at h
    generalize hrest : cs ++ v = rest at h
    cases h with
    | keep _ h =>
      subst hrest
      obtain ⟨v', rfl, hv⟩ := ih h fun q hq => hp q (hq.trans (List.suffix_cons c cs))
      exact ⟨v', rfl, hv⟩
    | @marker _ m s s' hm h =>
      refine absurd ⟨s, ?_⟩
        (hp (c :: cs) (List.suffix_refl _) (List.cons_ne_nil _ _) _ hm (List.cons_ne_nil _ _))
      rw [List.cons_append, List.cons_append, hrest]

theorem exists_eq_replicate_append (hmarkers : ∀ m ∈ markers, ' ' ∉ m)
    (h : Overwritten markers (List.replicate n ' ' ++ v) s') :
    ∃ v', s' = List.replicate n ' ' ++ v' ∧ Overwritten markers v v' := by
  refine exists_eq_append h fun q hq hne m hm hcons hprefix => ?_
  obtain ⟨d, ds, rfl⟩ := List.exists_cons_of_ne_nil hne
  obtain ⟨e, m, rfl⟩ := List.exists_cons_of_ne_nil hcons
  obtain rfl : d = ' ' := List.eq_of_mem_replicate (hq.subset List.mem_cons_self)
  obtain ⟨rfl, -⟩ := List.cons_prefix_cons.1 hprefix
  exact hmarkers _ hm List.mem_cons_self

theorem trans (hmarkers : ∀ m ∈ markers, ' ' ∉ m) (h : Overwritten markers a b)
    (h' : Overwritten markers b c) : Overwritten markers a c := by
  induction h' generalizing a with
  | nil => exact h
  | @keep d s s' _ ih =>
    cases h with
    | keep _ h => exact .keep d (ih h)
    | marker hm h =>
      obtain ⟨v', rfl, hv⟩ :=
        exists_eq_replicate_append hmarkers (ih ((refl (List.replicate _ ' ')).append h))
      exact .marker hm hv
  | @marker d m s s' hm _ ih =>
    rw [← List.cons_append] at h
    obtain ⟨a', rfl, hrest⟩ := eq_append_of_not_mem h (hmarkers _ hm)
    exact .marker hm (ih hrest)

theorem exists_eq_append_cons (h : Overwritten markers a (u' ++ d :: v')) (hd : d ≠ ' ') :
    ∃ u v, a = u ++ d :: v ∧ Overwritten markers u u' ∧ Overwritten markers v v' := by
  generalize hb : u' ++ d :: v' = b at h
  induction h generalizing u' with
  | nil => simp at hb
  | @keep e s s' h ih =>
    rcases List.append_eq_cons_iff.1 hb with ⟨rfl, heq⟩ | ⟨u'', rfl, hs⟩
    · obtain ⟨rfl, rfl⟩ := List.cons.inj heq
      exact ⟨[], s, rfl, .nil, h⟩
    · obtain ⟨u, v, rfl, hu, hv⟩ := ih hs.symm
      exact ⟨e :: u, v, rfl, .keep e hu, hv⟩
  | @marker e m s s' hm h ih =>
    rcases List.append_eq_cons_iff.1 hb with ⟨rfl, heq⟩ | ⟨u'', rfl, hs⟩
    · exact absurd (List.cons.inj heq).1 hd
    · -- The blanks end in front of the character.
      obtain ⟨t, rfl, hs'⟩ : ∃ t, u'' = List.replicate m.length ' ' ++ t ∧ s' = t ++ d :: v' := by
        rcases List.append_eq_append_iff.1 hs with hlonger | ⟨t, hblanks, ht⟩
        · exact hlonger
        · cases t with
          | nil => exact ⟨[], by simpa using hblanks.symm, ht.symm⟩
          | cons e t =>
            obtain rfl : d = e := (List.cons.inj ht).1
            have hmem : d ∈ List.replicate m.length ' ' := by simp [hblanks]
            exact absurd (List.eq_of_mem_replicate hmem) hd
      obtain ⟨u, v, rfl, hu, hv⟩ := ih hs'.symm
      exact ⟨e :: (m ++ u), v, by simp, .marker hm hu, hv⟩

theorem mem (h : Overwritten markers s u) (hd : d ∈ u) : d ∈ s ∨ d = ' ' := by
  by_cases hblank : d = ' '
  · exact .inr hblank
  · obtain ⟨front, back, rfl⟩ := List.append_of_mem hd
    obtain ⟨front', back', rfl, -⟩ := h.exists_eq_append_cons hblank
    exact .inl (List.mem_append_right _ List.mem_cons_self)

end Overwritten

/-- Lengths that are those of markers, each with the blanks behind it that belong to it. -/
def FindsMarkers (markers : List (List Char)) (length? : List Char → Option Nat) : Prop :=
  ∀ s n, length? s = some n → ∃ m ∈ markers, ∃ k v, m ≠ [] ∧
    s = m ++ List.replicate k ' ' ++ v ∧ n = (m ++ List.replicate k ' ').length

section

variable {markers : List (List Char)} {length? : List Char → Option Nat} {u v : List Char}

theorem blankMarkersAfter_append (length? : List Char → Option Nat) (u v : List Char) :
    blankMarkersAfter length? u.length (u ++ v) =
      List.replicate u.length ' ' ++ blankMarkersAfter length? 0 v := by
  induction u with
  | nil => rfl
  | cons c cs ih =>
    rw [List.length_cons, List.cons_append, blankMarkersAfter, ih, List.replicate_succ,
      List.cons_append]

theorem blankMarkersAfter_of_length? (hne : u ≠ []) (hu : ∀ c ∈ u.head?, isWhitespace c = false)
    (h : length? (u ++ v) = some u.length) :
    blankMarkersAfter length? 0 (u ++ v) =
      List.replicate u.length ' ' ++ blankMarkersAfter length? 0 v := by
  obtain ⟨c, cs, rfl⟩ := List.exists_cons_of_ne_nil hne
  rw [← blankMarkersAfter_append]
  rw [List.cons_append] at h ⊢
  simp [blankMarkersAfter, hu c rfl, h]

theorem FindsMarkers.bounds (h : FindsMarkers markers length?) {s : List Char} {n : Nat}
    (hn : length? s = some n) : 0 < n ∧ n ≤ s.length := by
  obtain ⟨m, -, k, v, hne, rfl, rfl⟩ := h s n hn
  have hpos : 0 < m.length := List.length_pos_iff.2 hne
  simp only [List.length_append]
  omega

theorem FindsMarkers.induction (h : FindsMarkers markers length?)
    {P : List Char → List Char → Prop}
    (stop : ∀ s, length? s = none → (∀ c ∈ s.head?, isWhitespace c = false) → P s s)
    (blank : ∀ c s s', isWhitespace c → P s s' → P (c :: s) (c :: s'))
    (marker : ∀ u v s', u ≠ [] → (∀ c ∈ u.head?, isWhitespace c = false) →
      length? (u ++ v) = some u.length → P v s' → P (u ++ v) (List.replicate u.length ' ' ++ s'))
    (s : List Char) : P s (blankMarkersAfter length? 0 s) := by
  induction hs : s.length using Nat.strong_induction_on generalizing s with
  | _ length ih =>
    subst hs
    cases s with
    | nil =>
      refine stop [] ?_ (by simp)
      cases hlength : length? [] with
      | none => rfl
      | some n =>
        have hbounds := h.bounds hlength
        simp only [List.length_nil] at hbounds
        omega
    | cons c cs =>
      by_cases hc : isWhitespace c
      · rw [blankMarkersAfter, if_pos hc]
        exact blank c cs _ hc (ih cs.length (Nat.lt_succ_self _) cs rfl)
      have hfirst : isWhitespace c = false := Bool.eq_false_iff.2 hc
      cases hlength : length? (c :: cs) with
      | none =>
        rw [blankMarkersAfter, if_neg hc, hlength]
        exact stop _ hlength (by simpa using hfirst)
      | some n =>
        obtain ⟨hpos, hle⟩ := h.bounds hlength
        obtain ⟨k, rfl⟩ : ∃ k, n = k + 1 := ⟨n - 1, by omega⟩
        have hsplit : c :: cs = c :: cs.take k ++ cs.drop k := by simp
        have htake : (c :: cs.take k).length = k + 1 := by
          rw [List.length_cons] at hle ⊢
          rw [List.length_take, Nat.min_eq_left (by omega)]
        have hhead : ∀ d ∈ (c :: cs.take k).head?, isWhitespace d = false := by simpa using hfirst
        rw [← htake, hsplit] at hlength
        have hshorter : (cs.drop k).length < (c :: cs).length := by
          simp only [List.length_drop, List.length_cons]
          omega
        have hrest := ih (cs.drop k).length hshorter (cs.drop k) rfl
        rw [hsplit, blankMarkersAfter_of_length? (List.cons_ne_nil _ _) hhead hlength]
        exact marker _ _ _ (List.cons_ne_nil _ _) hhead hlength hrest

theorem overwritten_blankMarkersAfter (h : FindsMarkers markers length?) (s : List Char) :
    Overwritten markers s (blankMarkersAfter length? 0 s) := by
  refine h.induction (fun s _ _ => .refl s) (fun c s s' _ ih => .keep c ih)
    (fun u v s' _ _ hlength ih => ?_) s
  obtain ⟨m, hm, k, w, -, hsplit, hk⟩ := h _ _ hlength
  obtain ⟨rfl, rfl⟩ := List.append_inj hsplit hk
  rw [List.length_append, List.length_replicate, List.replicate_add, List.append_assoc,
    List.append_assoc]
  exact .marker_append hm ((Overwritten.refl _).append ih)

theorem FindsMarkers.of_markerLength? {found : List (List Char)}
    (h : ∀ m ∈ found, trimRight m ∈ markers ∧ trimRight m ≠ [] ∧
      m = trimRight m ++ List.replicate (m.length - (trimRight m).length) ' ') :
    FindsMarkers markers (markerLength? found) := by
  intro s n hn
  obtain ⟨m, hfind, rfl⟩ := Option.map_eq_some_iff.1 hn
  obtain ⟨hm, hne, heq⟩ := h m (List.mem_of_find?_eq_some hfind)
  have hprefix : m.isPrefixOf s := by simpa using List.find?_some hfind
  obtain ⟨v, rfl⟩ := List.isPrefixOf_iff_prefix.1 hprefix
  exact ⟨trimRight m, hm, _, v, hne, by rw [← heq], by rw [← heq]⟩

theorem findsMarkers_openerLength? : FindsMarkers marks openerLength? :=
  .of_markerLength? (by decide)

theorem findsMarkers_closerLength? : FindsMarkers (marks.map List.reverse) closerLength? := by
  intro s n hn
  unfold closerLength? at hn
  split at hn
  · rename_i hmarker
    exact FindsMarkers.of_markerLength? (by decide) _ _ (hmarker.trans hn)
  · split at hn
    · split at hn
      · obtain rfl := Option.some.inj hn
        rename_i c cs _ _
        exact ⟨['*'], by decide, 0, c :: cs, by decide, rfl, rfl⟩
      · cases hn
    · cases hn

theorem overwritten_blankOpeners (line : List Char) :
    Overwritten marks line (blankOpeners line) :=
  overwritten_blankMarkersAfter findsMarkers_openerLength? line

theorem overwritten_blankClosers (line : List Char) :
    Overwritten marks line (blankClosers line) := by
  have h := (overwritten_blankMarkersAfter findsMarkers_closerLength? line.reverse).reverse
  rwa [List.reverse_reverse, List.map_map, List.reverse_involutive.comp_self, List.map_id] at h

theorem overwritten_blankAfterOptional (line : List Char) :
    Overwritten marks line (blankAfterOptional line) := by
  unfold blankAfterOptional
  dsimp only
  split
  · split
    · rename_i hbehind
      obtain ⟨v, hv⟩ := List.isPrefixOf_iff_prefix.1 hbehind
      have hline : line = line.takeWhile isWhitespace ++
          (line.dropWhile isWhitespace).takeWhile (· ≠ '>') ++ ['>', '>'] ++ v := by
        rw [List.append_assoc, hv, List.append_assoc, List.takeWhile_append_dropWhile,
          List.takeWhile_append_dropWhile]
      rw [← hv]
      refine Eq.mp (congrArg (Overwritten marks · _) hline.symm) ?_
      exact (Overwritten.refl _).append (overwritten_blankOpeners v)
    · exact .refl line
  · exact .refl line

theorem overwritten_blankLine (line : List Char) : Overwritten marks line (blankLine line) :=
  ((overwritten_blankClosers line).trans not_mem_marks (overwritten_blankOpeners _)).trans
    not_mem_marks (overwritten_blankAfterOptional _)

theorem overwritten_stripComments (s : List Char) : Overwritten marks s (stripComments s) := by
  suffices h : ∀ before, Overwritten marks (before.reverse ++ s) (blankLines (linesFrom before s))
    from h []
  induction s with
  | nil =>
    intro before
    rw [List.append_nil]
    exact overwritten_blankLine _
  | cons c cs ih =>
    intro before
    rw [linesFrom]
    split
    · rename_i hc
      subst hc
      rw [blankLines_cons _ (linesFrom_ne_nil _ _)]
      exact (overwritten_blankLine _).append (.keep '\n' (ih []))
    · rw [List.append_cons, ← List.reverse_cons]
      exact ih (c :: before)

end

end Licensing.Text
