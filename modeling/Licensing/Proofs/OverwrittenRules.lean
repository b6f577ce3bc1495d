import Licensing.Proofs.Overwriting
import Licensing.Proofs.RuleBodies

namespace Licensing.Template

open Licensing.Text Licensing.Unicode

/-- The second body keeps the quotes of the first, those behind a backslash in a value aside. -/
def KeepsQuotes (q : QuoteState) (body body' : List Char) : Prop :=
  ∀ i < body.length, body[i]? = some '"' → body'[i]? ≠ some '"' →
    ((body.take i).foldl QuoteState.next q).escaped

instance (q : QuoteState) (body body' : List Char) : Decidable (KeepsQuotes q body body') :=
  inferInstanceAs (Decidable (∀ i < body.length, _))

/-- A rule with the given body ends behind it. -/
def EndsInPlace (body : List Char) : Prop :=
  takeBody false false (body ++ ['>', '>']) = some (body, [])

instance (body : List Char) : Decidable (EndsInPlace body) :=
  inferInstanceAs (Decidable (_ = _))

section

variable {q : QuoteState} {s s' u u' v w rest : List Char} {c : Char}

theorem KeepsQuotes.of_append (h : KeepsQuotes q (u ++ s) (u' ++ s'))
    (hlength : u'.length = u.length) :
    KeepsQuotes (u.foldl QuoteState.next q) s s' := by
  intro i hi hquote hother
  have hescaped := h (u.length + i) (by simpa using hi)
  rw [List.getElem?_append_right (Nat.le_add_right _ _), Nat.add_sub_cancel_left,
    ← hlength, List.getElem?_append_right (Nat.le_add_right _ _), Nat.add_sub_cancel_left, hlength,
    List.take_length_add_append, List.foldl_append] at hescaped
  exact hescaped hquote hother

theorem takeBody_of_append (h : takeBody q.inQuote q.escaped (u ++ s) = some (u ++ w, rest)) :
    takeBody (u.foldl QuoteState.next q).inQuote (u.foldl QuoteState.next q).escaped s =
      some (w, rest) := by
  induction u generalizing q with
  | nil => exact h
  | cons c cs ih =>
    rw [List.cons_append, takeBody_cons] at h
    split at h
    · cases h
    · obtain ⟨⟨b, r⟩, hb, heq⟩ := Option.map_eq_some_iff.1 h
      cases heq
      exact ih hb

theorem takeBody_append (hu : '>' ∉ u) (q : QuoteState) (s : List Char) :
    takeBody q.inQuote q.escaped (u ++ s) =
      (takeBody (u.foldl QuoteState.next q).inQuote (u.foldl QuoteState.next q).escaped s).map
        fun found => (u ++ found.1, found.2) := by
  induction u generalizing q with
  | nil => simp
  | cons c cs ih =>
    rw [List.mem_cons, not_or] at hu
    rw [List.cons_append, takeBody_cons, if_neg fun h => hu.1 h.2.1.symm, ih hu.2, Option.map_map]
    rfl

theorem foldl_next_mark : ∀ m ∈ marks, ∀ inQuote escaped,
    m.foldl QuoteState.next ⟨inQuote, escaped⟩ =
        (List.replicate m.length ' ').foldl QuoteState.next ⟨inQuote, escaped⟩ ∨
      ∃ i < m.length, m[i]? = some '"' ∧
        ((m.take i).foldl QuoteState.next ⟨inQuote, escaped⟩).escaped = false := by
  decide

theorem KeepsQuotes.foldl_next {m : List Char} (hm : m ∈ marks)
    (h : KeepsQuotes q (m ++ s) (List.replicate m.length ' ' ++ s')) :
    m.foldl QuoteState.next q = (List.replicate m.length ' ').foldl QuoteState.next q := by
  rcases foldl_next_mark m hm q.inQuote q.escaped with heq | ⟨i, hi, hquote, hescaped⟩
  · exact heq
  · have hblank : (List.replicate m.length ' ' ++ s')[i]? ≠ some '"' := by
      rw [List.getElem?_append_left (by simpa using hi)]
      simp [hi]
    have hstays := h i (by simp; omega) (by rwa [List.getElem?_append_left hi]) hblank
    rw [List.take_append_of_le_length hi.le] at hstays
    exact absurd (hescaped.symm.trans hstays) Bool.false_ne_true

theorem takeBody_of_overwritten (h : Overwritten marks s s') (hquotes : KeepsQuotes q s s')
    (hbody : takeBody q.inQuote q.escaped (s ++ '>' :: '>' :: rest) = some (s, rest))
    (rest' : List Char) :
    takeBody q.inQuote q.escaped (s' ++ '>' :: '>' :: rest') = some (s', rest') := by
  induction h generalizing q with
  | nil =>
    rw [List.nil_append, takeBody_cons] at hbody ⊢
    split at hbody
    · rename_i hend
      rw [if_pos ⟨hend.1, rfl, rfl⟩]
      rfl
    · obtain ⟨found, -, heq⟩ := Option.map_eq_some_iff.1 hbody
      cases heq
  | @keep c s s' h ih =>
    have hrest : takeBody (q.next c).inQuote (q.next c).escaped (s' ++ '>' :: '>' :: rest') =
        some (s', rest') :=
      ih (hquotes.of_append (u := [c]) (by rfl)) (takeBody_of_append (u := [c]) hbody)
    rw [List.cons_append, takeBody_cons] at hbody ⊢
    split at hbody
    · cases hbody
    · rename_i hgoes
      have hgoes' : ¬ (q = {} ∧ c = '>' ∧ (s' ++ '>' :: '>' :: rest').head? = some '>') := by
        rintro ⟨hq, hc, hnext⟩
        refine hgoes ⟨hq, hc, ?_⟩
        -- A mark that is seen next was there before.
        cases h with
        | nil => rfl
        | keep d h => exact hnext
        | marker hm h => cases hnext
      rw [if_neg hgoes', hrest]
      rfl
  | @marker c m s s' hm h ih =>
    change KeepsQuotes q ((c :: m) ++ s) (List.replicate (c :: m).length ' ' ++ s') at hquotes
    change takeBody _ _ ((c :: m) ++ s ++ '>' :: '>' :: rest) = some ((c :: m) ++ s, rest) at hbody
    change takeBody _ _ (List.replicate (c :: m).length ' ' ++ s' ++ '>' :: '>' :: rest') =
      some (List.replicate (c :: m).length ' ' ++ s', rest')
    rw [List.append_assoc] at hbody ⊢
    have hrest := ih (hquotes.of_append List.length_replicate) (takeBody_of_append hbody)
    rw [takeBody_append (by simp), ← hquotes.foldl_next hm, hrest]
    rfl

end

def isOpeningChar (c : Char) : Bool :=
  isWhitespace c || (ruleNames.flatten.map lowercaseAscii).contains (lowercaseAscii c)

section

variable {name m p q s s' v z content body body' rest rest' : List Char} {c : Char}
  {pairs : List (List Char × List Char)}

/-- Only one marker starts like the name of a rule, and it is a word with another letter. -/
theorem mark_of_isOpeningChar : ∀ m ∈ marks, m.head?.any isOpeningChar →
    m.all isWord ∧ m.all isOpeningChar = false := by
  decide

theorem prefix_of_prefix_append (h : m <+: p ++ z) (hm : ∀ c ∈ m, isWord c)
    (hz : z.head?.any isWord = false) : m <+: p := by
  rcases List.prefix_or_prefix_of_prefix h (List.prefix_append p z) with hp | ⟨t, rfl⟩
  · exact hp
  · cases t with
    | nil => simp
    | cons c t =>
      obtain ⟨z', rfl⟩ := (List.prefix_append_right_inj p).1 h
      have hc : isWord c := hm c (List.mem_append_right _ List.mem_cons_self)
      rw [List.cons_append, List.head?_cons, Option.any_some, hc] at hz
      cases hz

theorem exists_eq_append_of_isOpeningChar (h : Overwritten marks (p ++ z) s')
    (hp : ∀ c ∈ p, isOpeningChar c) (hz : z.head?.any isWord = false) :
    ∃ z', s' = p ++ z' ∧ Overwritten marks z z' := by
  refine h.exists_eq_append fun q hq hne m hm hcons hprefix => ?_
  obtain ⟨d, q, rfl⟩ := List.exists_cons_of_ne_nil hne
  obtain ⟨e, m, rfl⟩ := List.exists_cons_of_ne_nil hcons
  obtain ⟨rfl, -⟩ := List.cons_prefix_cons.1 hprefix
  obtain ⟨hword, hother⟩ := mark_of_isOpeningChar _ hm (hp e (hq.subset List.mem_cons_self))
  have hmark := prefix_of_prefix_append hprefix (List.all_eq_true.1 hword) hz
  have hopening : (e :: m).all isOpeningChar :=
    List.all_eq_true.2 fun c hc => hp c (hq.subset (hmark.subset hc))
  exact Bool.false_ne_true (hother.symm.trans hopening)

theorem isWhitespace_of_lowercaseAscii (h : isAsciiLetter (lowercaseAscii c)) :
    isWhitespace c = false := by
  rw [lowercaseAscii] at h
  split at h
  · rename_i hupper
    refine isWhitespace_of_isAsciiLetter ?_
    rw [isAsciiLetter, Bool.or_eq_true, Bool.and_eq_true, Bool.and_eq_true]
    exact .inr ⟨decide_eq_true hupper.1, decide_eq_true hupper.2⟩
  · exact isWhitespace_of_isAsciiLetter h

theorem opensRule_iff (s : List Char) : opensRule ('<' :: '<' :: s) ↔
    ∃ name ∈ ruleNames, ∃ w n z, s = w ++ n ++ z ∧ isBlank w ∧
      n.map lowercaseAscii = name.map lowercaseAscii ∧ z.head?.any isWord = false := by
  rw [opensRule_cons_cons, List.any_eq_true]
  refine exists_congr fun name => and_congr_right fun hname => ?_
  rw [startsWithName, Bool.and_eq_true, eqIgnoringAsciiCase, beq_iff_eq, Bool.not_eq_true']
  constructor
  · rintro ⟨hn, hz⟩
    refine ⟨s.takeWhile isWhitespace, _, _, ?_, List.all_takeWhile, hn, hz⟩
    rw [List.append_assoc, List.take_append_drop, List.takeWhile_append_dropWhile]
  · rintro ⟨w, n, z, rfl, hw, hn, hz⟩
    have hlength : n.length = name.length := by simpa using congrArg List.length hn
    have hletters : ∀ name ∈ ruleNames,
        name ≠ [] ∧ (name.map lowercaseAscii).all isAsciiLetter := by
      decide
    have hdrop : (w ++ n ++ z).dropWhile isWhitespace = n ++ z := by
      rw [List.append_assoc, List.dropWhile_append_of_pos (isBlank_iff.1 hw)]
      cases n with
      | nil => exact absurd (List.length_eq_zero_iff.1 hlength.symm) (hletters name hname).1
      | cons c cs =>
        refine List.dropWhile_cons_of_neg (Bool.eq_false_iff.1 (isWhitespace_of_lowercaseAscii ?_))
        exact List.all_eq_true.1 (hletters name hname).2 _ (hn ▸ List.mem_cons_self)
    rw [hdrop, ← hlength, List.take_left, List.drop_left]
    exact ⟨hn, hz⟩

theorem opensRule_of_overwritten (h : Overwritten marks s s')
    (hopens : opensRule ('<' :: '<' :: s)) : opensRule ('<' :: '<' :: s') := by
  rw [opensRule_iff] at hopens ⊢
  obtain ⟨name, hname, w, n, z, rfl, hw, hn, hz⟩ := hopens
  have hopening : ∀ c ∈ w ++ n, isOpeningChar c := by
    intro c hc
    rw [isOpeningChar, Bool.or_eq_true, List.contains_iff_mem]
    refine (List.mem_append.1 hc).imp (isBlank_iff.1 hw c) fun hmem => ?_
    obtain ⟨d, hd, heq⟩ := List.mem_map.1 (hn ▸ List.mem_map_of_mem (f := lowercaseAscii) hmem)
    rw [← heq]
    exact List.mem_map_of_mem (List.mem_flatten.2 ⟨name, hname, hd⟩)
  obtain ⟨z', rfl, hbehind⟩ := exists_eq_append_of_isOpeningChar h hopening hz
  refine ⟨name, hname, w, n, z', rfl, hw, hn, ?_⟩
  have hblank : isWord ' ' = false := by decide
  cases hbehind with
  | nil => rfl
  | keep c _ => exact hz
  | marker _ _ => exact hblank

theorem AtRule.hasNoRule (h : AtRule s) (hbefore : beforeRule (content ++ s) = (content, s)) :
    HasNoRule content := by
  induction content with
  | nil =>
    intro rest hrest
    obtain rfl := List.suffix_nil.1 hrest
    rfl
  | cons c cs ih =>
    rw [List.cons_append, beforeRule, ← List.cons_append, h.opensRule_append] at hbefore
    split at hbefore
    · cases hbefore
    · rename_i hopens
      intro rest hrest
      rcases List.suffix_cons_iff.1 hrest with rfl | hrest
      · exact Bool.eq_false_iff.2 hopens
      · exact ih (by simpa [Prod.ext_iff] using hbefore) rest hrest

theorem overwritten_enclose (hlength : body'.length = body.length)
    (h : Overwritten marks (content ++ enclose body rest) (content ++ enclose body' rest')) :
    Overwritten marks (body ++ '>' :: '>' :: rest) (body' ++ '>' :: '>' :: rest') ∧
      Overwritten marks body body' ∧ Overwritten marks rest rest' := by
  obtain ⟨u, v, hopening, hu, hv⟩ := h.exists_eq_append_cons (by decide)
  obtain ⟨rfl, hrule⟩ := List.append_inj hopening hu.length_eq
  obtain rfl := (List.cons.inj hrule).2
  have hinner := hv.of_cons (by decide)
  obtain ⟨u, v, hclosing, hbody, hv⟩ := hinner.exists_eq_append_cons (by decide)
  obtain ⟨rfl, hend⟩ := List.append_inj hclosing (hlength.symm.trans hbody.length_eq)
  obtain rfl := (List.cons.inj hend).2
  exact ⟨hinner, hbody, hv.of_cons (by decide)⟩

theorem KeepsQuotes.endsInPlace (hquotes : KeepsQuotes {} body body')
    (h : Overwritten marks body body')
    (hbody : takeBody false false (body ++ '>' :: '>' :: rest) = some (body, rest)) :
    EndsInPlace body' :=
  takeBody_of_overwritten h hquotes hbody []

theorem enclose_of_overwritten (hlength : body'.length = body.length)
    (h : Overwritten marks (content ++ enclose body rest) (content ++ enclose body' rest'))
    (hbefore : beforeRule (content ++ enclose body rest) = (content, enclose body rest))
    (hbody : takeBody false false (body ++ '>' :: '>' :: rest) = some (body, rest))
    (hends : EndsInPlace body') :
    beforeRule (content ++ enclose body' rest') = (content, enclose body' rest') ∧
      takeBody false false (body' ++ '>' :: '>' :: rest') = some (body', rest') := by
  have hopens : opensRule (enclose body rest) :=
    (opensRule_of_beforeRule hbefore).resolve_left (List.cons_ne_nil _ _)
  have hrules : HasNoRule content := AtRule.hasNoRule (.rule hopens hbody) hbefore
  have hbody' : takeBody false false (body' ++ '>' :: '>' :: rest') = some (body', rest') := by
    have hbehind := takeBody_append_right (q := {}) hends rest'
    rwa [List.append_assoc] at hbehind
  have hopens' := opensRule_of_overwritten (overwritten_enclose hlength h).1 hopens
  exact ⟨AtRule.beforeRule_append (.rule hopens' hbody') hrules, hbody'⟩

theorem Aligned.cut (h : Aligned s s' pairs) : Cut s (pairs.map (·.1)) := by
  induction h with
  | last hbefore => exact .last hbefore
  | rule hbefore hbody hlength h ih => exact .rule hbefore hbody ih

theorem Aligned.cut_of_overwritten (h : Aligned s s' pairs) (hover : Overwritten marks s s')
    (hends : ∀ pair ∈ pairs, EndsInPlace pair.2) : Cut s' (pairs.map (·.2)) := by
  induction h with
  | last hbefore => exact .last hbefore
  | rule hbefore hbody hlength h ih =>
    obtain ⟨hpair, hpairs⟩ := List.forall_mem_cons.1 hends
    obtain ⟨hbefore', hbody'⟩ := enclose_of_overwritten hlength hover hbefore hbody hpair
    exact .rule hbefore' hbody' (ih (overwritten_enclose hlength hover).2.2 hpairs)

theorem Aligned.endsInPlace (h : Aligned s s' pairs) (hover : Overwritten marks s s') :
    ∀ pair ∈ pairs, KeepsQuotes {} pair.1 pair.2 → EndsInPlace pair.2 := by
  induction h with
  | last hbefore => simp
  | rule hbefore hbody hlength h ih =>
    obtain ⟨-, hpair, hrest⟩ := overwritten_enclose hlength hover
    exact List.forall_mem_cons.2 ⟨fun hquotes => hquotes.endsInPlace hpair hbody, ih hrest⟩

end

end Licensing.Template
