import Licensing.Proofs.RoundTrip

namespace Licensing.Template

open Licensing.Text

/-- Where a scanner of a rule is: inside quotes or not, and behind a backslash there. -/
structure QuoteState where
  inQuote : Bool := false
  escaped : Bool := false
  deriving DecidableEq

def QuoteState.next (q : QuoteState) (c : Char) : QuoteState :=
  if q.escaped then ⟨q.inQuote, false⟩
  else if c = '\\' ∧ q.inQuote then ⟨true, true⟩
  else if c = '"' then ⟨!q.inQuote, false⟩
  else ⟨q.inQuote, false⟩

theorem takeBody_cons (q : QuoteState) (c : Char) (s : List Char) :
    takeBody q.inQuote q.escaped (c :: s) =
      if q = {} ∧ c = '>' ∧ s.head? = some '>' then some ([], s.tail)
      else (takeBody (q.next c).inQuote (q.next c).escaped s).map
        fun found => (c :: found.1, found.2) := by
  obtain ⟨inQuote, escaped⟩ := q
  cases escaped with
  | true => simp [takeBody, QuoteState.next]
  | false =>
    by_cases hquote : c = '"'
    · simp [takeBody, QuoteState.next, hquote]
    · cases inQuote with
      | true =>
        by_cases hescape : c = '\\' <;> simp [takeBody, QuoteState.next, hquote, hescape]
      | false => simp [takeBody, QuoteState.next, hquote]

def spansFrom (start : Nat) : List Piece → List (Nat × Nat)
  | [] => []
  | .text content _ :: rest => spansFrom (start + content.length) rest
  | .rule body _ :: rest =>
    (start + 2, start + 2 + body.length) :: spansFrom (start + 2 + body.length + 2) rest

/-- Where the bodies of a template's rules start and stop. -/
def bodySpans (template : List Char) : List (Nat × Nat) :=
  spansFrom 0 (pieces template).1

/-- The bodies of a template's rules, each with what stands in its place in another text. -/
def bodyPairs (template other : List Char) : List (List Char × List Char) :=
  (bodySpans template).map fun span =>
    (template.extract span.1 span.2, other.extract span.1 span.2)

/-- Whether two texts only differ where the bodies of the rules of the first stand. -/
def DifferInBodies (template other : List Char) : Prop :=
  ∀ i < template.length, other[i]? ≠ template[i]? →
    ∃ span ∈ bodySpans template, span.1 ≤ i ∧ i < span.2

instance (template other : List Char) : Decidable (DifferInBodies template other) :=
  inferInstanceAs (Decidable (∀ i < template.length, _))

/-- A rule and what stands behind it. -/
def enclose (body rest : List Char) : List Char :=
  '<' :: '<' :: (body ++ '>' :: '>' :: rest)

/-- A text whose rules all end, with their bodies. -/
inductive Cut : List Char → List (List Char) → Prop where
  | last {content : List Char} (h : beforeRule content = (content, [])) : Cut content []
  | rule {content body rest : List Char} {bodies : List (List Char)}
      (hbefore : beforeRule (content ++ enclose body rest) = (content, enclose body rest))
      (hbody : takeBody false false (body ++ '>' :: '>' :: rest) = some (body, rest))
      (h : Cut rest bodies) : Cut (content ++ enclose body rest) (body :: bodies)

/-- The same fixed text, and bodies of the same lengths, at which the first text is cut. -/
inductive Aligned : List Char → List Char → List (List Char × List Char) → Prop where
  | last {content : List Char} (h : beforeRule content = (content, [])) : Aligned content content []
  | rule {content body body' rest rest' : List Char} {pairs : List (List Char × List Char)}
      (hbefore : beforeRule (content ++ enclose body rest) = (content, enclose body rest))
      (hbody : takeBody false false (body ++ '>' :: '>' :: rest) = some (body, rest))
      (hlength : body'.length = body.length) (h : Aligned rest rest' pairs) :
      Aligned (content ++ enclose body rest) (content ++ enclose body' rest')
        ((body, body') :: pairs)

section

variable {content body rest s : List Char} {bodies : List (List Char)} {cursor : Cursor}

theorem eq_append_of_takeBody {q : QuoteState}
    (h : takeBody q.inQuote q.escaped s = some (body, rest)) : s = body ++ '>' :: '>' :: rest := by
  induction s generalizing q body with
  | nil => cases h
  | cons c cs ih =>
    rw [takeBody_cons] at h
    split at h
    · rename_i hend
      obtain ⟨-, rfl, hnext⟩ := hend
      obtain ⟨ds, rfl⟩ := List.head?_eq_some_iff.1 hnext
      cases h
      rfl
    · obtain ⟨⟨b, r⟩, hb, heq⟩ := Option.map_eq_some_iff.1 h
      cases heq
      rw [ih hb, List.cons_append]

theorem takeBody_append_right {q : QuoteState}
    (h : takeBody q.inQuote q.escaped s = some (body, rest)) (t : List Char) :
    takeBody q.inQuote q.escaped (s ++ t) = some (body, rest ++ t) := by
  induction s generalizing q body with
  | nil => cases h
  | cons c cs ih =>
    rw [takeBody_cons] at h
    rw [List.cons_append, takeBody_cons]
    split at h
    · rename_i hend
      obtain ⟨hstate, hc, hnext⟩ := hend
      obtain ⟨ds, rfl⟩ := List.head?_eq_some_iff.1 hnext
      cases h
      rw [if_pos ⟨hstate, hc, rfl⟩]
      rfl
    · rename_i hgoes
      obtain ⟨⟨b, r⟩, hb, heq⟩ := Option.map_eq_some_iff.1 h
      cases heq
      have hne : cs ≠ [] := by
        rintro rfl
        cases hb
      rw [List.head?_append_of_ne_nil _ hne, if_neg hgoes, ih hb]
      rfl

theorem spansFrom_textPiece (start : Nat) (cursor : Cursor) (content : List Char)
    (found : List Piece) :
    spansFrom start (textPiece cursor content ++ found) =
      spansFrom (start + content.length) found := by
  cases content <;> rfl

theorem le_of_mem_spansFrom {start : Nat} {found : List Piece} {span : Nat × Nat}
    (h : span ∈ spansFrom start found) : start ≤ span.1 := by
  induction found generalizing start with
  | nil => cases h
  | cons piece found ih =>
    cases piece with
    | text content position => exact (Nat.le_add_right _ _).trans (ih h)
    | rule body line =>
      rcases List.mem_cons.1 h with rfl | h
      · exact Nat.le_add_right _ _
      · exact (by omega : start ≤ _).trans (ih h)

theorem piecesFrom_enclose
    (hbefore : beforeRule (content ++ enclose body rest) = (content, enclose body rest))
    (hbody : takeBody false false (body ++ '>' :: '>' :: rest) = some (body, rest))
    (cursor : Cursor) :
    ∃ line cursor', piecesFrom cursor (content ++ enclose body rest) =
      (textPiece cursor content ++ .rule body line :: (piecesFrom cursor' rest).1,
        (piecesFrom cursor' rest).2) :=
  ⟨_, _, piecesFrom_rule hbefore hbody cursor⟩

theorem spansFrom_enclose
    (hbefore : beforeRule (content ++ enclose body rest) = (content, enclose body rest))
    (hbody : takeBody false false (body ++ '>' :: '>' :: rest) = some (body, rest))
    (start : Nat) (cursor : Cursor) :
    ∃ cursor', spansFrom start (piecesFrom cursor (content ++ enclose body rest)).1 =
      (start + content.length + 2, start + content.length + 2 + body.length) ::
        spansFrom (start + content.length + 2 + body.length + 2) (piecesFrom cursor' rest).1 := by
  obtain ⟨line, cursor', hpieces⟩ := piecesFrom_enclose hbefore hbody cursor
  exact ⟨cursor', by rw [hpieces, spansFrom_textPiece, spansFrom]⟩

theorem spansFrom_last (hbefore : beforeRule content = (content, [])) (start : Nat)
    (cursor : Cursor) : spansFrom start (piecesFrom cursor content).1 = [] := by
  rw [piecesFrom_end hbefore, ← List.append_nil (textPiece _ _), spansFrom_textPiece]
  rfl

theorem exists_eq_of_opensRule (h : opensRule s) : ∃ inner, s = '<' :: '<' :: inner := by
  unfold opensRule at h
  split at h
  · exact ⟨_, rfl⟩
  · cases h

/-- Behind fixed text a rule starts, or the text ends. -/
theorem opensRule_of_beforeRule (h : beforeRule s = (content, rest)) :
    rest = [] ∨ opensRule rest := by
  induction s generalizing content with
  | nil =>
    cases h
    exact .inl rfl
  | cons c cs ih =>
    rw [beforeRule] at h
    split at h
    · rename_i hopens
      cases h
      exact .inr hopens
    · cases h
      exact ih rfl

theorem piecesFrom_open {inner : List Char}
    (hbefore : beforeRule s = (content, '<' :: '<' :: inner))
    (hbody : takeBody false false inner = none) (cursor : Cursor) :
    piecesFrom cursor s = (textPiece cursor content, some (cursor.advance content).line) := by
  have hsplit := congrArg Prod.fst hbefore
  have hrest := congrArg Prod.snd hbefore
  rw [piecesFrom]
  split
  · rename_i hnil
    cases hnil.symm.trans hrest
  · rename_i hcons
    obtain ⟨-, rfl⟩ := List.cons.inj (hcons.symm.trans hrest)
    split
    · rw [hsplit]
    · rename_i hsome
      cases hbody.symm.trans hsome

theorem template_induction {P : List Char → Prop}
    (last : ∀ content, beforeRule content = (content, []) → P content)
    («open» : ∀ content inner,
      beforeRule (content ++ '<' :: '<' :: inner) = (content, '<' :: '<' :: inner) →
      takeBody false false inner = none → P (content ++ '<' :: '<' :: inner))
    (rule : ∀ content body rest,
      beforeRule (content ++ enclose body rest) = (content, enclose body rest) →
      takeBody false false (body ++ '>' :: '>' :: rest) = some (body, rest) → P rest →
      P (content ++ enclose body rest)) (s : List Char) : P s := by
  induction hs : s.length using Nat.strong_induction_on generalizing s with
  | _ length ih =>
    subst hs
    have hsplit := beforeRule_append s
    rcases hbefore : beforeRule s with ⟨content, behind⟩
    rw [hbefore] at hsplit
    rcases opensRule_of_beforeRule hbefore with rfl | hopens
    · rw [List.append_nil] at hsplit
      subst hsplit
      exact last content hbefore
    · obtain ⟨inner, rfl⟩ := exists_eq_of_opensRule hopens
      subst hsplit
      cases hbody : takeBody false false inner with
      | none => exact «open» content inner hbefore hbody
      | some found =>
        obtain ⟨body, rest⟩ := found
        obtain rfl := eq_append_of_takeBody (q := {}) hbody
        exact rule content body rest hbefore hbody (ih rest.length (by simp; omega) rest rfl)

theorem exists_cut (h : (piecesFrom cursor s).2 = none) : ∃ bodies, Cut s bodies := by
  induction s using template_induction generalizing cursor with
  | last content hbefore => exact ⟨[], .last hbefore⟩
  | «open» content inner hbefore hbody =>
    rw [piecesFrom_open hbefore hbody] at h
    cases h
  | rule content body rest hbefore hbody ih =>
    obtain ⟨line, cursor', hpieces⟩ := piecesFrom_enclose hbefore hbody cursor
    obtain ⟨bodies, hcut⟩ := ih ((congrArg Prod.snd hpieces).symm.trans h)
    exact ⟨body :: bodies, .rule hbefore hbody hcut⟩

end

/-- Whether two texts agree from a place on, the given spans aside. -/
def AgreeOutside (spans : List (Nat × Nat)) (start : Nat) (t t' : List Char) : Prop :=
  ∀ i, start ≤ i → t'[i]? ≠ t[i]? → ∃ span ∈ spans, span.1 ≤ i ∧ i < span.2

section

variable {t t' u v : List Char} {bodies : List (List Char)} {spans : List (Nat × Nat)}
  {a b p q start : Nat}

theorem AgreeOutside.eq (h : AgreeOutside ((p, q) :: spans) start t t')
    (hspans : ∀ span ∈ spans, b ≤ span.1) {i : Nat} (hstart : start ≤ i) (hi : i < p ∨ q ≤ i)
    (hb : i < b) : t'[i]? = t[i]? := by
  by_contra hne
  obtain ⟨span, hspan, hle, hlt⟩ := h i hstart hne
  rcases List.mem_cons.1 hspan with rfl | hspan
  · exact hi.elim (Nat.not_lt_of_le hle) (Nat.not_le_of_lt hlt)
  · exact Nat.not_le_of_lt hb ((hspans span hspan).trans hle)

theorem AgreeOutside.tail (h : AgreeOutside ((p, q) :: spans) start t t') (hb : q ≤ b)
    (hstart : start ≤ b) : AgreeOutside spans b t t' := by
  intro i hi hne
  obtain ⟨span, hspan, hle, hlt⟩ := h i (hstart.trans hi) hne
  rcases List.mem_cons.1 hspan with rfl | hspan
  · exact absurd (hb.trans hi) (Nat.not_le_of_lt hlt)
  · exact ⟨span, hspan, hle, hlt⟩

theorem drop_of_drop (h : t.drop a = u ++ v) : t.drop (a + u.length) = v := by
  rw [← List.drop_drop, h, List.drop_left]

theorem extract_of_drop (h : t.drop a = u ++ v) : t.extract a (a + u.length) = u := by
  rw [List.extract_eq_take_drop, Nat.add_sub_cancel_left, h, List.take_left]

theorem drop_eq_extract_append (t : List Char) (h : a ≤ b) :
    t.drop a = t.extract a b ++ t.drop b := by
  have hdrop := List.take_append_drop (b - a) (t.drop a)
  rwa [List.drop_drop, Nat.add_sub_cancel' h, ← List.extract_eq_take_drop, eq_comm] at hdrop

theorem drop_eq_append_of_agree (t' : List Char) (h : t.drop a = u ++ v)
    (hagree : ∀ i, a ≤ i → i < a + u.length → t'[i]? = t[i]?) :
    t'.drop a = u ++ t'.drop (a + u.length) := by
  have hextract : t'.extract a (a + u.length) = t.extract a (a + u.length) := by
    refine List.ext_getElem? fun i => ?_
    rw [List.extract_eq_take_drop, List.extract_eq_take_drop, List.getElem?_take,
      List.getElem?_take]
    split
    · rw [List.getElem?_drop, List.getElem?_drop, hagree (a + i) (by omega) (by omega)]
    · rfl
  rw [drop_eq_extract_append t' (Nat.le_add_right a _), hextract, extract_of_drop h]

theorem AgreeOutside.drop_eq_enclose {content body rest : List Char}
    (h : AgreeOutside ((p, q) :: spans) start t t') (hspans : ∀ span ∈ spans, q + 2 ≤ span.1)
    (ht : t.drop start = content ++ enclose body rest) (hp : p = start + content.length + 2)
    (hq : q = p + body.length) :
    t.extract p q = body ∧ t.drop (q + 2) = rest ∧
      t'.drop start = content ++ enclose (t'.extract p q) (t'.drop (q + 2)) := by
  have hopening : t.drop start = (content ++ ['<', '<']) ++ (body ++ '>' :: '>' :: rest) := by
    rw [ht, enclose, List.append_assoc]
    rfl
  have hlength : start + (content ++ ['<', '<']).length = p := by
    rw [hp, List.length_append, ← Nat.add_assoc]
    rfl
  have hinner : t.drop p = body ++ '>' :: '>' :: rest := hlength ▸ drop_of_drop hopening
  have hclosing : t.drop q = '>' :: '>' :: rest := hq ▸ drop_of_drop hinner
  have hbefore : t'.drop start = (content ++ ['<', '<']) ++ t'.drop p := by
    rw [← hlength]
    refine drop_eq_append_of_agree t' hopening fun i hi hlt => ?_
    exact h.eq hspans hi (.inl (hlength ▸ hlt)) (by omega)
  have hbehind : t'.drop q = ['>', '>'] ++ t'.drop (q + 2) :=
    drop_eq_append_of_agree (u := ['>', '>']) t' hclosing fun i hi hlt =>
      h.eq hspans (by omega) (.inr hi) hlt
  refine ⟨hq ▸ extract_of_drop hinner, drop_of_drop (u := ['>', '>']) hclosing, ?_⟩
  rw [hbefore, drop_eq_extract_append t' (by omega : p ≤ q), hbehind]
  simp [enclose]

theorem Cut.aligned {s : List Char} (h : Cut s bodies) (ht : t.drop start = s)
    (hlength : t'.length = t.length) {cursor : Cursor}
    (hagree : AgreeOutside (spansFrom start (piecesFrom cursor s).1) start t t') :
    Aligned s (t'.drop start) ((spansFrom start (piecesFrom cursor s).1).map fun span =>
      (t.extract span.1 span.2, t'.extract span.1 span.2)) := by
  induction h generalizing start cursor with
  | @last content hbefore =>
    rw [spansFrom_last hbefore] at hagree ⊢
    have heq : t'.drop start = content := by
      rw [← ht]
      refine List.ext_getElem? fun i => ?_
      rw [List.getElem?_drop, List.getElem?_drop]
      by_contra hne
      obtain ⟨span, hspan, -⟩ := hagree (start + i) (Nat.le_add_right _ _) hne
      cases hspan
    rw [heq]
    exact .last hbefore
  | @rule content body rest bodies hbefore hbody hcut ih =>
    obtain ⟨cursor', hspans⟩ := spansFrom_enclose hbefore hbody start cursor
    rw [hspans] at hagree ⊢
    obtain ⟨hinner, hrest, hother⟩ :=
      hagree.drop_eq_enclose (fun _ => le_of_mem_spansFrom) ht rfl rfl
    have hlengths := congrArg List.length hinner
    rw [hother, List.map_cons, hinner]
    refine .rule hbefore hbody ?_ (ih hrest (hagree.tail (by omega) (by omega)))
    simpa [List.extract_eq_take_drop, hlength] using hlengths

/-- A text that only differs from a template in the bodies of rules has the same fixed text. -/
theorem DifferInBodies.aligned (h : DifferInBodies t t') (hlength : t'.length = t.length)
    (ht : (pieces t).2 = none) : Aligned t t' (bodyPairs t t') := by
  obtain ⟨bodies, hcut⟩ := exists_cut ht
  have hstart : t.drop 0 = t := List.drop_zero
  refine hcut.aligned hstart hlength fun i _ hne => ?_
  rcases Nat.lt_or_ge i t.length with hlt | hge
  · exact h i hlt hne
  · rw [List.getElem?_eq_none hge, List.getElem?_eq_none (hlength ▸ hge)] at hne
    exact absurd rfl hne

end

end Licensing.Template
