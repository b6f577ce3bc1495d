import Licensing.Proofs.EventPlaces
import Licensing.Proofs.OverwrittenRules

namespace Licensing.Template

open Licensing.Text

section

variable {q : QuoteState} {field u v s body rest : List Char} {fields : List (List Char)}
  {line : Nat}

/-- The reader of fields has the same state as the search for the end of the rule. -/
theorem fieldsFrom_cons (q : QuoteState) (field : List Char) (c : Char) (s : List Char) :
    fieldsFrom field q.inQuote q.escaped (c :: s) =
      if q = {} ∧ c = ';' then (fieldsFrom [] false false s).map (field.reverse :: ·)
      else fieldsFrom (c :: field) (q.next c).inQuote (q.next c).escaped s := by
  obtain ⟨inQuote, escaped⟩ := q
  cases escaped with
  | true => simp [fieldsFrom, QuoteState.next]
  | false =>
    by_cases hquote : c = '"'
    · simp [fieldsFrom, QuoteState.next, hquote]
    · cases inQuote with
      | true => by_cases hescape : c = '\\' <;> simp [fieldsFrom, QuoteState.next, hquote, hescape]
      | false => simp [fieldsFrom, QuoteState.next, hquote]

theorem exists_fieldsFrom_append (q : QuoteState) (field u : List Char) : ∃ earlier current,
    [';'].intercalate (earlier ++ [current.reverse]) = field.reverse ++ u ∧
      ∀ s, fieldsFrom field q.inQuote q.escaped (u ++ s) =
        (fieldsFrom current (u.foldl QuoteState.next q).inQuote
          (u.foldl QuoteState.next q).escaped s).map (earlier ++ ·) := by
  induction u generalizing q field with
  | nil => exact ⟨[], field, by simp, by simp⟩
  | cons c cs ih =>
    by_cases hend : q = {} ∧ c = ';'
    · obtain ⟨rfl, rfl⟩ := hend
      obtain ⟨earlier, current, hjoin, hread⟩ := ih {} []
      refine ⟨field.reverse :: earlier, current, ?_, fun s => ?_⟩
      · rw [List.cons_append, List.intercalate_cons_of_ne_nil (by simp), hjoin]
        simp
      · rw [List.cons_append, fieldsFrom_cons, if_pos ⟨rfl, rfl⟩]
        change ((fieldsFrom [] (QuoteState.inQuote {}) (QuoteState.escaped {}) (cs ++ s)).map _) = _
        rw [hread, Option.map_map]
        rfl
    · obtain ⟨earlier, current, hjoin, hread⟩ := ih (q.next c) (c :: field)
      refine ⟨earlier, current, by simpa using hjoin, fun s => ?_⟩
      rw [List.cons_append, fieldsFrom_cons, if_neg hend, hread, List.foldl_cons]

theorem exists_cons_of_fieldsFrom (h : fieldsFrom field q.inQuote q.escaped s = some fields) :
    ∃ more later, fields = (field.reverse ++ more) :: later := by
  induction s generalizing q field fields with
  | nil =>
    rw [fieldsFrom] at h
    split at h
    · cases h
    · cases h
      exact ⟨[], [], by simp⟩
  | cons c cs ih =>
    rw [fieldsFrom_cons] at h
    split at h
    · obtain ⟨later, -, rfl⟩ := Option.map_eq_some_iff.1 h
      exact ⟨[], later, by simp⟩
    · obtain ⟨more, later, rfl⟩ := ih h
      exact ⟨c :: more, later, by simp⟩

theorem exists_fields?_append (u : List Char) : ∃ earlier current,
    [';'].intercalate (earlier ++ [current.reverse]) = u ∧
      ∀ s, fields? (u ++ s) =
        (fieldsFrom current (u.foldl QuoteState.next {}).inQuote
          (u.foldl QuoteState.next {}).escaped s).map (earlier ++ ·) :=
  exists_fieldsFrom_append {} [] u

theorem exists_fields?_eq (u : List Char) : ∃ fields, [';'].intercalate fields = u ∧
    fields? u = if (u.foldl QuoteState.next {}).inQuote then none else some fields := by
  obtain ⟨earlier, current, hjoin, hread⟩ := exists_fields?_append u
  have hall := hread []
  rw [List.append_nil, fieldsFrom] at hall
  refine ⟨earlier ++ [current.reverse], hjoin, ?_⟩
  rw [hall]
  split <;> rfl

theorem intercalate_of_fields? (h : fields? u = some fields) : [';'].intercalate fields = u := by
  obtain ⟨found, hjoin, hfound⟩ := exists_fields?_eq u
  rw [h] at hfound
  split at hfound
  · cases hfound
  · obtain rfl := Option.some.inj hfound
    exact hjoin

theorem fields?_eq_none_iff : fields? u = none ↔ (u.foldl QuoteState.next {}).inQuote := by
  obtain ⟨found, -, hfound⟩ := exists_fields?_eq u
  rw [hfound]
  split <;> simp [*]

theorem foldl_next_eq (hq : q.escaped → q.inQuote)
    (h : (u.foldl QuoteState.next q).inQuote = false) : u.foldl QuoteState.next q = {} := by
  induction u generalizing q with
  | nil =>
    obtain ⟨inQuote, escaped⟩ := q
    obtain rfl : inQuote = false := h
    cases escaped with
    | true => cases hq rfl
    | false => rfl
  | cons c cs ih =>
    refine ih (fun hescaped => ?_) h
    rw [QuoteState.next] at hescaped ⊢
    split at hescaped
    · cases hescaped
    · split at hescaped
      · rename_i hfirst hsecond
        rw [if_neg hfirst, if_pos hsecond]
      · split at hescaped <;> cases hescaped

theorem fields?_eq_none_iff_ne : fields? u = none ↔ u.foldl QuoteState.next {} ≠ {} := by
  rw [fields?_eq_none_iff]
  constructor
  · intro h heq
    rw [heq] at h
    cases h
  · intro h
    by_contra hout
    exact h (foldl_next_eq (by simp) (Bool.eq_false_iff.2 hout))

theorem fields?_append_of_some {earlier : List (List Char)} (h : fields? u = some earlier)
    (v : List Char) : fields? (u ++ ';' :: v) = (fields? v).map (earlier ++ ·) := by
  have hout : u.foldl QuoteState.next {} = {} := by
    by_contra hne
    rw [fields?_eq_none_iff_ne.2 hne] at h
    cases h
  obtain ⟨before, current, -, hread⟩ := exists_fields?_append u
  rw [hout] at hread
  have hall := hread []
  rw [List.append_nil, h] at hall
  obtain rfl : earlier = before ++ [current.reverse] := by simpa [fieldsFrom] using hall
  rw [hread, fieldsFrom_cons, if_pos ⟨rfl, rfl⟩, Option.map_map]
  simp [fields?, Function.comp_def]

theorem exists_field_of_none (h : fields? u = none)
    (hfields : fields? (u ++ ';' :: v) = some fields) :
    ∃ earlier x y later, fields = earlier ++ (x ++ ';' :: y) :: later ∧
      [';'].intercalate (earlier ++ [x]) = u := by
  obtain ⟨earlier, current, hjoin, hread⟩ := exists_fields?_append u
  rw [hread, fieldsFrom_cons, if_neg fun hend => fields?_eq_none_iff_ne.1 h hend.1] at hfields
  obtain ⟨found, hfound, rfl⟩ := Option.map_eq_some_iff.1 hfields
  obtain ⟨more, later, rfl⟩ := exists_cons_of_fieldsFrom hfound
  exact ⟨earlier, current.reverse, more, later, by simp, hjoin⟩

theorem exists_fields?_of_takeBody (h : takeBody false false s = some (body, rest)) :
    ∃ fields, fields? body = some fields := by
  obtain ⟨hout, -⟩ := takeBody_spec (q := {}) h
  cases hfields : fields? body with
  | some fields => exact ⟨fields, rfl⟩
  | none => exact absurd hout (fields?_eq_none_iff_ne.1 hfields)

theorem unquote_ne_openQuote (value : List Char) : unquote value ≠ .error .openQuote := by
  unfold unquote
  split
  · split <;> simp
  · simp

theorem parseField_ne_openQuote (field : List Char) : parseField field ≠ .error .openQuote := by
  unfold parseField
  split
  · simp
  · rename_i value _
    have hvalue := unquote_ne_openQuote (trim value)
    cases hunquote : unquote (trim value) with
    | error fault =>
      rw [hunquote] at hvalue
      simpa [Except.map] using hvalue
    | ok value => simp [Except.map]

theorem parseFields_ne_openQuote (fields : List (List Char)) :
    parseFields fields ≠ .error .openQuote := by
  induction fields with
  | nil => simp [parseFields]
  | cons field fields ih =>
    rw [parseFields]
    split
    · exact ih
    · have hfirst := parseField_ne_openQuote (trim field)
      cases hfield : parseField (trim field) with
      | error fault =>
        rw [hfield] at hfirst
        simpa [bind, Except.bind] using hfirst
      | ok pair =>
        cases hfields : parseFields fields with
        | error fault =>
          rw [hfields] at ih
          simpa [bind, Except.bind] using ih
        | ok pairs => simp [bind, Except.bind, pure, Except.pure]

theorem build_ne_openQuote [Engine] (name defaultText : List Char)
    (pattern? sample : Option (List Char)) (line line' : Nat) :
    (VariableRule.build name defaultText pattern? line sample).map Rule.variable ≠
      .error (.malformedRule .openQuote line') := by
  simp only [VariableRule.build]
  split
  · simp [Except.map]
  · split <;> simp [Except.map]

/-- Of a body with fields, no quote is said to be open. -/
theorem parse_ne_openQuote [Engine] (h : fields? body = some fields) (line line' : Nat) :
    Rule.parse body line ≠ .error (.malformedRule .openQuote line') := by
  rw [Rule.parse, h]
  dsimp only
  have hfaults := parseFields_ne_openQuote fields.tail
  cases hparse : parseFields fields.tail with
  | error fault =>
    intro heq
    cases heq
    exact hfaults hparse
  | ok attributes =>
    dsimp only
    split
    · split
      · simp
      · exact build_ne_openQuote _ _ _ _ _ _
    · split
      · simp
      · split <;> simp

theorem exists_fields?_of_mem_piecesFrom {cursor : Cursor}
    (h : .rule body line ∈ (piecesFrom cursor s).1) : ∃ fields, fields? body = some fields := by
  have htext {cursor : Cursor} {content : List Char} :
      Piece.rule body line ∉ textPiece cursor content := by
    unfold textPiece
    split <;> simp
  induction s using template_induction generalizing cursor with
  | last content hbefore =>
    rw [piecesFrom_end hbefore] at h
    exact absurd h htext
  | «open» content inner hbefore hbody =>
    rw [piecesFrom_open hbefore hbody] at h
    exact absurd h htext
  | rule content body' rest hbefore hbody ih =>
    obtain ⟨line', cursor', hpieces⟩ := piecesFrom_enclose hbefore hbody cursor
    rw [hpieces] at h
    rcases List.mem_append.1 h with h | h
    · exact absurd h htext
    · rcases List.mem_cons.1 h with heq | h
      · cases heq
        exact exists_fields?_of_takeBody hbody
      · exact ih h

theorem error_readPieces_ne_openQuote [Engine] {openRules : List OptionalRule} {found : List Piece}
    {tail : Option Nat}
    (h : ∀ body line, .rule body line ∈ found → ∃ fields, fields? body = some fields) :
    (readPieces openRules found tail).error ≠ some (.malformedRule .openQuote line) := by
  induction found generalizing openRules with
  | nil => cases tail <;> cases openRules <;> simp [readPieces, Reading.fail]
  | cons piece found ih =>
    have hrest : ∀ body line, .rule body line ∈ found → ∃ fields, fields? body = some fields :=
      fun body line hmem => h body line (List.mem_cons_of_mem _ hmem)
    cases piece with
    | text content position => exact ih hrest
    | rule body line' =>
      obtain ⟨fields, hfields⟩ := h body line' List.mem_cons_self
      have hparse := parse_ne_openQuote hfields line' line
      simp only [readPieces]
      cases hrule : Rule.parse body line' with
      | error e =>
        rw [hrule] at hparse
        simpa [Reading.fail] using hparse
      | ok rule =>
        cases rule with
        | «variable» rule => exact ih hrest
        | beginOptional rule => exact ih hrest
        | endOptional =>
          cases openRules with
          | nil => simp [Reading.fail]
          | cons rule outer => exact ih hrest

end

/-- The search for the end of a rule and the reader of its fields agree at every place. -/
theorem fields_of_rules [Engine] (template : List Char) :
    (∀ before s body rest, template = before ++ '<' :: '<' :: s →
      takeBody false false s = some (body, rest) →
        ∃ fields, fields? body = some fields ∧ [';'].intercalate fields = body ∧
          (∀ u v, body ++ ['>'] = u ++ '>' :: '>' :: v → fields? u = none) ∧
          (∀ u v, body = u ++ ';' :: v →
            (fields? u = none ∧ ∃ earlier x y later,
              fields = earlier ++ (x ++ ';' :: y) :: later ∧
                [';'].intercalate (earlier ++ [x]) = u) ∨
            ∃ earlier later, fields? u = some earlier ∧ fields? v = some later ∧
              fields = earlier ++ later) ∧
          ∀ u v, body = u ++ v → ∃ inQuote escaped field earlier,
            takeBody inQuote escaped (v ++ '>' :: '>' :: rest) = some (v, rest) ∧
              ∀ w, fields? (u ++ w) =
                (fieldsFrom field inQuote escaped w).map (earlier ++ ·)) ∧
      ∀ line, (read template).error ≠ some (.malformedRule .openQuote line) := by
  refine ⟨fun before s body rest _ hbody => ?_, fun line => ?_⟩
  · obtain ⟨-, hfirst⟩ := takeBody_spec (q := {}) hbody
    obtain rfl := eq_append_of_takeBody (q := {}) hbody
    obtain ⟨fields, hfields⟩ := exists_fields?_of_takeBody hbody
    refine ⟨fields, hfields, intercalate_of_fields? hfields, ?_, ?_, ?_⟩
    · intro u v hmarks
      exact fields?_eq_none_iff_ne.2 (hfirst u v hmarks)
    · rintro u v rfl
      cases hu : fields? u with
      | none => exact .inl ⟨rfl, exists_field_of_none hu hfields⟩
      | some earlier =>
        rw [fields?_append_of_some hu] at hfields
        obtain ⟨later, hlater, rfl⟩ := Option.map_eq_some_iff.1 hfields
        exact .inr ⟨earlier, later, rfl, hlater, rfl⟩
    · rintro u v rfl
      obtain ⟨earlier, field, -, hread⟩ := exists_fields?_append u
      rw [List.append_assoc] at hbody
      exact ⟨_, _, field, earlier, takeBody_of_append (q := {}) hbody, hread⟩
  · exact error_readPieces_ne_openQuote fun body line h => exists_fields?_of_mem_piecesFrom h

theorem fields_of_rules_quoted_marks :
    let body := "var;name=\"x;\\\">>y\"".toList
    let template := 'a' :: '<' :: '<' :: (body ++ ">> b".toList)
    takeBody false false (body ++ ">> b".toList) = some (body, " b".toList) ∧
      fields? body = some ["var".toList, "name=\"x;\\\">>y\"".toList] ∧
      fields? "var;name=\"x;\\\"".toList = none ∧
      ∀ line, (read template).error ≠ some (.malformedRule .openQuote line) := by
  intro body template
  have hbody : takeBody false false (body ++ ">> b".toList) = some (body, " b".toList) := by
    decide +kernel
  have hsplit : fields? body = some ["var".toList, "name=\"x;\\\">>y\"".toList] := by
    decide +kernel
  obtain ⟨hrules, herror⟩ := fields_of_rules template
  obtain ⟨fields, -, -, hmarks, -⟩ := hrules ['a'] _ body _ rfl hbody
  have hquoted : fields? "var;name=\"x;\\\"".toList = none :=
    hmarks _ "y\">".toList (by decide +kernel)
  exact ⟨hbody, hsplit, hquoted, herror⟩

end Licensing.Template
