import Licensing.Proofs.Fragments
import Licensing.Proofs.StrippedRules

namespace Licensing.Template

open Licensing.Text Licensing.Unicode

section

variable {body inner rest s t : List Char} {found : List Piece} {tail : Option Nat}
  {rule : VariableRule}

theorem dropWhile_append_of_not_isBlank (h : isBlank s = false) (t : List Char) :
    (s ++ t).dropWhile isWhitespace = s.dropWhile isWhitespace ++ t := by
  rw [List.dropWhile_append, if_neg]
  rw [List.isEmpty_iff, List.dropWhile_eq_nil_iff, ← isBlank_iff, h]
  exact Bool.false_ne_true

theorem opensRule_append_of_not_isBlank (hinner : isBlank inner = false)
    (ht : ∀ c ∈ t.head?, isWord c = false) :
    opensRule ('<' :: '<' :: (inner ++ t)) = opensRule ('<' :: '<' :: inner) := by
  rw [opensRule_cons_cons, opensRule_cons_cons, dropWhile_append_of_not_isBlank hinner]
  exact any_startsWithName_append ht

theorem opensRule_append_blank (s : List Char) : opensRule (s ++ [' ']) = opensRule s := by
  have hword : isWord ' ' = false := by decide
  by_cases hmark : ['<', '<'] <+: s
  · obtain ⟨inner, rfl⟩ := hmark
    cases hinner : isBlank inner with
    | true =>
      have hblank : isBlank (inner ++ [' ']) := isBlank_append.2 ⟨hinner, rfl⟩
      simp only [List.cons_append, List.nil_append, opensRule_cons_cons,
        List.dropWhile_eq_nil_iff.2 (isBlank_iff.1 hblank),
        List.dropWhile_eq_nil_iff.2 (isBlank_iff.1 hinner)]
    | false =>
      rw [List.append_assoc]
      exact opensRule_append_of_not_isBlank hinner (by simp [hword])
  · have hmark' : ¬ ['<', '<'] <+: s ++ [' '] := by
      rw [List.prefix_concat_iff, not_or]
      refine ⟨fun heq => ?_, hmark⟩
      have hlast := congrArg List.getLast? heq
      simp at hlast
    rw [opensRule_eq_false hmark, opensRule_eq_false hmark']

theorem HasNoRule.append_blank (h : HasNoRule s) : HasNoRule (s ++ [' ']) := by
  intro rest hrest
  rcases List.suffix_concat_iff.1 hrest with rfl | ⟨r, rfl, hr⟩
  · rfl
  · rw [opensRule_append_blank]
    exact h r hr

theorem HasNoRule.blank_cons (h : HasNoRule s) : HasNoRule (' ' :: s) := by
  intro rest hrest
  rcases List.suffix_cons_iff.1 hrest with rfl | hrest
  · rfl
  · exact h rest hrest

/-- The body of what is read without error from some pieces. -/
def bodyOfPieces [Engine] (found : List Piece) (tail : Option Nat) : Body :=
  (Body.rests (readPieces [] found tail).events).headD .done

theorem exists_rests_of_readPieces [Engine] {openRules : List OptionalRule}
    (herror : (readPieces openRules found tail).error = none) :
    ∃ body outer, Body.rests (readPieces openRules found tail).events = body :: outer ∧
      outer.length = openRules.length := by
  obtain ⟨body, outer, hrests, hlength, -⟩ := (closes_readPieces herror).fragments
  exact ⟨body, outer, hrests, hlength⟩

theorem bodyOfPieces_text [Engine] {content : List Char} {position : Position}
    (herror : (readPieces [] (.text content position :: found) tail).error = none) :
    bodyOfPieces (.text content position :: found) tail =
      .text content (bodyOfPieces found tail) := by
  have hfound : (readPieces [] found tail).error = none := herror
  obtain ⟨body, outer, hrests, -⟩ := exists_rests_of_readPieces hfound
  simp [bodyOfPieces, readPieces, Reading.cons, Body.rests, hrests]

theorem bodyOfPieces_rule [Engine] {line : Nat}
    (herror : (readPieces [] (.rule inner line :: found) tail).error = none) :
    (∃ rule, Rule.parse inner line = .ok (.variable rule) ∧
      (readPieces [] found tail).error = none ∧
      bodyOfPieces (.rule inner line :: found) tail = .variable rule (bodyOfPieces found tail)) ∨
    ∃ region inside behind,
      bodyOfPieces (.rule inner line :: found) tail = .optional region inside behind := by
  simp only [bodyOfPieces, readPieces] at herror ⊢
  cases hparse : Rule.parse inner line with
  | error e =>
    rw [hparse] at herror
    cases herror
  | ok rule =>
    rw [hparse] at herror
    cases rule with
    | «variable» rule =>
      have hfound : (readPieces [] found tail).error = none := herror
      obtain ⟨body, outer, hrests, -⟩ := exists_rests_of_readPieces hfound
      exact .inl ⟨rule, rfl, hfound, by simp [Reading.cons, Body.rests, hrests]⟩
    | beginOptional region =>
      have hfound : (readPieces [region] found tail).error = none := herror
      obtain ⟨inside, outer, hrests, hlength⟩ := exists_rests_of_readPieces hfound
      obtain ⟨behind, outer, rfl⟩ := List.exists_cons_of_length_eq_add_one hlength
      exact .inr ⟨region, inside, behind, by simp [Reading.cons, Body.rests, hrests]⟩
    | endOptional => cases herror

theorem eq_nil_of_bodyOfPieces [Engine] (herror : (readPieces [] found tail).error = none)
    (h : bodyOfPieces found tail = .done) : found = [] ∧ tail = none := by
  cases found with
  | nil =>
    cases tail with
    | none => exact ⟨rfl, rfl⟩
    | some line => cases herror
  | cons piece later =>
    cases piece with
    | text content position =>
      rw [bodyOfPieces_text herror] at h
      cases h
    | rule inner line =>
      rcases bodyOfPieces_rule herror with ⟨rule, -, -, hbody⟩ | ⟨region, inside, behind, hbody⟩ <;>
        cases hbody.symm.trans h

theorem exists_rule_of_bodyOfPieces [Engine] (herror : (readPieces [] found tail).error = none)
    (h : bodyOfPieces found tail = .variable rule .done) :
    ∃ inner line, found = [.rule inner line] ∧ tail = none ∧
      Rule.parse inner line = .ok (.variable rule) := by
  cases found with
  | nil =>
    cases tail with
    | none => cases h
    | some line => cases herror
  | cons piece later =>
    cases piece with
    | text content position =>
      rw [bodyOfPieces_text herror] at h
      cases h
    | rule inner line =>
      rcases bodyOfPieces_rule herror with
        ⟨rule, hparse, hlater, hbody⟩ | ⟨region, inside, behind, hbody⟩
      · obtain ⟨rfl, hdone⟩ := Body.variable.inj (hbody.symm.trans h)
        obtain ⟨rfl, htail⟩ := eq_nil_of_bodyOfPieces hlater hdone
        exact ⟨inner, line, rfl, htail, hparse⟩
      · cases hbody.symm.trans h

theorem textPiece_eq_nil {cursor : Cursor} (h : textPiece cursor s = []) : s = [] := by
  cases s with
  | nil => rfl
  | cons c cs => cases h

theorem eq_nil_of_piecesFrom {cursor : Cursor} (h : piecesFrom cursor s = ([], none)) :
    s = [] := by
  obtain ⟨bodies, hcut⟩ := exists_cut (congrArg Prod.snd h)
  cases hcut with
  | last hbefore =>
    rw [piecesFrom_end hbefore] at h
    exact textPiece_eq_nil (congrArg Prod.fst h)
  | rule hbefore hbody =>
    obtain ⟨line, cursor', hpieces⟩ := piecesFrom_enclose hbefore hbody cursor
    have hnil := congrArg Prod.fst (hpieces.symm.trans h)
    simp at hnil

theorem eq_enclose_of_piecesFrom {cursor : Cursor} {line : Nat}
    (h : piecesFrom cursor s = ([.rule body line], none)) :
    s = enclose body [] ∧ opensRule s ∧
      takeBody false false (body ++ ['>', '>']) = some (body, []) := by
  obtain ⟨bodies, hcut⟩ := exists_cut (congrArg Prod.snd h)
  cases hcut with
  | last hbefore =>
    rw [piecesFrom_end hbefore] at h
    have hpiece : textPiece cursor s = [.rule body line] := congrArg Prod.fst h
    rw [textPiece] at hpiece
    split at hpiece <;> simp at hpiece
  | @rule content found rest _ hbefore hbody =>
    obtain ⟨line', cursor', hpieces⟩ := piecesFrom_enclose hbefore hbody cursor
    obtain ⟨hfound, htail⟩ := Prod.mk.inj (hpieces.symm.trans h)
    obtain ⟨hcontent, hrule, hrest⟩ : textPiece cursor content = [] ∧ found = body ∧
        (piecesFrom cursor' rest).1 = [] := by
      cases hcontent : textPiece cursor content with
      | nil =>
        rw [hcontent] at hfound
        simp only [List.nil_append, List.cons.injEq, Piece.rule.injEq] at hfound
        exact ⟨rfl, hfound.1.1, hfound.2⟩
      | cons piece later => simp [hcontent] at hfound
    obtain rfl := textPiece_eq_nil hcontent
    obtain rfl := eq_nil_of_piecesFrom (Prod.ext hrest htail)
    subst hrule
    refine ⟨rfl, ?_, hbody⟩
    exact (opensRule_of_beforeRule hbefore).resolve_left (by simp [enclose])

theorem exists_enclose_of_parse [Engine] (h : Body.parse s = .ok (.variable rule .done)) :
    ∃ body line, s = enclose body [] ∧ opensRule s ∧
      takeBody false false (body ++ ['>', '>']) = some (body, []) ∧
      Rule.parse body line = .ok (.variable rule) := by
  rw [Body.parse, read] at h
  rcases hpieces : pieces s with ⟨found, tail⟩
  rw [hpieces] at h
  dsimp only at h
  have hread : (readPieces [] found tail).error = none ∧
      bodyOfPieces found tail = .variable rule .done := by
    rw [bodyOfPieces]
    rcases hreading : readPieces [] found tail with ⟨events, error⟩
    rw [hreading] at h
    cases error with
    | none => exact ⟨rfl, Except.ok.inj h⟩
    | some e => cases h
  obtain ⟨body, line, rfl, rfl, hparse⟩ := exists_rule_of_bodyOfPieces hread.1 hread.2
  obtain ⟨heq, hopens, hbody⟩ := eq_enclose_of_piecesFrom hpieces
  exact ⟨body, line, heq, hopens, hbody, hparse⟩

/-- A text between two others, with blanks between them. -/
def framed (pre content post : List Char) : List Char :=
  pre ++ ' ' :: (content ++ ' ' :: post)

theorem Rule.exists_parse_line [Engine] {line : Nat}
    (h : Rule.parse body line = .ok (.variable rule)) (line' : Nat) :
    ∃ rule' : VariableRule, Rule.parse body line' = .ok (.variable rule') ∧
      rule'.name = rule.name ∧ rule'.pattern = rule.pattern ∧
      rule'.defaultText = rule.defaultText ∧ rule'.sample = rule.sample := by
  have hclause : (Rule.parse body line').toOption.map Rule.clause =
      some (.variable rule.name rule.pattern rule.defaultText rule.sample) := by
    rw [clause_parse, ← clause_parse body line, h]
    rfl
  cases hparse : Rule.parse body line' with
  | error e =>
    rw [hparse] at hclause
    cases hclause
  | ok found =>
    rw [hparse] at hclause
    cases found with
    | «variable» rule' =>
      obtain ⟨hname, hpattern, hdefault, hsample⟩ :=
        Clause.variable.inj (Option.some.inj hclause)
      exact ⟨rule', rfl, hname, hpattern, hdefault, hsample⟩
    | beginOptional region => cases hclause
    | endOptional => cases hclause

/-- A rule that is read by itself is read between two fixed texts and blanks. -/
theorem Body.parse_framed [Engine] {pre post : List Char} (hpre : HasNoRule pre)
    (hpost : HasNoRule post) (h : Body.parse s = .ok (.variable rule .done)) :
    ∃ rule' : VariableRule, rule'.defaultText = rule.defaultText ∧
      Body.parse (framed pre s post) =
        .ok (.text (pre ++ [' ']) (.variable rule' (.text (' ' :: post) .done))) := by
  obtain ⟨body, line, rfl, hopens, hbody, hparse⟩ := exists_enclose_of_parse h
  have hword : isWord ' ' = false := by decide
  have hinner : isBlank (body ++ ['>', '>']) = false := by
    simp [isBlank, show isWhitespace '>' = false from rfl]
  have hframed : enclose body [] ++ ' ' :: post =
      '<' :: '<' :: ((body ++ ['>', '>']) ++ ' ' :: post) := by
    simp [enclose]
  have hbody' : takeBody false false ((body ++ ['>', '>']) ++ ' ' :: post) =
      some (body, ' ' :: post) :=
    takeBody_append_right (q := {}) hbody (' ' :: post)
  have hopens' : opensRule ('<' :: '<' :: ((body ++ ['>', '>']) ++ ' ' :: post)) := by
    rw [opensRule_append_of_not_isBlank hinner (by simp [hword])]
    exact hopens
  have hbefore := (AtRule.rule hopens' hbody').beforeRule_append hpre.append_blank
  have hbehind : beforeRule (' ' :: post) = (' ' :: post, []) := by
    rw [← AtRule.nil.beforeRule_append hpost.blank_cons, List.append_nil]
  have hpieces := piecesFrom_rule hbefore hbody' {}
  obtain ⟨rule', hparse', -, -, hdefault, -⟩ := Rule.exists_parse_line hparse
    ((Cursor.advance {} (pre ++ [' '])).line)
  refine ⟨rule', hdefault, ?_⟩
  have htemplate : framed pre (enclose body []) post =
      (pre ++ [' ']) ++ '<' :: '<' :: ((body ++ ['>', '>']) ++ ' ' :: post) := by
    rw [framed, hframed, List.append_cons]
  have hspaced : textPiece {} (pre ++ [' ']) = [.text (pre ++ [' ']) ⟨1, 0, pre.length + 1⟩] := by
    simp [textPiece]
  rw [htemplate, Body.parse, read, pieces, hpieces, piecesFrom_end hbehind, hspaced]
  simp [readPieces, hparse', textPiece, Reading.cons, Body.rests]

end

end Licensing.Template
