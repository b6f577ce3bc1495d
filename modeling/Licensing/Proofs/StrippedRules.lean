import Licensing.Proofs.OverwrittenRules

namespace Licensing.Template

open Licensing.Text

/-- What a rule says. -/
inductive Clause where
  | variable (name pattern defaultText : List Char) (sample : Option (List Char))
  | beginOptional (name : Option (List Char))
  | endOptional (name : Option (List Char))
  deriving DecidableEq

def Event.clause? : Event → Option Clause
  | .variable rule => some (.variable rule.name rule.pattern rule.defaultText rule.sample)
  | .beginOptional rule => some (.beginOptional rule.name)
  | .endOptional rule => some (.endOptional rule.name)
  | .text .. => none
  | .finish => none

def Reading.clauses? (r : Reading) : Option (List Clause) :=
  match r.error with
  | none => some (r.events.filterMap Event.clause?)
  | some _ => none

/-- What the rules of a template say, in order, if it can be read. -/
def clauses? [Engine] (template : List Char) : Option (List Clause) :=
  (read template).clauses?

/-- A rule by itself does not say which region it ends. -/
def Rule.clause : Rule → Clause
  | .variable rule => .variable rule.name rule.pattern rule.defaultText rule.sample
  | .beginOptional rule => .beginOptional rule.name
  | .endOptional => .endOptional none

def bodyClause? [Engine] (body : List Char) : Option Clause :=
  (Rule.parse body 1).toOption.map Rule.clause

/-- An end ends the innermost open region; the names are of the regions open already. -/
def nest : List (Option (List Char)) → List (Option Clause) → Option (List Clause)
  | [], [] => some []
  | _ :: _, [] => none
  | _, none :: _ => none
  | names, some (.variable name pattern defaultText sample) :: rest =>
    (nest names rest).map (.variable name pattern defaultText sample :: ·)
  | names, some (.beginOptional name) :: rest =>
    (nest (name :: names) rest).map (.beginOptional name :: ·)
  | [], some (.endOptional _) :: _ => none
  | name :: names, some (.endOptional _) :: rest =>
    (nest names rest).map (.endOptional name :: ·)

def Clause.unnamed : Clause → Clause
  | .endOptional _ => .endOptional none
  | clause => clause

def Piece.body? : Piece → Option (List Char)
  | .text .. => none
  | .rule body _ => some body

section

variable {names : List (Option (List Char))} {rules : List (Option Clause)} {clauses : List Clause}
  {clause : Clause} {event : Event} {found : List Piece}

theorem Rule.unnamed_clause (rule : Rule) : rule.clause.unnamed = rule.clause := by
  cases rule <;> rfl

/-- Each rule can be told from what all of them say together. -/
theorem map_unnamed_of_nest (h : nest names rules = some clauses) :
    rules.map (·.map Clause.unnamed) = clauses.map fun clause => some clause.unnamed := by
  fun_induction nest names rules generalizing clauses with
  | case1 =>
    cases h
    rfl
  | case2 => cases h
  | case3 => cases h
  | case4 names name pattern defaultText sample rest ih =>
    obtain ⟨later, hlater, rfl⟩ := Option.map_eq_some_iff.1 h
    rw [List.map_cons, List.map_cons, ih hlater]
    rfl
  | case5 names name rest ih =>
    obtain ⟨later, hlater, rfl⟩ := Option.map_eq_some_iff.1 h
    rw [List.map_cons, List.map_cons, ih hlater]
    rfl
  | case6 => cases h
  | case7 name names _ rest ih =>
    obtain ⟨later, hlater, rfl⟩ := Option.map_eq_some_iff.1 h
    rw [List.map_cons, List.map_cons, ih hlater]
    rfl

theorem Reading.clauses?_text (r : Reading) (content : List Char) (position : Position) :
    (r.cons (.text content position)).clauses? = r.clauses? := by
  obtain ⟨events, error⟩ := r
  cases error <;> rfl

theorem Reading.clauses?_cons (r : Reading) (h : event.clause? = some clause) :
    (r.cons event).clauses? = r.clauses?.map (clause :: ·) := by
  obtain ⟨events, error⟩ := r
  cases error with
  | some _ => rfl
  | none => exact congrArg some (List.filterMap_cons_some h)

theorem clause_build [Engine] (name defaultText : List Char) (pattern? sample : Option (List Char))
    (line line' : Nat) :
    (((VariableRule.build name defaultText pattern? line sample).map Rule.variable).toOption.map
        Rule.clause) =
      ((VariableRule.build name defaultText pattern? line' sample).map Rule.variable).toOption.map
        Rule.clause := by
  simp only [VariableRule.build]
  split
  · rfl
  · split <;> cases pattern? <;> rfl

theorem clause_parse [Engine] (body : List Char) (line : Nat) :
    (Rule.parse body line).toOption.map Rule.clause = bodyClause? body := by
  rw [bodyClause?, Rule.parse, Rule.parse]
  cases fields? body with
  | none => rfl
  | some fields =>
    dsimp only
    cases parseFields fields.tail with
    | error fault => rfl
    | ok attributes =>
      dsimp only
      split
      · split
        · rfl
        · exact clause_build _ _ _ _ _ _
      · split
        · rfl
        · split <;> rfl

/-- Reading resolves which region each rule ends. A rule that does not end is an error. -/
theorem clauses?_readPieces [Engine] (openRules : List OptionalRule) (found : List Piece)
    (tail : Option Nat) :
    (readPieces openRules found tail).clauses? =
      if tail.isSome then none
      else nest (openRules.map (·.name)) ((found.filterMap Piece.body?).map bodyClause?) := by
  induction found generalizing openRules with
  | nil => cases openRules <;> cases tail <;> rfl
  | cons piece rest ih =>
    cases piece with
    | text content position =>
      rw [readPieces, Reading.clauses?_text, ih]
      rfl
    | rule body line =>
      have hrules : ((Piece.rule body line :: rest).filterMap Piece.body?).map bodyClause? =
          (Rule.parse body line).toOption.map Rule.clause ::
            (rest.filterMap Piece.body?).map bodyClause? := by
        rw [clause_parse]
        rfl
      rw [hrules]
      cases hparse : Rule.parse body line with
      | error e =>
        simp only [readPieces, hparse]
        cases openRules <;> cases tail <;> rfl
      | ok rule =>
        cases rule with
        | «variable» rule =>
          simp only [readPieces, hparse]
          rw [Reading.clauses?_cons _ rfl, ih]
          cases openRules <;> cases tail <;> rfl
        | beginOptional rule =>
          simp only [readPieces, hparse]
          rw [Reading.clauses?_cons _ rfl, ih]
          cases openRules <;> cases tail <;> rfl
        | endOptional =>
          cases openRules with
          | nil =>
            simp only [readPieces, hparse]
            cases tail <;> rfl
          | cons rule outer =>
            simp only [readPieces, hparse]
            rw [Reading.clauses?_cons _ rfl, ih]
            cases tail <;> rfl

theorem clauses?_eq [Engine] (s : List Char) :
    clauses? s =
      if (pieces s).2.isSome then none
      else nest [] (((pieces s).1.filterMap Piece.body?).map bodyClause?) :=
  clauses?_readPieces [] (pieces s).1 (pieces s).2

theorem pieces_of_clauses? [Engine] {s : List Char} (h : (clauses? s).isSome) :
    (pieces s).2 = none := by
  rw [clauses?_eq] at h
  cases hend : (pieces s).2 with
  | none => rfl
  | some line =>
    rw [hend] at h
    cases h

theorem filterMap_textPiece (cursor : Cursor) (content : List Char) (found : List Piece) :
    (textPiece cursor content ++ found).filterMap Piece.body? = found.filterMap Piece.body? := by
  cases content <;> rfl

theorem Cut.piecesFrom_eq {s : List Char} {bodies : List (List Char)} (h : Cut s bodies)
    (cursor : Cursor) :
    (piecesFrom cursor s).1.filterMap Piece.body? = bodies ∧ (piecesFrom cursor s).2 = none := by
  induction h generalizing cursor with
  | last hbefore =>
    rw [piecesFrom_end hbefore, ← List.append_nil (textPiece _ _), filterMap_textPiece]
    exact ⟨rfl, rfl⟩
  | rule hbefore hbody hcut ih =>
    obtain ⟨line, cursor', hpieces⟩ := piecesFrom_enclose hbefore hbody cursor
    obtain ⟨hbodies, hend⟩ := ih cursor'
    rw [hpieces, filterMap_textPiece]
    exact ⟨congrArg (_ :: ·) hbodies, hend⟩

theorem unnamed_bodyClause? [Engine] (body : List Char) :
    (bodyClause? body).map Clause.unnamed = bodyClause? body := by
  rw [bodyClause?, Option.map_map]
  exact congrArg (Option.map · _) (funext Rule.unnamed_clause)

/-- Rules that say the same one after the other do so each for itself. -/
theorem eq_of_nest_eq [Engine] {bodies bodies' : List (List Char)}
    (h : nest names (bodies.map bodyClause?) = some clauses)
    (h' : nest names (bodies'.map bodyClause?) = some clauses) :
    bodies'.map bodyClause? = bodies.map bodyClause? := by
  have heq := (map_unnamed_of_nest h').trans (map_unnamed_of_nest h).symm
  rw [List.map_map, List.map_map] at heq
  have hunnamed : (fun c => c.map Clause.unnamed) ∘ bodyClause? = bodyClause? :=
    funext unnamed_bodyClause?
  rwa [hunnamed] at heq

/-- The first rules keep their bodies in place if each of them ends behind its new body. -/
theorem Aligned.prefix_bodies {s s' : List Char} {pairs : List (List Char × List Char)}
    (h : Aligned s s' pairs) (hover : Overwritten marks s s') (n : Nat)
    (hends : ∀ pair ∈ pairs.take n, EndsInPlace pair.2) (cursor : Cursor) :
    (pairs.take n).map (·.2) <+: (piecesFrom cursor s').1.filterMap Piece.body? := by
  induction h generalizing n cursor with
  | last hbefore => simp
  | rule hbefore hbody hlength h ih =>
    cases n with
    | zero => exact List.nil_prefix
    | succ n =>
      obtain ⟨hpair, hpairs⟩ := List.forall_mem_cons.1 hends
      obtain ⟨hbefore', hbody'⟩ := enclose_of_overwritten hlength hover hbefore hbody hpair
      obtain ⟨line, cursor', hpieces⟩ := piecesFrom_enclose hbefore' hbody' cursor
      have hrest := ih (overwritten_enclose hlength hover).2.2 n hpairs cursor'
      rw [hpieces, filterMap_textPiece]
      exact (List.prefix_cons_inj _).2 hrest

end

def ruleBodies (template : List Char) : List (List Char) :=
  (pieces template).1.filterMap Piece.body?

theorem clauses?_eq_iff [Engine] {s t : List Char} (ht : (clauses? t).isSome) :
    clauses? s = clauses? t ↔
      (pieces s).2 = none ∧ (ruleBodies s).map bodyClause? = (ruleBodies t).map bodyClause? := by
  have hend := pieces_of_clauses? ht
  constructor
  · intro heq
    have hend' := pieces_of_clauses? (heq ▸ ht)
    obtain ⟨clauses, hclauses⟩ := Option.isSome_iff_exists.1 ht
    have hclauses' := heq.trans hclauses
    rw [clauses?_eq, hend] at hclauses
    rw [clauses?_eq, hend'] at hclauses'
    exact ⟨hend', eq_of_nest_eq hclauses hclauses'⟩
  · rintro ⟨hend', hbodies⟩
    rw [ruleBodies, ruleBodies] at hbodies
    rw [clauses?_eq, clauses?_eq, hend, hend', hbodies]

/-- Stripping changes nothing exactly if the rules still end and each of them says the same. -/
theorem stripped_rules_agree_iff [Engine] {t : List Char} (hread : (clauses? t).isSome)
    (hdiffer : DifferInBodies t (stripComments t)) :
    (clauses? (stripComments t) = clauses? t ↔
        (pieces (stripComments t)).2 = none ∧
          (ruleBodies (stripComments t)).map bodyClause? = (ruleBodies t).map bodyClause?) ∧
      (∀ n, (∀ pair ∈ (bodyPairs t (stripComments t)).take n, EndsInPlace pair.2) →
        ((bodyPairs t (stripComments t)).take n).map (·.2) <+: ruleBodies (stripComments t)) ∧
      ((∀ pair ∈ bodyPairs t (stripComments t), EndsInPlace pair.2) →
        ruleBodies (stripComments t) = (bodyPairs t (stripComments t)).map (·.2) ∧
          (clauses? (stripComments t) = clauses? t ↔
            ∀ pair ∈ bodyPairs t (stripComments t), bodyClause? pair.2 = bodyClause? pair.1)) ∧
      ∀ pair ∈ bodyPairs t (stripComments t),
        KeepsQuotes {} pair.1 pair.2 → EndsInPlace pair.2 := by
  have hover := overwritten_stripComments t
  have haligned := hdiffer.aligned hover.length_eq (pieces_of_clauses? hread)
  refine ⟨clauses?_eq_iff hread, fun n hends => haligned.prefix_bodies hover n hends {},
    fun hends => ?_, haligned.endsInPlace hover⟩
  have hbodies : ruleBodies t = _ := (haligned.cut.piecesFrom_eq {}).1
  obtain ⟨hbodies', hend'⟩ := (haligned.cut_of_overwritten hover hends).piecesFrom_eq {}
  refine ⟨hbodies', ?_⟩
  rw [clauses?_eq_iff hread, hbodies, ruleBodies, pieces, hbodies', List.map_map, List.map_map,
    List.map_inj_left]
  exact and_iff_right hend'

def continuedTemplate : List Char :=
  "a <<beginOptional;name=o\n;>><<var;name=\"v\";\n".toList ++
    ";match=\".+\";original=\">>\\\"\";\n//=c>> * b<<endOptional;\n*=>>".toList

/-- The quote that begins a value is a part of a marker, and yet the rule ends in place. -/
def quotedTemplate : List Char :=
  "<<var;name=v;c=\n.\\\"a\\\"b\">>".toList

/-- The quote that begins a value is a part of a marker, and no other one ends it. -/
def unquotedTemplate : List Char :=
  "<<var;name=v;c=\n.\\\"a\">> b".toList

theorem stripped_rules_agree_iff_blank_fields :
    ((clauses? continuedTemplate).isSome ∧
      DifferInBodies continuedTemplate (stripComments continuedTemplate) ∧
      (∀ pair ∈ bodyPairs continuedTemplate (stripComments continuedTemplate),
        KeepsQuotes {} pair.1 pair.2) ∧
      stripComments continuedTemplate ≠ continuedTemplate ∧
      clauses? (stripComments continuedTemplate) = clauses? continuedTemplate) ∧
    ((clauses? quotedTemplate).isSome ∧
      DifferInBodies quotedTemplate (stripComments quotedTemplate) ∧
      (∀ pair ∈ bodyPairs quotedTemplate (stripComments quotedTemplate),
        ¬ KeepsQuotes {} pair.1 pair.2 ∧ EndsInPlace pair.2) ∧
      clauses? (stripComments quotedTemplate) = clauses? quotedTemplate) ∧
    (clauses? unquotedTemplate).isSome ∧
      DifferInBodies unquotedTemplate (stripComments unquotedTemplate) ∧
      (∀ pair ∈ bodyPairs unquotedTemplate (stripComments unquotedTemplate),
        ¬ EndsInPlace pair.2) ∧
      clauses? (stripComments unquotedTemplate) ≠ clauses? unquotedTemplate := by
  refine ⟨?_, ?_, ?_⟩
  · have hread : (clauses? continuedTemplate).isSome := by decide +kernel
    have hdiffer : DifferInBodies continuedTemplate (stripComments continuedTemplate) := by
      decide +kernel
    have hquotes : ∀ pair ∈ bodyPairs continuedTemplate (stripComments continuedTemplate),
        KeepsQuotes {} pair.1 pair.2 := by
      decide +kernel
    have hbodies : ∀ pair ∈ bodyPairs continuedTemplate (stripComments continuedTemplate),
        bodyClause? pair.2 = bodyClause? pair.1 := by
      decide +kernel
    obtain ⟨-, -, hagree, hends⟩ := stripped_rules_agree_iff hread hdiffer
    have hplaced := hagree fun pair hpair => hends pair hpair (hquotes pair hpair)
    exact ⟨hread, hdiffer, hquotes, by decide +kernel, hplaced.2.2 hbodies⟩
  · have hread : (clauses? quotedTemplate).isSome := by decide +kernel
    have hdiffer : DifferInBodies quotedTemplate (stripComments quotedTemplate) := by
      decide +kernel
    have hends : ∀ pair ∈ bodyPairs quotedTemplate (stripComments quotedTemplate),
        ¬ KeepsQuotes {} pair.1 pair.2 ∧ EndsInPlace pair.2 := by
      decide +kernel
    have hbodies : ∀ pair ∈ bodyPairs quotedTemplate (stripComments quotedTemplate),
        bodyClause? pair.2 = bodyClause? pair.1 := by
      decide +kernel
    obtain ⟨-, -, hagree, -⟩ := stripped_rules_agree_iff hread hdiffer
    exact ⟨hread, hdiffer, hends, (hagree fun pair hpair => (hends pair hpair).2).2.2 hbodies⟩
  · have hread : (clauses? unquotedTemplate).isSome := by decide +kernel
    have hdiffer : DifferInBodies unquotedTemplate (stripComments unquotedTemplate) := by
      decide +kernel
    have hends : (pieces (stripComments unquotedTemplate)).2 ≠ none := by decide +kernel
    obtain ⟨hagree, -⟩ := stripped_rules_agree_iff hread hdiffer
    exact ⟨hread, hdiffer, by decide +kernel, fun heq => hends (hagree.1 heq).1⟩

/-- A rule whose second line starts with a separator. -/
def splitTemplate : List Char :=
  "<<var;name=\"v\"\n;match=\"a\">>".toList

/-- Without its separator the second field becomes a part of the first. -/
theorem stripped_rules_disagree :
    DifferInBodies splitTemplate (stripComments splitTemplate) ∧
      (∀ pair ∈ bodyPairs splitTemplate (stripComments splitTemplate),
        KeepsQuotes {} pair.1 pair.2) ∧
      clauses? splitTemplate = some [.variable "v".toList "a".toList [] none] ∧
      clauses? (stripComments splitTemplate) =
        some [.variable "v\"\n match=\"a".toList VariableRule.anyText [] none] := by
  decide +kernel

end Licensing.Template
