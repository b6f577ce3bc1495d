import Licensing.Proofs.Places
import Licensing.Proofs.RuleBodies

namespace Licensing.Template

open Licensing.Text

def lastLine (s : List Char) : Nat :=
  s.count '\n' + 1

/-- A name follows the `<<` of the rule, and the first `>>` outside quotes ends its body. -/
structure IsRule (body behind : List Char) : Prop where
  opens : opensRule (enclose body behind)
  unquoted : body.foldl QuoteState.next {} = {}
  first : ∀ u v, body ++ ['>'] = u ++ '>' :: '>' :: v → u.foldl QuoteState.next {} ≠ {}

/-- A text stands for all up to the next rule, every other event for a rule. -/
inductive StandsFor [Engine] (before behind : List Char) : Event → List Char → Prop
  | text {content : List Char} (hne : content ≠ [])
      (hinside : ∀ u v, content = u ++ v → v ≠ [] → opensRule (v ++ behind) = false)
      (hbehind : behind = [] ∨ opensRule behind) :
      StandsFor before behind
        (.text content ⟨lastLine before, lastColumn before, content.length⟩) content
  | «variable» {body : List Char} {rule : VariableRule} (hrule : IsRule body behind)
      (hparse : Rule.parse body (lastLine before) = .ok (.variable rule))
      (hline : rule.line = lastLine before) :
      StandsFor before behind (.variable rule) (enclose body [])
  | beginOptional {body : List Char} {rule : OptionalRule} (hrule : IsRule body behind)
      (hparse : Rule.parse body (lastLine before) = .ok (.beginOptional rule))
      (hline : rule.line = lastLine before) :
      StandsFor before behind (.beginOptional rule) (enclose body [])
  | endOptional {body : List Char} (rule : OptionalRule) (hrule : IsRule body behind)
      (hparse : Rule.parse body (lastLine before) = .ok .endOptional) :
      StandsFor before behind (.endOptional rule) (enclose body [])

/-- The events stand for stretches that follow each other between two places of a text. -/
inductive Passes [Engine] : List Char → List Char → List Event → List Char → List Char → Prop
  | refl (before s : List Char) : Passes before s [] before s
  | cons {before source s before' s' : List Char} {event : Event} {events : List Event}
      (h : StandsFor before s event source)
      (hrest : Passes (before ++ source) s events before' s') :
      Passes before (source ++ s) (event :: events) before' s'

def openAfter (openRules : List OptionalRule) : Event → List OptionalRule
  | .beginOptional rule => rule :: openRules
  | .endOptional _ => openRules.tail
  | _ => openRules

def Event.isText : Event → Bool
  | .text _ _ => true
  | _ => false

/-- All is read, or a rule cannot be read, or the template ends in an open region. -/
inductive EndsAt (before behind : List Char) (openRules : List OptionalRule)
    (events : List Event) : Reading → Prop
  | finish (hbehind : behind = []) :
      EndsAt before behind openRules events ⟨events ++ [.finish], none⟩
  | atRule {e : TemplateError} (hopens : opensRule behind) (hline : e.line = lastLine before) :
      EndsAt before behind openRules events ⟨events, some e⟩
  | inRegion {rule : OptionalRule} (hbehind : behind = [])
      (hrule : rule ∈ (events.foldl openAfter openRules).head?) :
      EndsAt before behind openRules events ⟨events, some (.unterminatedOptional rule.line)⟩

def ReadsInPlace [Engine] (before s : List Char) (openRules : List OptionalRule) (r : Reading) :
    Prop :=
  ∃ events before' behind, Passes before s events before' behind ∧
    EndsAt before' behind openRules events r

section

variable {before before' behind s s' u v body content rest source : List Char}
  {openRules : List OptionalRule} {event : Event} {events later : List Event} {r : Reading}

theorem advance_append (cursor : Cursor) (u v : List Char) :
    cursor.advance (u ++ v) = (cursor.advance u).advance v := by
  induction u generalizing cursor with
  | nil => rfl
  | cons c cs ih => exact ih _

theorem advance_eq (s : List Char) : Cursor.advance {} s = ⟨lastLine s, lastColumn s⟩ := by
  induction s using List.reverseRecOn with
  | nil => rfl
  | append_singleton s c ih =>
    rw [advance_append, ih, Cursor.advance, Cursor.advance]
    by_cases hc : c = '\n'
    · simp [hc, lastLine]
    · have hfeed : '\n' ∉ [c] := by simpa using Ne.symm hc
      rw [if_neg hc, lastColumn_append hfeed, lastLine, lastLine, List.count_append,
        List.count_eq_zero.2 hfeed]
      rfl

theorem opensRule_eq_false_of_beforeRule (h : beforeRule s = (content, rest)) :
    ∀ u v, content = u ++ v → v ≠ [] → opensRule (v ++ rest) = false := by
  have hsplit := beforeRule_append s
  rw [h] at hsplit
  subst hsplit
  intro u v hcontent hv
  induction u generalizing content with
  | nil =>
    obtain ⟨c, cs, rfl⟩ := List.exists_cons_of_ne_nil hv
    rw [List.nil_append] at hcontent
    subst hcontent
    by_contra hopens
    rw [beforeRule_of_opensRule (Bool.of_not_eq_false hopens)] at h
    cases h
  | cons d ds ih =>
    subst hcontent
    rw [List.cons_append, List.cons_append, beforeRule] at h
    split at h
    · cases h
    · obtain ⟨hcontent, hrest⟩ := Prod.mk.inj h
      have hlater : beforeRule (ds ++ v ++ rest) = (ds ++ v, rest) :=
        Prod.ext (List.cons.inj hcontent).2 hrest
      exact ih hlater rfl

theorem takeBody_spec {q : QuoteState} (h : takeBody q.inQuote q.escaped s = some (body, rest)) :
    body.foldl QuoteState.next q = {} ∧
      ∀ u v, body ++ ['>'] = u ++ '>' :: '>' :: v → u.foldl QuoteState.next q ≠ {} := by
  induction s generalizing q body with
  | nil => cases h
  | cons c cs ih =>
    rw [takeBody_cons] at h
    split at h
    · rename_i hend
      cases h
      refine ⟨hend.1, fun u v hmarks => ?_⟩
      have hlength := congrArg List.length hmarks
      simp at hlength
      omega
    · rename_i hgo
      obtain ⟨⟨b, r⟩, hb, heq⟩ := Option.map_eq_some_iff.1 h
      cases heq
      obtain ⟨hunquoted, hfirst⟩ := ih hb
      refine ⟨hunquoted, fun u v hmarks => ?_⟩
      cases u with
      | nil =>
        -- The scanner has looked at both marks, and did not stop.
        obtain ⟨rfl, hnext⟩ := List.cons.inj hmarks
        have hnext : b ++ ['>'] = '>' :: v := hnext
        rintro rfl
        refine hgo ⟨rfl, rfl, ?_⟩
        rw [eq_append_of_takeBody hb, List.append_cons, hnext]
        rfl
      | cons d ds =>
        obtain ⟨rfl, hlater⟩ := List.cons.inj hmarks
        exact hfirst ds v hlater

theorem isRule_of_takeBody (hopens : opensRule (enclose body rest))
    (hbody : takeBody false false (body ++ '>' :: '>' :: rest) = some (body, rest)) :
    IsRule body rest :=
  ⟨hopens, (takeBody_spec (q := {}) hbody).1, (takeBody_spec (q := {}) hbody).2⟩

theorem enclose_append (body rest : List Char) : enclose body [] ++ rest = enclose body rest := by
  simp [enclose]

def NamesLine (line : Nat) : Except TemplateError Rule → Prop
  | .error e => e.line = line
  | .ok (.variable rule) => rule.line = line
  | .ok (.beginOptional rule) => rule.line = line
  | .ok .endOptional => True

theorem namesLine_build [Engine] (name defaultText : List Char)
    (pattern? sample : Option (List Char)) (line : Nat) :
    NamesLine line
      ((VariableRule.build name defaultText pattern? line sample).map Rule.variable) := by
  simp only [VariableRule.build]
  split
  · rfl
  · split <;> rfl

theorem namesLine_parse [Engine] (body : List Char) (line : Nat) :
    NamesLine line (Rule.parse body line) := by
  rw [Rule.parse]
  cases fields? body with
  | none => rfl
  | some fields =>
    dsimp only
    cases parseFields fields.tail with
    | error fault => rfl
    | ok attributes =>
      dsimp only
      split
      · split
        · rfl
        · exact namesLine_build _ _ _ _ _
      · split
        · rfl
        · split
          · trivial
          · rfl

namespace Passes

theorem append_eq [Engine] (h : Passes before s events before' s') :
    before ++ s = before' ++ s' := by
  induction h with
  | refl => rfl
  | cons _ _ ih => rw [← ih, List.append_assoc]

theorem exists_of_append [Engine] {earlier : List Event}
    (h : Passes before s (earlier ++ later) before' s') :
    ∃ u v, Passes before s earlier u v ∧ Passes u v later before' s' := by
  induction earlier generalizing before s with
  | nil => exact ⟨before, s, .refl before s, h⟩
  | cons event earlier ih =>
    cases h with
    | cons hevent hrest =>
      obtain ⟨u, v, hearlier, hlater⟩ := ih hrest
      exact ⟨u, v, .cons hevent hearlier, hlater⟩

theorem isChain [Engine] (h : Passes before s events before' s') :
    events.IsChain fun event next => event.isText → next.isText = false := by
  induction h with
  | refl => exact .nil
  | @cons before source s before' s' event events hevent hrest ih =>
    cases hrest with
    | refl => exact .singleton _
    | @cons _ source' s'' _ _ next events hnext hrest =>
      refine List.isChain_cons_cons.2 ⟨fun htext => ?_, ih⟩
      cases hevent with
      | text hne hinside hbehind =>
        cases hnext with
        | text hne' hinside' hbehind' =>
          rcases hbehind with hnil | hopens
          · exact absurd (List.append_eq_nil_iff.1 hnil).1 hne'
          · rw [hinside' [] source' rfl hne'] at hopens
            cases hopens
        | «variable» => rfl
        | beginOptional => rfl
        | endOptional => rfl
      | «variable» => cases htext
      | beginOptional => cases htext
      | endOptional => cases htext

end Passes

theorem mem_of_mem_foldl_openAfter {rule : OptionalRule}
    (h : rule ∈ events.foldl openAfter openRules) :
    rule ∈ openRules ∨ .beginOptional rule ∈ events := by
  induction events generalizing openRules with
  | nil => exact .inl h
  | cons event events ih =>
    rcases ih h with hopen | hbegun
    · cases event with
      | beginOptional rule' =>
        rcases List.mem_cons.1 hopen with rfl | hopen
        · exact .inr List.mem_cons_self
        · exact .inl hopen
      | endOptional rule' => exact .inl (List.mem_of_mem_tail hopen)
      | text content position => exact .inl hopen
      | «variable» rule' => exact .inl hopen
      | finish => exact .inl hopen
    · exact .inr (List.mem_cons_of_mem _ hbegun)

namespace ReadsInPlace

theorem cons [Engine] (hevent : StandsFor before s event source)
    (h : ReadsInPlace (before ++ source) s (openAfter openRules event) r) :
    ReadsInPlace before (source ++ s) openRules (r.cons event) := by
  obtain ⟨events, before', behind, hpasses, hends⟩ := h
  refine ⟨event :: events, before', behind, .cons hevent hpasses, ?_⟩
  cases hends with
  | finish hbehind => exact .finish hbehind
  | atRule hopens hline => exact .atRule hopens hline
  | inRegion hbehind hrule => exact .inRegion hbehind hrule

theorem ofTextPiece [Engine] {found : List Piece} {tail : Option Nat}
    (hbefore : beforeRule (content ++ behind) = (content, behind))
    (h : ReadsInPlace (before ++ content) behind openRules (readPieces openRules found tail)) :
    ReadsInPlace before (content ++ behind) openRules
      (readPieces openRules (textPiece (Cursor.advance {} before) content ++ found) tail) := by
  by_cases hne : content = []
  · subst hne
    rwa [List.append_nil] at h
  · have hpiece : textPiece (Cursor.advance {} before) content =
        [.text content ⟨lastLine before, lastColumn before, content.length⟩] := by
      rw [textPiece, if_neg (by simpa using hne), advance_eq]
    rw [hpiece]
    exact cons (.text hne (opensRule_eq_false_of_beforeRule hbefore)
      (opensRule_of_beforeRule hbefore)) h

theorem ofRulePiece [Engine] {found : List Piece} {tail : Option Nat} (hrule : IsRule body rest)
    (h : ∀ openRules, ReadsInPlace (before ++ enclose body []) rest openRules
      (readPieces openRules found tail)) (openRules : List OptionalRule) :
    ReadsInPlace before (enclose body rest) openRules
      (readPieces openRules (.rule body (lastLine before) :: found) tail) := by
  have hline := namesLine_parse body (lastLine before)
  have hstop {e : TemplateError} (he : e.line = lastLine before) :
      ReadsInPlace before (enclose body rest) openRules (.fail e) :=
    ⟨[], before, enclose body rest, .refl _ _, .atRule hrule.opens he⟩
  cases hparse : Rule.parse body (lastLine before) with
  | error e =>
    rw [hparse] at hline
    simp only [readPieces, hparse]
    exact hstop hline
  | ok parsed =>
    rw [hparse] at hline
    rw [← enclose_append] at hstop ⊢
    cases parsed with
    | «variable» rule =>
      simp only [readPieces, hparse]
      exact cons (.variable hrule hparse hline) (h openRules)
    | beginOptional rule =>
      simp only [readPieces, hparse]
      exact cons (.beginOptional hrule hparse hline) (h (rule :: openRules))
    | endOptional =>
      cases openRules with
      | nil =>
        simp only [readPieces, hparse]
        exact hstop rfl
      | cons rule outer =>
        simp only [readPieces, hparse]
        exact cons (.endOptional rule hrule hparse) (h outer)

end ReadsInPlace

theorem readsInPlace_readFrom [Engine] (s before : List Char) (openRules : List OptionalRule) :
    ReadsInPlace before s openRules (readFrom openRules (Cursor.advance {} before) s) := by
  induction s using template_induction generalizing before openRules with
  | last content hbefore =>
    have hbefore' : beforeRule (content ++ []) = (content, []) := by rwa [List.append_nil]
    rw [readFrom, piecesFrom_end hbefore, ← List.append_nil (textPiece _ _)]
    have hends : ReadsInPlace (before ++ content) [] openRules (readPieces openRules [] none) := by
      refine ⟨[], _, [], .refl _ _, ?_⟩
      cases openRules with
      | nil => exact .finish rfl
      | cons rule outer => exact .inRegion rfl rfl
    have hread := hends.ofTextPiece hbefore'
    rwa [List.append_nil] at hread
  | «open» content inner hbefore hbody =>
    rw [readFrom, piecesFrom_open hbefore hbody, ← List.append_nil (textPiece _ _)]
    have hopens := (opensRule_of_beforeRule hbefore).resolve_left (List.cons_ne_nil _ _)
    refine ReadsInPlace.ofTextPiece hbefore ⟨[], _, _, .refl _ _, .atRule hopens ?_⟩
    rw [← advance_append, advance_eq]
    rfl
  | rule content body rest hbefore hbody ih =>
    have hcontent : (Cursor.advance {} before).advance content =
        Cursor.advance {} (before ++ content) := (advance_append _ _ _).symm
    have hbehind : (Cursor.advance {} (before ++ content)).advance
        ('<' :: '<' :: body ++ ['>', '>']) =
          Cursor.advance {} (before ++ content ++ enclose body []) := (advance_append _ _ _).symm
    have hline : (Cursor.advance {} (before ++ content)).line = lastLine (before ++ content) := by
      rw [advance_eq]
    have hopens := (opensRule_of_beforeRule hbefore).resolve_left (List.cons_ne_nil _ _)
    rw [readFrom, piecesFrom_rule hbefore hbody, hcontent, hbehind, hline]
    exact .ofTextPiece hbefore (.ofRulePiece (isRule_of_takeBody hopens hbody) (ih _) openRules)

end

/-- Events stand for stretches that follow each other up to where the reading ends. -/
theorem read_in_place [Engine] (template : List Char) : ∃ events before behind,
    Passes [] template events before behind ∧ template = before ++ behind ∧
      EndsAt before behind [] events (read template) ∧
      events.IsChain (fun event next => event.isText → next.isText = false) ∧
      ∀ e, (read template).error = some e → ∃ earlier later before' rest,
        events = earlier ++ later ∧ Passes [] template earlier before' rest ∧
          template = before' ++ rest ∧ opensRule rest ∧ e.line = lastLine before' ∧
          (later = [] ∧ rest = behind ∨ ∃ rule ∈ (events.foldl openAfter []).head?,
            later.head? = some (.beginOptional rule) ∧ e = .unterminatedOptional rule.line) := by
  obtain ⟨events, before, behind, hpasses, hends⟩ := readsInPlace_readFrom template [] []
  have hread : readFrom [] (Cursor.advance {} []) template = read template := rfl
  rw [hread] at hends
  refine ⟨events, before, behind, hpasses, hpasses.append_eq, hends, hpasses.isChain, ?_⟩
  intro e he
  generalize read template = r at hends he
  cases hends with
  | finish => cases he
  | atRule hopens hline =>
    cases he
    exact ⟨events, [], before, behind, (List.append_nil _).symm, hpasses, hpasses.append_eq,
      hopens, hline, .inl ⟨rfl, rfl⟩⟩
  | @inRegion rule hbehind hopen =>
    cases he
    have hmem := (mem_of_mem_foldl_openAfter (List.mem_of_mem_head? hopen)).resolve_left
      List.not_mem_nil
    obtain ⟨earlier, later, rfl⟩ := List.append_of_mem hmem
    obtain ⟨u, v, hearlier, hlater⟩ := hpasses.exists_of_append
    cases hlater with
    | cons hbegin _ =>
      cases hbegin with
      | beginOptional hrule _ hline =>
        refine ⟨earlier, _, u, _, rfl, hearlier, hearlier.append_eq, ?_, hline,
          .inr ⟨rule, hopen, rfl, rfl⟩⟩
        rw [enclose_append]
        exact hrule.opens

theorem read_in_place_quoted_lines :
    let template := "é\n<<var;name=\"x\";original=\"y\n>>\">>b\n<<endOptional>>".toList
    (read template).error = some (.unexpectedEnd 4) ∧ ∃ events before rest,
      Passes [] template events before rest ∧ template = before ++ rest ∧ opensRule rest ∧
        lastLine before = 4 := by
  intro template
  have herror : (read template).error = some (.unexpectedEnd 4) := by decide +kernel
  obtain ⟨_, _, _, -, -, -, -, herrors⟩ := read_in_place template
  obtain ⟨earlier, later, before, rest, -, hpasses, hsplit, hopens, hline, -⟩ :=
    herrors (.unexpectedEnd 4) herror
  exact ⟨herror, earlier, before, rest, hpasses, hsplit, hopens, hline.symm⟩

end Licensing.Template
