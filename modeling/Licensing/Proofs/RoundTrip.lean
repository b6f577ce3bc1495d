import Licensing.Proofs.Ascii
import Licensing.Proofs.Quoting
import Licensing.Proofs.Tree

namespace Licensing.Template

open Licensing.Text Licensing.Unicode Licensing.Pattern

def startsWithName (name s : List Char) : Bool :=
  eqIgnoringAsciiCase (s.take name.length) name && !(s.drop name.length).head?.any isWord

theorem opensRule_cons_cons (s : List Char) :
    opensRule ('<' :: '<' :: s) =
      ruleNames.any fun name => startsWithName name (s.dropWhile isWhitespace) :=
  rfl

theorem opensRule_eq_false {s : List Char} (h : ¬ ['<', '<'] <+: s) : opensRule s = false := by
  unfold opensRule
  split
  · exact absurd ⟨_, rfl⟩ h
  · rfl

/-- A text that is empty or starts with a rule that ends. -/
inductive AtRule : List Char → Prop where
  | nil : AtRule []
  | rule {inner body rest : List Char} (hopens : opensRule ('<' :: '<' :: inner))
      (hbody : takeBody false false inner = some (body, rest)) : AtRule ('<' :: '<' :: inner)

section

variable {name r s content : List Char}

theorem AtRule.eq_of_mem_head? {c : Char} (h : AtRule s) (hc : c ∈ s.head?) : c = '<' := by
  cases h with
  | nil => cases hc
  | rule => exact (Option.some.inj hc).symm

theorem isWord_of_mem_name {c : Char} (hname : name ∈ ruleNames)
    (hc : lowercaseAscii c ∈ name.map lowercaseAscii) : isWord c := by
  have hascii : isAscii c := by
    have hnames : ∀ name ∈ ruleNames, (name.map lowercaseAscii).all isAscii := by decide
    have hlower := List.all_eq_true.1 (hnames name hname) _ hc
    rw [lowercaseAscii] at hlower
    split at hlower
    · rename_i hletter
      have hle : c.toNat ≤ 'Z'.toNat := hletter.2
      exact decide_eq_true (hle.trans_lt (by decide))
    · exact hlower
  have hletters : ∀ n < 128, ∀ name ∈ ruleNames,
      lowercaseAscii (Char.ofNat n) ∈ name.map lowercaseAscii → isWord (Char.ofNat n) := by
    decide +kernel
  exact of_isAscii (P := fun c => ∀ name ∈ ruleNames,
    lowercaseAscii c ∈ name.map lowercaseAscii → isWord c) hletters hascii name hname hc

theorem eqIgnoringAsciiCase_take_append (hname : name ∈ ruleNames) (hshort : r.length < name.length)
    (hs : ∀ c ∈ s.head?, isWord c = false) :
    eqIgnoringAsciiCase ((r ++ s).take name.length) name = false := by
  rw [List.take_append, List.take_of_length_le hshort.le]
  refine beq_eq_false_iff_ne.2 fun heq => ?_
  cases s with
  | nil =>
    have hlength := congrArg List.length heq
    simp only [List.take_nil, List.append_nil, List.length_map] at hlength
    exact hshort.ne hlength
  | cons c cs =>
    obtain ⟨k, hk⟩ := Nat.exists_eq_succ_of_ne_zero (Nat.sub_ne_zero_of_lt hshort)
    rw [hk, List.take_succ_cons] at heq
    refine Bool.eq_false_iff.1 (hs c rfl) (isWord_of_mem_name hname ?_)
    rw [← heq, List.map_append, List.map_cons]
    exact List.mem_append_right _ List.mem_cons_self

theorem startsWithName_append (hname : name ∈ ruleNames) (hs : ∀ c ∈ s.head?, isWord c = false) :
    startsWithName name (r ++ s) = startsWithName name r := by
  rcases Nat.lt_or_ge r.length name.length with hshort | hlong
  · have hr := eqIgnoringAsciiCase_take_append (s := []) hname hshort (by simp)
    rw [List.append_nil] at hr
    rw [startsWithName, startsWithName, eqIgnoringAsciiCase_take_append hname hshort hs, hr,
      Bool.false_and, Bool.false_and]
  · rw [startsWithName, startsWithName, List.take_append_of_le_length hlong,
      List.drop_append_of_le_length hlong]
    congr 2
    cases hdrop : r.drop name.length with
    | cons c cs => rfl
    | nil =>
      cases s with
      | nil => rfl
      | cons c cs => simp [hs c rfl]

theorem any_startsWithName_append (hs : ∀ c ∈ s.head?, isWord c = false) :
    (ruleNames.any fun name => startsWithName name (r ++ s)) =
      ruleNames.any fun name => startsWithName name r := by
  rw [Bool.eq_iff_iff, List.any_eq_true, List.any_eq_true]
  exact exists_congr fun name => and_congr_right fun hname => by
    rw [startsWithName_append hname hs]

theorem AtRule.dropWhile_append (h : AtRule s) (r : List Char) :
    (r ++ s).dropWhile isWhitespace = r.dropWhile isWhitespace ++ s := by
  have hs : s.dropWhile isWhitespace = s := by
    cases h with
    | nil => rfl
    | rule => rfl
  rw [List.dropWhile_append, hs]
  split
  · rename_i hempty
    rw [List.isEmpty_iff.1 hempty, List.nil_append]
  · rfl

theorem AtRule.opensRule_append (h : AtRule s) {c : Char} {cs : List Char} :
    opensRule (c :: cs ++ s) = opensRule (c :: cs) := by
  have hword : isWord '<' = false := by decide
  by_cases hc : c = '<'
  · subst hc
    cases cs with
    | nil =>
      cases h with
      | nil => rfl
      | rule => exact any_startsWithName_append (r := []) (by simp [hword])
    | cons d ds =>
      by_cases hd : d = '<'
      · subst hd
        simp only [List.cons_append, opensRule_cons_cons, h.dropWhile_append]
        exact any_startsWithName_append fun _ hc => h.eq_of_mem_head? hc ▸ hword
      · rw [opensRule_eq_false, opensRule_eq_false] <;> simp [Ne.symm hd]
  · rw [opensRule_eq_false, opensRule_eq_false] <;> simp [Ne.symm hc]

theorem beforeRule_of_opensRule (h : opensRule s) : beforeRule s = ([], s) := by
  cases s with
  | nil => rfl
  | cons c cs => exact if_pos h

theorem AtRule.beforeRule_append (h : AtRule s) (hrules : HasNoRule content) :
    beforeRule (content ++ s) = (content, s) := by
  induction content with
  | nil =>
    cases h with
    | nil => rfl
    | rule hopens => exact beforeRule_of_opensRule hopens
  | cons c cs ih =>
    have hcs : HasNoRule cs := fun rest hrest => hrules rest (hrest.trans (List.suffix_cons c cs))
    have hc : opensRule (c :: (cs ++ s)) = false := by
      rw [← List.cons_append, h.opensRule_append]
      exact hrules _ (List.suffix_refl _)
    simp only [List.cons_append, beforeRule, hc, Bool.false_eq_true, ↓reduceIte, ih hcs]

theorem writeRule_append (kind : List Char) (fields : List (List Char × List Char))
    (s : List Char) :
    writeRule kind fields ++ s = '<' :: '<' :: (writeBody kind fields ++ '>' :: '>' :: s) := by
  simp [writeRule]

theorem isName_of_mem_ruleNames (h : name ∈ ruleNames) : IsName name := by
  revert name
  decide

theorem opensRule_writeBody (hname : name ∈ ruleNames) (fields : List (List Char × List Char))
    (s : List Char) : opensRule ('<' :: '<' :: (writeBody name fields ++ '>' :: '>' :: s)) := by
  have hmarks : isWord ';' = false ∧ isWord '>' = false := by decide
  have hword : (((fields.flatMap fun field => ';' :: writeField field) ++
      '>' :: '>' :: s).head?.any isWord) = false := by
    cases fields with
    | nil => exact hmarks.2
    | cons field fields => exact hmarks.1
  obtain ⟨c, hfirst, hc⟩ := (isName_of_mem_ruleNames hname).exists_head?
    ((fields.flatMap fun field => ';' :: writeField field) ++ '>' :: '>' :: s)
  rw [opensRule_cons_cons, List.any_eq_true]
  refine ⟨name, hname, ?_⟩
  rw [writeBody, List.append_assoc, dropWhile_isWhitespace_of_head? hfirst hc, startsWithName,
    List.take_left, List.drop_left, hword, eqIgnoringAsciiCase, BEq.rfl]
  rfl

theorem atRule_writeRule {fields : List (List Char × List Char)} (hname : name ∈ ruleNames)
    (hfields : ∀ field ∈ fields, IsField field) (s : List Char) :
    AtRule (writeRule name fields ++ s) := by
  rw [writeRule_append]
  exact .rule (opensRule_writeBody hname fields s)
    (takeBody_writeRule (isName_of_mem_ruleNames hname) hfields s)

end

def readFrom [Engine] (openRules : List OptionalRule) (cursor : Cursor) (s : List Char) : Reading :=
  readPieces openRules (piecesFrom cursor s).1 (piecesFrom cursor s).2

section

variable {openRules : List OptionalRule} {cursor : Cursor} {content s : List Char}

theorem piecesFrom_end (h : beforeRule s = (content, [])) :
    piecesFrom cursor s = (textPiece cursor content, none) := by
  rw [piecesFrom]
  split
  · rw [h]
  · rename_i hrest
    rw [h] at hrest
    cases hrest

theorem piecesFrom_rule {inner body rest : List Char}
    (h : beforeRule s = (content, '<' :: '<' :: inner))
    (hbody : takeBody false false inner = some (body, rest)) (cursor : Cursor) :
    piecesFrom cursor s =
      let behind := piecesFrom ((cursor.advance content).advance ('<' :: '<' :: body ++ ['>', '>']))
        rest
      (textPiece cursor content ++ .rule body (cursor.advance content).line :: behind.1,
        behind.2) := by
  rw [piecesFrom]
  split
  · rename_i hrest
    rw [h] at hrest
    cases hrest
  · rename_i hrest
    rw [h] at hrest
    obtain ⟨rfl, rfl⟩ := List.cons.inj hrest
    split
    · rename_i hnone
      cases hnone.symm.trans hbody
    · rename_i hsome
      cases hsome.symm.trans hbody
      rw [h]

theorem AtRule.readFrom_text [Engine] (h : AtRule s) (hcontent : content ≠ [])
    (hrules : HasNoRule content) :
    ∃ cursor' position, readFrom openRules cursor (content ++ s) =
      (readFrom openRules cursor' s).cons (.text content position) := by
  have hbefore := h.beforeRule_append hrules
  refine ⟨cursor.advance content, ⟨cursor.line, cursor.column, content.length⟩, ?_⟩
  have hpiece : textPiece cursor content = [.text content ⟨cursor.line, cursor.column,
      content.length⟩] := by
    rw [textPiece, if_neg (by simpa using hcontent)]
  cases h with
  | nil =>
    rw [readFrom, readFrom, piecesFrom_end hbefore, piecesFrom_end rfl, hpiece]
    rfl
  | rule hopens hbody =>
    rw [readFrom, readFrom, piecesFrom_rule hbefore hbody,
      piecesFrom_rule (beforeRule_of_opensRule hopens) hbody, hpiece]
    rfl

theorem readFrom_writeRule [Engine] {kind : List Char} {fields : List (List Char × List Char)}
    (hkind : kind ∈ ruleNames) (hfields : ∀ field ∈ fields, IsField field) :
    ∃ cursor', readFrom openRules cursor (writeRule kind fields ++ s) =
      readPieces openRules
        (.rule (writeBody kind fields) cursor.line :: (piecesFrom cursor' s).1)
        (piecesFrom cursor' s).2 := by
  have hbody := takeBody_writeRule (isName_of_mem_ruleNames hkind) hfields s
  have hopens := opensRule_writeBody hkind fields s
  have hpieces := piecesFrom_rule (beforeRule_of_opensRule hopens) hbody cursor
  rw [writeRule_append, readFrom, hpieces]
  exact ⟨_, rfl⟩

end

/-- It ends without error, and its bodies have the given nodes, the innermost first. -/
def Reading.Gives (r : Reading) (lists : List (List Node)) : Prop :=
  r.error = none ∧ (Body.rests r.events).map Body.nodes = lists

namespace Reading.Gives

variable {r : Reading} {nodes inner : List Node} {outer : List (List Node)}

theorem finish : Gives ⟨[.finish], none⟩ [[]] :=
  ⟨rfl, rfl⟩

theorem text {content : List Char} {position : Position} (h : r.Gives (nodes :: outer)) :
    (r.cons (.text content position)).Gives ((.text content :: nodes) :: outer) := by
  obtain ⟨herror, hrests⟩ := h
  obtain ⟨body, bodies, hevents, rfl, rfl⟩ := List.map_eq_cons_iff.1 hrests
  exact ⟨herror, by simp [cons, Body.rests, hevents, Body.nodes]⟩

theorem «variable» {rule : VariableRule} (h : r.Gives (nodes :: outer)) :
    (r.cons (.variable rule)).Gives
      ((.variable rule.name rule.pattern rule.defaultText rule.sample :: nodes) :: outer) := by
  obtain ⟨herror, hrests⟩ := h
  obtain ⟨body, bodies, hevents, rfl, rfl⟩ := List.map_eq_cons_iff.1 hrests
  exact ⟨herror, by simp [cons, Body.rests, hevents, Body.nodes]⟩

theorem beginOptional {rule : OptionalRule} (h : r.Gives (inner :: nodes :: outer)) :
    (r.cons (.beginOptional rule)).Gives ((.optional rule.name inner :: nodes) :: outer) := by
  obtain ⟨herror, hrests⟩ := h
  obtain ⟨body, bodies, hevents, rfl, hbodies⟩ := List.map_eq_cons_iff.1 hrests
  obtain ⟨rest, bodies, rfl, rfl, rfl⟩ := List.map_eq_cons_iff.1 hbodies
  exact ⟨herror, by simp [cons, Body.rests, hevents, Body.nodes]⟩

theorem endOptional {rule : OptionalRule} (h : r.Gives outer) :
    (r.cons (.endOptional rule)).Gives ([] :: outer) := by
  obtain ⟨herror, rfl⟩ := h
  exact ⟨herror, rfl⟩

end Reading.Gives

section

variable [Engine] {openRules : List OptionalRule} {nodes inner : List Node}
  {outer : List (List Node)} {s : List Char}

theorem gives_text {content : List Char} (hcontent : content ≠ []) (hrules : HasNoRule content)
    (hs : AtRule s) (h : ∀ cursor, (readFrom openRules cursor s).Gives (nodes :: outer))
    (cursor : Cursor) :
    (readFrom openRules cursor (content ++ s)).Gives ((.text content :: nodes) :: outer) := by
  obtain ⟨cursor', position, hread⟩ := hs.readFrom_text hcontent hrules
  rw [hread]
  exact (h cursor').text

theorem gives_beginOptional {name? : Option (List Char)}
    (hfields : ∀ field ∈ optionalFields name?, IsField field)
    (h : ∀ rule cursor, (readFrom (rule :: openRules) cursor s).Gives (inner :: nodes :: outer))
    (cursor : Cursor) :
    (readFrom openRules cursor
      (writeRule "beginOptional".toList (optionalFields name?) ++ s)).Gives
        ((.optional name? inner :: nodes) :: outer) := by
  have hkind : "beginOptional".toList ∈ ruleNames := by decide
  obtain ⟨cursor', hread⟩ := readFrom_writeRule hkind hfields
  rw [hread]
  simp only [readPieces, parse_beginOptional hfields]
  exact (h ⟨name?, cursor.line⟩ cursor').beginOptional

theorem gives_endOptional (rule : OptionalRule)
    (h : ∀ cursor, (readFrom openRules cursor s).Gives outer) (cursor : Cursor) :
    (readFrom (rule :: openRules) cursor (writeRule "endOptional".toList [] ++ s)).Gives
      ([] :: outer) := by
  have hkind : "endOptional".toList ∈ ruleNames := by decide
  obtain ⟨cursor', hread⟩ := readFrom_writeRule hkind (List.forall_mem_nil IsField)
  rw [hread]
  simp only [readPieces, parse_endOptional]
  exact (h cursor').endOptional

theorem gives_variable {name pattern defaultText : List Char} {sample : Option (List Char)}
    {fields : List (List Char × List Char)} (hname : isBlank name = false)
    (hpattern : (Engine.compile? pattern).isSome) (hlong : VariableRule.shorthand? pattern = none)
    (horder : fields.Perm (variableFields name pattern defaultText sample))
    (hfields : ∀ field ∈ fields, IsField field)
    (h : ∀ cursor, (readFrom openRules cursor s).Gives (nodes :: outer)) (cursor : Cursor) :
    (readFrom openRules cursor (writeRule "var".toList fields ++ s)).Gives
      ((.variable name pattern defaultText sample :: nodes) :: outer) := by
  have hkind : "var".toList ∈ ruleNames := by decide
  obtain ⟨cursor', hread⟩ := readFrom_writeRule hkind hfields
  obtain ⟨rule, hparse, rfl, rfl, rfl, rfl⟩ :=
    parse_variable hname hpattern hlong horder hfields cursor.line
  rw [hread]
  simp only [readPieces, hparse]
  exact (h cursor').variable

end

section

variable [Engine] {nodes after : List Node} {s rest : List Char} {openRules : List OptionalRule}
  {outer : List (List Node)}

theorem Written.atRule (h : Written nodes s) (hw : Writable nodes)
    (hhead : nodes.head?.all (!·.isText)) (hrest : AtRule rest) : AtRule (s ++ rest) := by
  cases h with
  | nil => exact hrest
  | text => exact absurd hhead Bool.false_ne_true
  | optional hchildren h =>
    cases hw with
    | optional hfields _ _ =>
      simp only [List.append_assoc]
      exact atRule_writeRule (by decide) (isField_of_mem_optionalFields hfields) _
  | «variable» horder h =>
    cases hw with
    | «variable» _ hfields _ _ _ =>
      rw [List.append_assoc]
      exact atRule_writeRule (by decide)
        (fun field hfield => isField_of_mem_variableFields hfields field (horder.subset hfield)) _

theorem Written.gives (h : Written nodes s) (hw : Writable nodes) (hrest : AtRule rest)
    (hgives : ∀ cursor, (readFrom openRules cursor rest).Gives (after :: outer)) (cursor : Cursor) :
    (readFrom openRules cursor (s ++ rest)).Gives ((nodes ++ after) :: outer) := by
  induction h generalizing openRules rest after outer cursor with
  | nil => exact hgives cursor
  | text h ih =>
    cases hw with
    | text hcontent hrules hnext hw =>
      rw [List.append_assoc]
      exact gives_text hcontent hrules (h.atRule hw hnext hrest) (ih hw hrest hgives) cursor
  | @optional name children nodes inner s hchildren h ihChildren ih =>
    cases hw with
    | optional hfields hwChildren hw =>
      simp only [List.append_assoc]
      refine gives_beginOptional (isField_of_mem_optionalFields hfields) (fun rule => ?_) cursor
      -- The region ends with no more nodes, at a rule.
      have hend : AtRule (writeRule "endOptional".toList [] ++ (s ++ rest)) :=
        atRule_writeRule (by decide) (List.forall_mem_nil IsField) _
      have hinner := ihChildren hwChildren hend
        (gives_endOptional rule (ih hw hrest hgives))
      rwa [List.append_nil] at hinner
  | «variable» horder h ih =>
    cases hw with
    | «variable» hname hfields hpattern hlong hw =>
      rw [List.append_assoc]
      exact gives_variable hname hpattern hlong horder
        (fun field hfield => isField_of_mem_variableFields hfields field (horder.subset hfield))
        (ih hw hrest hgives) cursor

end

theorem Writable.exists_written [Engine] {nodes : List Node} (hw : Writable nodes) :
    ∃ s, Written nodes s := by
  induction hw with
  | nil => exact ⟨_, .nil⟩
  | text _ _ _ _ ih =>
    obtain ⟨s, h⟩ := ih
    exact ⟨_, .text h⟩
  | optional _ _ _ ihChildren ih =>
    obtain ⟨inner, hchildren⟩ := ihChildren
    obtain ⟨s, h⟩ := ih
    exact ⟨_, .optional hchildren h⟩
  | «variable» _ _ _ _ _ ih =>
    obtain ⟨s, h⟩ := ih
    exact ⟨_, .variable (.refl _) h⟩

/-- Reading undoes writing, with the fields of each rule in any order. -/
theorem parseTree_of_written [Engine] {nodes : List Node} {s : List Char} (hw : Writable nodes)
    (h : Written nodes s) : parseTree s = .ok nodes := by
  have hend (cursor : Cursor) : (readFrom [] cursor []).Gives [[]] := by
    rw [readFrom, piecesFrom_end rfl]
    exact .finish
  have hgives : (read s).Gives [nodes] := by
    have hread := h.gives hw .nil hend {}
    rwa [List.append_nil, List.append_nil] at hread
  obtain ⟨herror, hrests⟩ := hgives
  obtain ⟨body, _, hevents, rfl, -⟩ := List.map_eq_cons_iff.1 hrests
  rw [parseTree_eq, Body.parse]
  rcases hread : read s with ⟨events, error⟩
  rw [hread] at herror hevents
  subst herror
  simp only [Except.map, hevents, List.headD_cons]

def markedNodes : List Node :=
  [.text "a <".toList,
    .optional (some "o\";".toList)
      [.text "<<x".toList,
        .variable "n".toList "[;\"=]+>>".toList "b >> c;\"\\\\".toList (some "=\n\\d".toList)],
    .text ">".toList]

def markedText : List Char :=
  "a <<<beginOptional;name=\"o\\\";\">><<x".toList ++
    "<<var;match=\"[;\\\"=]+>>\";example=\"=\n\\d\";".toList ++
    "original=\"b >> c;\\\"\\\\\";name=\"n\">><<endOptional>>>".toList

theorem parseTree_of_written_marks :
    Writable markedNodes ∧ Written markedNodes markedText ∧
      parseTree markedText = .ok markedNodes := by
  have hw : Writable markedNodes := by
    refine .text (by decide) (by decide) rfl (.optional (by decide) ?_
      (.text (by decide) (by decide) rfl .nil))
    exact .text (by decide) (by decide) rfl
      (.variable (by decide) (by decide) (by decide +kernel) (by decide) .nil)
  have h : Written markedNodes markedText := by
    have horder : [("match".toList, "[;\"=]+>>".toList), ("example".toList, "=\n\\d".toList),
        ("original".toList, "b >> c;\"\\\\".toList), ("name".toList, "n".toList)].Perm
          (variableFields "n".toList "[;\"=]+>>".toList "b >> c;\"\\\\".toList
            (some "=\n\\d".toList)) := by
      decide
    have hmarks : Written markedNodes _ :=
      .text (.optional (.text (.variable horder .nil)) (.text .nil))
    refine Eq.mp (congrArg (Written markedNodes) ?_) hmarks
    decide +kernel
  exact ⟨hw, h, parseTree_of_written hw h⟩

end Licensing.Template
