import Licensing.Proofs.Equivalence
import Licensing.Text.Whitespace

namespace Licensing.Expression

open Licensing.Text

/-- Words with a meaning of their own in the text of an expression. -/
def reservedWords : List String :=
  ["AND", "OR", "WITH", "NOASSERTION", "NONE"]

def isWordChar (c : Char) : Bool :=
  !isWhitespace c && !(['(', ')', '+'].contains c)

def isIdentifier (id : String) : Bool :=
  !id.isEmpty && id.toList.all isWordChar && !reservedWords.contains id

mutual

/-- All identifiers are words with no other meaning, and all sets have two members or more. -/
def isProper : Expression → Bool
  | simple id => isIdentifier id
  | custom id => isIdentifier id
  | conjunctive members => 2 ≤ members.length && areProper members
  | disjunctive members => 2 ≤ members.length && areProper members
  | noAssertion => true
  | none => true
  | withException license exception => license.isProper && isIdentifier exception
  | orLater license => license.isProper

def areProper : List Expression → Bool
  | [] => true
  | e :: rest => e.isProper && areProper rest

end

mutual

/-- An expression with all its licenses taken for licenses of the standard list. -/
def forgetCustom : Expression → Expression
  | custom id => simple id
  | conjunctive members => conjunctive (membersForgetCustom members)
  | disjunctive members => disjunctive (membersForgetCustom members)
  | withException license exception => withException license.forgetCustom exception
  | orLater license => orLater license.forgetCustom
  | e => e

def membersForgetCustom : List Expression → List Expression
  | [] => []
  | e :: rest => e.forgetCustom :: membersForgetCustom rest

end

def operand (e : Expression) : List Char :=
  (e.parenthesize e.text).toList

def separators : List (List Char) :=
  [" AND ".toList, " OR ".toList]

def leading (separator : List Char) (members : List Expression) : List Char :=
  members.flatMap fun e => e.operand ++ separator

/-- What can stand in front of an operand that is not part of a longer one. -/
inductive Front : List Char → Prop
  | start : Front []
  | opened (before : List Char) : Front (before ++ ['('])
  | behind (before : List Char) {separator : List Char} (h : separator ∈ separators) :
      Front (before ++ separator)

/-- The members of a set, and what stands between them in its text. -/
inductive Joins : Expression → List Char → List Expression → Prop
  | conjunctive (members : List Expression) : Joins (conjunctive members) " AND ".toList members
  | disjunctive (members : List Expression) : Joins (disjunctive members) " OR ".toList members

def isWord : Expression → Bool
  | simple _ | custom _ | noAssertion | none => true
  | _ => false

def endMark : Expression → Option Char
  | conjunctive _ | disjunctive _ => some ')'
  | orLater _ => some '+'
  | _ => Option.none

def ofWord (word : String) : Expression :=
  if word = "NOASSERTION" then noAssertion else if word = "NONE" then none else simple word

section

variable {a b e : Expression} {as bs members : List Expression}
  {front front' separator separator' s s' word word' : List Char} {id : String}

theorem areProper_eq_all : areProper members = members.all isProper := by
  induction members with
  | nil => rfl
  | cons e rest ih => rw [areProper, ih, List.all_cons]

theorem membersForgetCustom_eq_map :
    membersForgetCustom members = members.map forgetCustom := by
  induction members with
  | nil => rfl
  | cons e rest ih => rw [membersForgetCustom, ih, List.map_cons]

theorem operandTexts_eq_map :
    operandTexts members = members.map fun e => e.parenthesize e.text := by
  induction members with
  | nil => rfl
  | cons e rest ih => rw [operandTexts, ih, List.map_cons]

theorem operand_of_isSet_eq_false (h : e.isSet = false) : e.operand = e.text.toList := by
  cases e with
  | conjunctive | disjunctive => cases h
  | _ => rfl

theorem operand_withException (license : Expression) (exception : String) :
    (withException license exception).operand =
      license.operand ++ " WITH ".toList ++ exception.toList := by
  rw [operand_of_isSet_eq_false rfl, text, String.toList_append, String.toList_append]
  rfl

theorem operand_orLater (license : Expression) :
    (orLater license).operand = license.operand ++ ['+'] := by
  rw [operand_of_isSet_eq_false rfl, text, String.toList_append]
  rfl

namespace Joins

theorem mem_separators (h : Joins e separator members) : separator ∈ separators := by
  cases h with
  | conjunctive => exact List.mem_cons_self
  | disjunctive => exact List.mem_cons_of_mem _ List.mem_cons_self

theorem text (h : Joins e separator members) :
    e.text.toList = separator.intercalate (members.map operand) := by
  cases h with
  | conjunctive | disjunctive =>
    rw [Expression.text, String.toList_intercalate, operandTexts_eq_map, List.map_map]
    rfl

theorem proper (h : Joins e separator members) (he : e.isProper) :
    2 ≤ members.length ∧ ∀ member ∈ members, member.isProper := by
  cases h with
  | conjunctive | disjunctive =>
    rwa [isProper, areProper_eq_all, Bool.and_eq_true, decide_eq_true_eq, List.all_eq_true] at he

theorem operand (h : Joins e separator members) (hlength : 2 ≤ members.length) :
    e.operand = '(' :: e.text.toList ++ [')'] := by
  cases h with
  | conjunctive | disjunctive =>
    simp [Expression.operand, parenthesize, needsParentheses, Nat.lt_of_succ_le hlength]

theorem forgetCustom_eq (ha : Joins a separator as) (hb : Joins b separator bs)
    (h : as.map forgetCustom = bs.map forgetCustom) : a.forgetCustom = b.forgetCustom := by
  cases ha with
  | conjunctive =>
    cases hb with
    | conjunctive => simp [forgetCustom, membersForgetCustom_eq_map, h]
  | disjunctive =>
    cases hb with
    | disjunctive => simp [forgetCustom, membersForgetCustom_eq_map, h]

end Joins

theorem exists_joins (h : e.isSet) : ∃ separator members, Joins e separator members := by
  cases e with
  | conjunctive members => exact ⟨_, _, .conjunctive members⟩
  | disjunctive members => exact ⟨_, _, .disjunctive members⟩
  | _ => cases h

theorem isIdentifier_iff :
    isIdentifier id ↔ (id.toList ≠ [] ∧ ∀ c ∈ id.toList, isWordChar c) ∧ id ∉ reservedWords := by
  simp [isIdentifier]

theorem append_word_inj (hs : ∀ c ∈ s.getLast?, isWordChar c = false)
    (hs' : ∀ c ∈ s'.getLast?, isWordChar c = false) (hword : ∀ c ∈ word, isWordChar c)
    (hword' : ∀ c ∈ word', isWordChar c) (h : s ++ word = s' ++ word') : s = s' ∧ word = word' := by
  have hnil {s t word : List Char} (hs : ∀ c ∈ (s ++ t).getLast?, isWordChar c = false)
      (hword : ∀ c ∈ t ++ word, isWordChar c) : t = [] := by
    rcases List.eq_nil_or_concat t with rfl | ⟨t, c, rfl⟩
    · rfl
    · have hc : isWordChar c = false := hs c (by simp)
      rw [hword c (by simp)] at hc
      cases hc
  rcases List.append_eq_append_iff.1 h with ⟨t, rfl, rfl⟩ | ⟨t, rfl, rfl⟩
  · obtain rfl := hnil hs' hword
    simp
  · obtain rfl := hnil hs hword'
    simp

theorem Front.isWordChar_eq_false (h : Front front) :
    ∀ c ∈ front.getLast?, isWordChar c = false := by
  cases h with
  | start => simp
  | opened before => simp [isWordChar]
  | behind before h =>
    have hblank : ∀ separator ∈ separators, separator.getLast? = some ' ' := by decide
    rw [List.getLast?_append, hblank _ h]
    simp [isWordChar, isWhitespace]

theorem Front.ne_append_with (h : Front front) (s : List Char) : front ≠ s ++ " WITH ".toList := by
  intro heq
  have hreverse := congrArg List.reverse heq
  cases h with
  | start => simp at hreverse
  | opened before => simp at hreverse
  | behind before h =>
    simp only [separators, List.mem_cons, List.not_mem_nil, or_false] at h
    rcases h with rfl | rfl <;> simp at hreverse

/-- The last character of an operand tells a set, a version mark and a word apart. -/
theorem exists_operand_eq (he : e.isProper) :
    ∃ before c, e.operand = before ++ [c] ∧
      e.endMark = if isWordChar c then Option.none else some c := by
  have hword {id : String} (h : id.toList ≠ [] ∧ ∀ c ∈ id.toList, isWordChar c) :
      ∃ before c, id.toList = before ++ [c] ∧ isWordChar c := by
    obtain ⟨hne, hchars⟩ := h
    exact ⟨_, _, (List.dropLast_append_getLast hne).symm, hchars _ (List.getLast_mem hne)⟩
  have hset (h : e.isSet) : ∃ before, e.operand = before ++ [')'] := by
    obtain ⟨separator, members, hjoins⟩ := exists_joins h
    exact ⟨_, hjoins.operand (hjoins.proper he).1⟩
  cases e with
  | conjunctive | disjunctive =>
    obtain ⟨before, hbefore⟩ := hset rfl
    exact ⟨before, ')', hbefore, rfl⟩
  | simple | custom =>
    obtain ⟨before, c, hbefore, hc⟩ := hword (isIdentifier_iff.1 he).1
    exact ⟨before, c, hbefore, by rw [hc]; rfl⟩
  | noAssertion => exact ⟨"NOASSERTIO".toList, 'N', rfl, rfl⟩
  | none => exact ⟨"NON".toList, 'E', rfl, rfl⟩
  | withException license exception =>
    rw [isProper, Bool.and_eq_true] at he
    obtain ⟨before, c, hbefore, hc⟩ := hword (isIdentifier_iff.1 he.2).1
    refine ⟨license.operand ++ " WITH ".toList ++ before, c, ?_, by rw [hc]; rfl⟩
    rw [operand_withException, hbefore, List.append_assoc _ before]
  | orLater license => exact ⟨license.operand, '+', operand_orLater license, rfl⟩

theorem endMark_eq (ha : a.isProper) (hb : b.isProper)
    (h : s ++ a.operand = s' ++ b.operand) : a.endMark = b.endMark := by
  obtain ⟨before, c, hbefore, hc⟩ := exists_operand_eq ha
  obtain ⟨before', c', hbefore', hc'⟩ := exists_operand_eq hb
  rw [hbefore, hbefore', ← List.append_assoc, ← List.append_assoc] at h
  have hlast : c = c' := by simpa using congrArg List.getLast? h
  rw [hc, hc', hlast]

theorem forgetCustom_of_isWord (he : e.isProper) (h : e.isWord) :
    e.forgetCustom = ofWord e.text ∧ ∀ c ∈ e.operand, isWordChar c := by
  have hword {id : String} (h : isIdentifier id) :
      simple id = ofWord id ∧ ∀ c ∈ id.toList, isWordChar c := by
    obtain ⟨⟨-, hchars⟩, hreserved⟩ := isIdentifier_iff.1 h
    have hne : id ≠ "NOASSERTION" ∧ id ≠ "NONE" := by
      constructor <;> rintro rfl <;> exact hreserved (by decide)
    rw [ofWord, if_neg hne.1, if_neg hne.2]
    exact ⟨rfl, hchars⟩
  cases e with
  | simple | custom => exact hword he
  | noAssertion | none => exact ⟨rfl, List.all_eq_true.1 (by decide +kernel)⟩
  | conjunctive | disjunctive | withException | orLater => cases h

/-- The texts in front are equal, and the operands are the same but for the kinds of licenses. -/
def Cancels (a : Expression) : Prop :=
  ∀ ⦃b : Expression⦄ ⦃front front' : List Char⦄, b.isProper → Front front → Front front' →
    front ++ a.operand = front' ++ b.operand → a.forgetCustom = b.forgetCustom ∧ front = front'

theorem isWordChar_of_isIdentifier (h : isIdentifier id) : ∀ c ∈ id.toList, isWordChar c :=
  (isIdentifier_iff.1 h).1.2

theorem word_ne_withException {license : Expression} {exception : String} (he : e.isProper)
    (hword : e.isWord) (hexception : isIdentifier exception) (hfront : Front front) :
    front ++ e.operand ≠ s ++ (withException license exception).operand := by
  intro h
  rw [operand_withException, ← List.append_assoc, ← List.append_assoc] at h
  have hwith : ∀ c ∈ (s ++ license.operand ++ " WITH ".toList).getLast?, isWordChar c = false := by
    simp [isWordChar, isWhitespace]
  have hcut := append_word_inj hfront.isWordChar_eq_false hwith
    (forgetCustom_of_isWord he hword).2 (isWordChar_of_isIdentifier hexception) h
  exact hfront.ne_append_with _ hcut.1

theorem cancels_word (ha : a.isProper) (hword : a.isWord) : Cancels a := by
  intro b front front' hb hfront hfront' h
  have hmark := endMark_eq ha hb h
  have hnone : a.endMark = Option.none := by
    cases a with
    | simple | custom | noAssertion | none => rfl
    | _ => cases hword
  have hwords (hword' : b.isWord) : a.forgetCustom = b.forgetCustom ∧ front = front' := by
    obtain ⟨hforget, hchars⟩ := forgetCustom_of_isWord ha hword
    obtain ⟨hforget', hchars'⟩ := forgetCustom_of_isWord hb hword'
    obtain ⟨rfl, hoperand⟩ := append_word_inj hfront.isWordChar_eq_false
      hfront'.isWordChar_eq_false hchars hchars' h
    have hset {e : Expression} (h : e.isWord) : e.isSet = false := by
      cases e with
      | conjunctive | disjunctive => cases h
      | _ => rfl
    rw [operand_of_isSet_eq_false (hset hword), operand_of_isSet_eq_false (hset hword'),
      String.toList_inj] at hoperand
    rw [hforget, hforget', hoperand]
    exact ⟨rfl, rfl⟩
  rw [hnone] at hmark
  cases b with
  | simple | custom | noAssertion | none => exact hwords rfl
  | conjunctive | disjunctive | orLater => cases hmark
  | withException license exception =>
    rw [isProper, Bool.and_eq_true] at hb
    exact absurd h (word_ne_withException ha hword hb.2 hfront)

theorem cancels_withException {license : Expression} {exception : String}
    (ha : (withException license exception).isProper) (ih : Cancels license) :
    Cancels (withException license exception) := by
  intro b front front' hb hfront hfront' h
  have hmark := endMark_eq ha hb h
  rw [isProper, Bool.and_eq_true] at ha
  have hword (hword : b.isWord) : False :=
    word_ne_withException hb hword ha.2 hfront' h.symm
  cases b with
  | simple | custom | noAssertion | none => exact absurd rfl hword
  | conjunctive | disjunctive | orLater => cases hmark
  | withException license' exception' =>
    rw [isProper, Bool.and_eq_true] at hb
    rw [operand_withException, operand_withException, ← List.append_assoc, ← List.append_assoc,
      ← List.append_assoc, ← List.append_assoc] at h
    have hwith (s : List Char) :
        ∀ c ∈ (s ++ " WITH ".toList).getLast?, isWordChar c = false := by
      simp [isWordChar, isWhitespace]
    obtain ⟨hfronts, hexception⟩ := append_word_inj (hwith _) (hwith _)
      (isWordChar_of_isIdentifier ha.2) (isWordChar_of_isIdentifier hb.2) h
    obtain ⟨hlicense, rfl⟩ := ih hb.1 hfront hfront' (List.append_cancel_right hfronts)
    rw [forgetCustom, forgetCustom, hlicense, String.toList_inj.1 hexception]
    exact ⟨rfl, rfl⟩

theorem cancels_orLater {license : Expression} (ha : license.isProper) (ih : Cancels license) :
    Cancels (orLater license) := by
  intro b front front' hb hfront hfront' h
  have hmark := endMark_eq (a := orLater license) ha hb h
  cases b with
  | orLater license' =>
    rw [operand_orLater, operand_orLater, ← List.append_assoc, ← List.append_assoc] at h
    have hb : license'.isProper := hb
    obtain ⟨hlicense, rfl⟩ := ih hb hfront hfront' (List.append_cancel_right h)
    rw [forgetCustom, forgetCustom, hlicense]
    exact ⟨rfl, rfl⟩
  | _ => cases hmark

theorem intercalate_operands (separator : List Char) (members : List Expression)
    (e : Expression) :
    separator.intercalate ((members ++ [e]).map operand) =
      leading separator members ++ e.operand := by
  induction members with
  | nil => simp [leading]
  | cons first rest ih =>
    rw [List.cons_append, List.map_cons, List.intercalate_cons_of_ne_nil (by simp), ih, leading,
      leading, List.flatMap_cons, List.append_assoc _ _ e.operand]

theorem leading_nil (separator : List Char) : leading separator [] = [] :=
  rfl

theorem leading_concat (separator : List Char) (members : List Expression) (e : Expression) :
    leading separator (members ++ [e]) = leading separator members ++ e.operand ++ separator := by
  simp [leading]

theorem front_leading (h : separator ∈ separators) (hfront : Front front)
    (members : List Expression) : Front (front ++ leading separator members) := by
  rcases List.eq_nil_or_concat' members with rfl | ⟨members, e, rfl⟩
  · rwa [leading_nil, List.append_nil]
  · rw [leading_concat, ← List.append_assoc]
    exact .behind _ h

theorem separator_inj (h : separator ∈ separators) (h' : separator' ∈ separators)
    (heq : s ++ separator = s' ++ separator') : s = s' ∧ separator = separator' := by
  have hreverse := congrArg List.reverse heq
  simp only [separators, List.mem_cons, List.not_mem_nil, or_false] at h h'
  rcases h with rfl | rfl <;> rcases h' with rfl | rfl
  · exact ⟨List.append_cancel_right heq, rfl⟩
  · simp at hreverse
  · simp at hreverse
  · exact ⟨List.append_cancel_right heq, rfl⟩

theorem leading_inj (hseparator : separator ∈ separators) (hseparator' : separator' ∈ separators)
    (has : ∀ a ∈ as, Cancels a) (hbs : ∀ b ∈ bs, b.isProper)
    (h : s ++ ['('] ++ leading separator as = s' ++ ['('] ++ leading separator' bs) :
    as.map forgetCustom = bs.map forgetCustom ∧ s = s' ∧ (as ≠ [] → separator = separator') := by
  -- The parenthesis is reached on both sides at once, or else a separator would end in it.
  have hopened {separator s t : List Char} (hseparator : separator ∈ separators) :
      s ++ ['('] ≠ t ++ separator := by
    intro h
    simp only [separators, List.mem_cons, List.not_mem_nil, or_false] at hseparator
    rcases hseparator with rfl | rfl <;> simpa using congrArg List.getLast? h
  induction as using List.reverseRecOn generalizing bs with
  | nil =>
    rcases List.eq_nil_or_concat' bs with rfl | ⟨bs, b, rfl⟩
    · rw [leading_nil, leading_nil, List.append_nil, List.append_nil] at h
      exact ⟨rfl, List.append_cancel_right h, absurd rfl⟩
    · rw [leading_concat, leading_nil, List.append_nil, ← List.append_assoc] at h
      exact absurd h (hopened hseparator')
  | append_singleton as a ih =>
    rcases List.eq_nil_or_concat' bs with rfl | ⟨bs, b, rfl⟩
    · rw [leading_concat, leading_nil, List.append_nil, ← List.append_assoc] at h
      exact absurd h.symm (hopened hseparator)
    · rw [leading_concat, leading_concat, ← List.append_assoc, ← List.append_assoc,
        ← List.append_assoc, ← List.append_assoc] at h
      obtain ⟨hoperands, hsame⟩ := separator_inj hseparator hseparator' h
      obtain ⟨hlast, hfronts⟩ := has a (by simp) (hbs b (by simp))
        (front_leading hseparator (.opened s) as) (front_leading hseparator' (.opened s') bs)
        hoperands
      obtain ⟨hrest, hs, -⟩ := ih (fun a ha => has a (by simp [ha]))
        (fun b hb => hbs b (by simp [hb])) hfronts
      rw [List.map_append, List.map_append, hrest, List.map_singleton, List.map_singleton, hlast]
      exact ⟨rfl, hs, fun _ => hsame⟩

theorem exists_eq_concat (h : 2 ≤ members.length) :
    ∃ others last, members = others ++ [last] ∧ others ≠ [] := by
  rcases List.eq_nil_or_concat' members with rfl | ⟨others, last, rfl⟩
  · cases h
  · refine ⟨others, last, rfl, ?_⟩
    rintro rfl
    cases Nat.le_of_succ_le_succ h

theorem cancels_set (hjoins : Joins a separator as) (ha : a.isProper)
    (ih : ∀ e ∈ as, Cancels e) : Cancels a := by
  intro b front front' hb hfront hfront' h
  have hmark := endMark_eq ha hb h
  have hset : b.isSet := by
    have hend : a.endMark = some ')' := by
      cases hjoins with
      | conjunctive | disjunctive => rfl
    rw [hend] at hmark
    cases b with
    | conjunctive | disjunctive => rfl
    | _ => cases hmark
  obtain ⟨separator', bs, hjoins'⟩ := exists_joins hset
  obtain ⟨hlength, -⟩ := hjoins.proper ha
  obtain ⟨hlength', hbs⟩ := hjoins'.proper hb
  rw [hjoins.operand hlength, hjoins'.operand hlength', hjoins.text, hjoins'.text] at h
  obtain ⟨as, last, rfl, hne⟩ := exists_eq_concat hlength
  obtain ⟨bs, last', rfl, -⟩ := exists_eq_concat hlength'
  rw [intercalate_operands, intercalate_operands] at h
  have hmembers : front ++ ['('] ++ leading separator as ++ last.operand =
      front' ++ ['('] ++ leading separator' bs ++ last'.operand := by
    rw [← List.append_left_inj [')']]
    simpa using h
  obtain ⟨hlast, hfronts⟩ := ih last (by simp) (hbs last' (by simp))
    (front_leading hjoins.mem_separators (.opened front) as)
    (front_leading hjoins'.mem_separators (.opened front') bs) hmembers
  obtain ⟨hothers, hfront, hsame⟩ := leading_inj hjoins.mem_separators hjoins'.mem_separators
    (fun e he => ih e (by simp [he])) (fun e he => hbs e (by simp [he])) hfronts
  obtain rfl := hsame hne
  refine ⟨hjoins.forgetCustom_eq hjoins' ?_, hfront⟩
  rw [List.map_append, List.map_append, hothers, List.map_singleton, List.map_singleton, hlast]

theorem cancels (ha : a.isProper) : Cancels a := by
  induction a using memberInduction with
  | conjunctive members ih =>
    have hjoins := Joins.conjunctive members
    exact cancels_set hjoins ha fun e he => ih e he ((hjoins.proper ha).2 e he)
  | disjunctive members ih =>
    have hjoins := Joins.disjunctive members
    exact cancels_set hjoins ha fun e he => ih e he ((hjoins.proper ha).2 e he)
  | withException license exception ih =>
    have hparts := ha
    rw [isProper, Bool.and_eq_true] at hparts
    exact cancels_withException ha (ih hparts.1)
  | orLater license ih => exact cancels_orLater ha (ih ha)
  | simple | custom | noAssertion | none => exact cancels_word ha rfl

theorem text_set_ne_operand (hjoins : Joins a separator as) (ha : a.isProper) (hb : b.isProper) :
    a.text.toList ≠ b.operand := by
  intro h
  obtain ⟨hlength, has⟩ := hjoins.proper ha
  obtain ⟨as, last, rfl, hne⟩ := exists_eq_concat hlength
  rw [hjoins.text, intercalate_operands] at h
  have hlast : last.isProper := has last (by simp)
  have hfront := front_leading hjoins.mem_separators .start as
  obtain ⟨-, hnil⟩ := cancels hlast hb hfront .start h
  obtain ⟨others, e, rfl⟩ := (List.eq_nil_or_concat' as).resolve_left hne
  rw [List.nil_append, leading_concat] at hnil
  have hseparator : separator = [] := (List.append_eq_nil_iff.1 hnil).2
  have hmem := hjoins.mem_separators
  rw [hseparator] at hmem
  exact absurd hmem (by decide)

theorem operand_eq_of_text_eq (ha : a.isProper) (hb : b.isProper) (h : a.text = b.text) :
    a.operand = b.operand := by
  cases hset : a.isSet with
  | false =>
    cases hset' : b.isSet with
    | false => rw [operand_of_isSet_eq_false hset, operand_of_isSet_eq_false hset', h]
    | true =>
      obtain ⟨separator, members, hjoins⟩ := exists_joins hset'
      refine absurd ?_ (text_set_ne_operand hjoins hb ha)
      rw [operand_of_isSet_eq_false hset, h]
  | true =>
    obtain ⟨separator, members, hjoins⟩ := exists_joins hset
    cases hset' : b.isSet with
    | false =>
      refine absurd ?_ (text_set_ne_operand hjoins ha hb)
      rw [operand_of_isSet_eq_false hset', h]
    | true =>
      obtain ⟨separator', members', hjoins'⟩ := exists_joins hset'
      rw [hjoins.operand (hjoins.proper ha).1, hjoins'.operand (hjoins'.proper hb).1, h]

theorem text_forgetCustom (e : Expression) : e.forgetCustom.text = e.text := by
  have hoperand {e : Expression} (h : e.forgetCustom.text = e.text) :
      e.forgetCustom.parenthesize e.forgetCustom.text = e.parenthesize e.text := by
    have hparentheses : e.forgetCustom.needsParentheses = e.needsParentheses := by
      cases e <;> simp [forgetCustom, needsParentheses, membersForgetCustom_eq_map]
    rw [parenthesize, parenthesize, hparentheses, h]
  have hmembers {members : List Expression}
      (ih : ∀ e ∈ members, e.forgetCustom.text = e.text) :
      operandTexts (membersForgetCustom members) = operandTexts members := by
    rw [operandTexts_eq_map, operandTexts_eq_map, membersForgetCustom_eq_map, List.map_map]
    exact List.map_congr_left fun e he => hoperand (ih e he)
  induction e using memberInduction with
  | conjunctive members ih => rw [forgetCustom, text, text, hmembers ih]
  | disjunctive members ih => rw [forgetCustom, text, text, hmembers ih]
  | withException license exception ih => rw [forgetCustom, text, text, hoperand ih]
  | orLater license ih => rw [forgetCustom, text, text, hoperand ih]
  | simple | custom | noAssertion | none => rfl

end

/-- Proper expressions have the same text exactly if they are the same but for license kinds. -/
theorem text_eq_iff_forgetCustom_eq (a b : Expression) (ha : a.isProper) (hb : b.isProper) :
    a.text = b.text ↔ a.forgetCustom = b.forgetCustom := by
  constructor
  · intro h
    have hoperand := operand_eq_of_text_eq ha hb h
    exact (cancels ha hb .start .start (congrArg ([] ++ ·) hoperand)).1
  · intro h
    rw [← text_forgetCustom a, h, text_forgetCustom]

theorem text_eq_iff_forgetCustom_eq_both_kinds :
    let a : Expression := .orLater (.withException
      (.conjunctive [.custom "A", .disjunctive [.simple "B", .none], .orLater (.custom "C")]) "X")
    let b : Expression := .orLater (.withException
      (.conjunctive [.simple "A", .disjunctive [.custom "B", .none], .orLater (.custom "C")]) "X")
    (a.isProper ∧ b.isProper) ∧ a.text = "(A AND (B OR NONE) AND C+) WITH X+" ∧
      (a.text = b.text ↔ a.forgetCustom = b.forgetCustom) := by
  intro a b
  have ha : a.isProper := by decide +kernel
  have hb : b.isProper := by decide +kernel
  exact ⟨⟨ha, hb⟩, by decide +kernel, text_eq_iff_forgetCustom_eq a b ha hb⟩

end Licensing.Expression
