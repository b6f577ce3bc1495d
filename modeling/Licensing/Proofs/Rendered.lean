import Licensing.Proofs.Blank
import Licensing.Proofs.Fragments
import Licensing.Proofs.Interpretation
import Licensing.Proofs.Joints

namespace Licensing.Matching

open Licensing.Text Licensing.Template

/-- White space stands on one side at least of every joint between fragments that are not empty. -/
def WellSpaced (fragments : List Fragment) : Prop :=
  ((fragments.map (·.text)).filter (!·.isEmpty)).IsChain Apart

instance (fragments : List Fragment) : Decidable (WellSpaced fragments) :=
  inferInstanceAs (Decidable (List.IsChain _ _))

def documentOf (f : Folding) (fragments : List Fragment) : Document :=
  .ofText f (Fragment.join fragments)

def placeBehind (d : Document) (fragments : List Fragment) : Nat :=
  d.tokensUpTo (byteLength (Fragment.join fragments))

/-- Every variable accepts the tokens that stand where its default text does. -/
def AcceptsDefaults [Engine] (f : Folding) (d : Document) (fragments : List Fragment) : Prop :=
  ∀ before fragment after, fragments = before ++ fragment :: after → ∀ rule ∈ fragment.rule,
    acceptsSpan d rule (literal? f rule) (placeBehind d before)
      (placeBehind d (before ++ [fragment]))

theorem acceptsDefaults_iff [Engine] {f : Folding} {d : Document} {fragments : List Fragment} :
    AcceptsDefaults f d fragments ↔
      ∀ k (h : k < fragments.length), ∀ rule ∈ fragments[k].rule,
        acceptsSpan d rule (literal? f rule) (placeBehind d (fragments.take k))
          (placeBehind d (fragments.take (k + 1))) := by
  constructor
  · intro haccepts k hk rule hrule
    have hsplit : fragments = fragments.take k ++ fragments[k] :: fragments.drop (k + 1) := by
      rw [← List.drop_eq_getElem_cons hk, List.take_append_drop]
    rw [List.take_succ_eq_append_getElem hk]
    exact haccepts _ _ _ hsplit rule hrule
  · rintro haccepts before fragment after rfl rule hrule
    have hk : before.length < (before ++ fragment :: after).length := by simp
    have haccepts := haccepts before.length hk rule (by simpa using hrule)
    rwa [List.take_left, List.append_cons, List.take_left' (by simp)] at haccepts

instance [Engine] (f : Folding) (d : Document) (fragments : List Fragment) :
    Decidable (AcceptsDefaults f d fragments) :=
  decidable_of_iff _ acceptsDefaults_iff.symm

/-- Fragments that are tokenized one by one as they are together. -/
structure Tokenizable (fragments : List Fragment) : Prop where
  ascii : ∀ fragment ∈ fragments, ∀ c ∈ fragment.text, isAscii c
  spaced : WellSpaced fragments

def joinTokens (f : Folding) (fragments : List Fragment) : List String :=
  textTokens f (Fragment.join fragments)

theorem join_append (before after : List Fragment) :
    Fragment.join (before ++ after) = Fragment.join before ++ Fragment.join after :=
  List.flatMap_append

namespace Tokenizable

variable {f : Folding} {fragments before after : List Fragment} {fragment : Fragment}

theorem left (h : Tokenizable (before ++ after)) : Tokenizable before := by
  refine ⟨fun fragment hfragment => h.ascii fragment (List.mem_append_left after hfragment), ?_⟩
  have hspaced := h.spaced
  rw [WellSpaced, List.map_append, List.filter_append] at hspaced
  exact hspaced.left_of_append

theorem isAscii_join (h : Tokenizable fragments) (hsubset : before ⊆ fragments) :
    ∀ c ∈ Fragment.join before, isAscii c := by
  intro c hc
  obtain ⟨fragment, hfragment, hmem⟩ := List.mem_flatMap.1 hc
  exact h.ascii fragment (hsubset hfragment) c hmem

theorem apart (h : Tokenizable (before ++ after)) :
    Apart (Fragment.join before) (Fragment.join after) := by
  have hspaced := h.spaced
  rw [WellSpaced, List.map_append] at hspaced
  exact apart_flatten hspaced

theorem joinTokens_append (h : Tokenizable (before ++ after)) :
    joinTokens f (before ++ after) = joinTokens f before ++ joinTokens f after := by
  rw [joinTokens, join_append]
  exact map_text_tokenize_append (h.isAscii_join (List.subset_append_left _ _))
    (h.isAscii_join (List.subset_append_right _ _)) h.apart

theorem placeBehind_eq (h : Tokenizable (before ++ after))
    (hstrip : stripComments (Fragment.join (before ++ after)) = Fragment.join (before ++ after)) :
    placeBehind (documentOf f (before ++ after)) before = (joinTokens f before).length := by
  rw [placeBehind, documentOf]
  rw [join_append] at hstrip ⊢
  rw [joinTokens, textTokens, List.length_map]
  exact Document.tokensUpTo_append (h.isAscii_join (List.subset_append_left _ _))
    (h.isAscii_join (List.subset_append_right _ _)) h.apart hstrip

end Tokenizable

section

variable {f : Folding} {d : Document} {template text : List Char}

theorem spells_of_map_text {front texts back : List String}
    (h : d.tokens.toList.map (·.text) = front ++ texts ++ back) :
    Spells d front.length (front ++ texts).length texts := by
  refine ⟨List.length_append, fun k hk => ?_⟩
  have htext (i : Nat) : d.text? i = (front ++ texts ++ back)[i]? := by
    rw [← Document.getElem?_texts, Document.texts, h]
  rw [htext, List.append_assoc, List.getElem?_append_right (Nat.le_add_right _ _),
    Nat.add_sub_cancel_left, List.getElem?_append_left hk, List.getElem?_eq_getElem hk]

theorem map_text_ofText (hstrip : stripComments text = text) :
    (Document.ofText f text).tokens.toList.map (·.text) = textTokens f text := by
  rw [Document.ofText, hstrip]
  rfl

end

section

variable {f : Folding} {all before after : List Fragment} {fragment : Fragment}

theorem Tokenizable.spells (h : Tokenizable all)
    (hstrip : stripComments (Fragment.join all) = Fragment.join all)
    (hall : all = before ++ fragment :: after) :
    Spells (documentOf f all) (placeBehind (documentOf f all) before)
      (placeBehind (documentOf f all) (before ++ [fragment])) (textTokens f fragment.text) := by
  have hall' : all = (before ++ [fragment]) ++ after := by simp [hall]
  have hcut : Tokenizable ((before ++ [fragment]) ++ after) := hall' ▸ h
  have hsplit : joinTokens f (before ++ [fragment]) =
      joinTokens f before ++ textTokens f fragment.text := by
    rw [hcut.left.joinTokens_append]
    simp [joinTokens, Fragment.join]
  have htexts : (documentOf f all).tokens.toList.map (·.text) =
      joinTokens f before ++ textTokens f fragment.text ++ joinTokens f after := by
    rw [documentOf, map_text_ofText hstrip, ← hsplit, ← hcut.joinTokens_append, ← hall']
    rfl
  have hstart : placeBehind (documentOf f all) before = (joinTokens f before).length := by
    subst hall
    exact h.placeBehind_eq hstrip
  have hstop : placeBehind (documentOf f all) (before ++ [fragment]) =
      (joinTokens f before ++ textTokens f fragment.text).length := by
    subst hall'
    rw [h.placeBehind_eq hstrip, hsplit]
  rw [hstart, hstop]
  exact spells_of_map_text htexts

/-- A body derives its fragments where they stand, with every optional region taken. -/
theorem Tokenizable.derives [Engine] (h : Tokenizable all)
    (hstrip : stripComments (Fragment.join all) = Fragment.join all)
    (haccepts : AcceptsDefaults f (documentOf f all) all) {body : Body}
    (hall : all = before ++ body.fragments ++ after) :
    Derives f (documentOf f all) body (placeBehind (documentOf f all) before)
      (placeBehind (documentOf f all) (before ++ body.fragments)) := by
  induction body generalizing before after with
  | done =>
    rw [Body.fragments, List.append_nil]
    exact .done _
  | text content rest ih =>
    rw [Body.fragments, List.append_cons] at hall ⊢
    have hfragment : all = before ++ ⟨content, none⟩ :: (rest.fragments ++ after) := by
      rw [hall]
      simp
    exact .text (h.spells hstrip hfragment) (ih hall)
  | optional rule inner rest ihInner ihRest =>
    rw [Body.fragments, ← List.append_assoc] at hall ⊢
    have hinner : all = before ++ inner.fragments ++ (rest.fragments ++ after) := by
      rw [hall, List.append_assoc]
    exact .taken (ihInner hinner) (ihRest hall)
  | «variable» rule rest ih =>
    rw [Body.fragments, List.append_cons] at hall ⊢
    have hfragment :
        all = before ++ ⟨rule.defaultText, some rule⟩ :: (rest.fragments ++ after) := by
      rw [hall]
      simp
    have hspells := h.spells (f := f) hstrip hfragment
    have hsize := hspells.le_size (List.countP_le_length ..)
    exact .variable hsize.1 hsize.2 (haccepts _ _ _ hfragment rule rfl) (ih hall)

theorem Tokenizable.derives_all [Engine] {body : Body} (h : Tokenizable body.fragments)
    (hstrip : stripComments (Fragment.join body.fragments) = Fragment.join body.fragments)
    (haccepts : AcceptsDefaults f (documentOf f body.fragments) body.fragments) :
    Derives f (documentOf f body.fragments) body 0 (documentOf f body.fragments).size := by
  have hstart : placeBehind (documentOf f ([] ++ body.fragments)) [] = (joinTokens f []).length :=
    placeBehind_eq h hstrip
  have hempty : joinTokens f [] = [] := by
    have hnone : tokenize f [] = [] := tokenize_of_isBlank rfl
    exact congrArg (List.map (·.text)) hnone
  have hstop : placeBehind (documentOf f body.fragments) body.fragments =
      (documentOf f body.fragments).size := by
    have hsize := congrArg List.length (map_text_ofText (f := f) hstrip)
    rw [List.length_map, Array.length_toList] at hsize
    rw [← List.append_nil body.fragments] at h hstrip
    have hplace := h.placeBehind_eq (f := f) hstrip
    rw [List.append_nil] at hplace
    exact hplace.trans hsize.symm
  have hall : body.fragments = [] ++ body.fragments ++ [] := by simp
  have hderives := h.derives hstrip haccepts hall
  rw [hempty, List.nil_append] at hstart
  rwa [List.nil_append, hstart, hstop] at hderives

end

/-- A template matches the text it was written from, if its variables accept their defaults. -/
theorem compare_plainText [Engine] (m : Matcher) (template : List Char)
    (hascii : ∀ c ∈ template, isAscii c) (hcompile : (m.compile template).isOk)
    (hstrip : stripComments template = template) (hspaced : WellSpaced (fragments template)) :
    ∃ text, plainText template = .ok text ∧
      (stripComments text = text →
        AcceptsDefaults m.settings.folding (m.prepare text) (fragments template) →
        ∃ difference, m.compare template text = .ok difference ∧ difference.found = false) := by
  obtain ⟨body, hparse, -, hprogram⟩ := Matcher.compile_isOk hcompile
  rw [hstrip] at hparse
  have hfragments : fragments template = body.fragments := Body.parse_fragments hparse
  have htext : plainText template = .ok (Fragment.join (fragments template)) := by
    rw [plainText_eq, hparse]
    rfl
  refine ⟨_, htext, fun hstrip' haccepts => ?_⟩
  have htokenizable : Tokenizable (fragments template) :=
    ⟨fun fragment hfragment c hc => hascii c (fragments_subset template fragment hfragment hc),
      hspaced⟩
  rw [hfragments] at htokenizable hstrip' haccepts
  have hderives := htokenizable.derives_all hstrip' haccepts
  refine ⟨_, by rw [Matcher.compare, hprogram], ?_⟩
  rw [Matcher.comparePrepared, compareWith_found, exactOutcome_isMatch, hfragments]
  exact hderives

theorem compare_plainText_compound :
    let m : Matcher := {}
    let template := "non <<beginOptional>>x <<endOptional>>commercial ".toList ++
      "email <<var;name=v;original=licence;match=y>>".toList
    let text := "non x commercial email licence".toList
    (m.compile template).isOk ∧ WellSpaced (fragments template) ∧ plainText template = .ok text ∧
      AcceptsDefaults m.settings.folding (m.prepare text) (fragments template) ∧
      ∃ difference, m.compare template text = .ok difference ∧ difference.found = false := by
  intro m template text
  have hascii : template.all isAscii := by decide +kernel
  have hcompile : (m.compile template).isOk := by decide +kernel
  have hspaced : WellSpaced (fragments template) := by decide +kernel
  have htext : plainText template = .ok text := by decide +kernel
  have haccepts : AcceptsDefaults m.settings.folding (m.prepare text) (fragments template) := by
    decide +kernel
  obtain ⟨text', htext', hcompare⟩ := compare_plainText m template (List.all_eq_true.1 hascii)
    hcompile (by decide +kernel) hspaced
  obtain rfl : text = text' := Except.ok.inj (htext.symm.trans htext')
  exact ⟨hcompile, hspaced, htext, haccepts, hcompare (by decide +kernel) haccepts⟩

end Licensing.Matching
