import Licensing.Matching.Matcher
import Licensing.Proofs.Failure
import Licensing.Proofs.Interpretation
import Licensing.Proofs.Represented
import Mathlib.Order.Bounds.Basic

namespace Licensing.Template

def Body.isFixed : Body → Bool
  | .done => true
  | .text _ rest => rest.isFixed
  | .optional _ inner rest => inner.isFixed && rest.isFixed
  | .variable _ _ => false

theorem Body.isFixed_append (body behind : Body) :
    (body.append behind).isFixed = (body.isFixed && behind.isFixed) := by
  induction body with
  | done => rfl
  | text content rest ih => exact ih
  | optional rule inner rest ihInner ihRest => rw [append, isFixed, isFixed, ihRest, Bool.and_assoc]
  | «variable» rule rest ih => rfl

end Licensing.Template

namespace Licensing.Matching

open Licensing.Text Licensing.Template

/-- What the interpretations spell, those with an optional region present first. -/
def spellings (f : Folding) : Body → List (List String)
  | .done => [[]]
  | .text content rest => (spellings f rest).map (textTokens f content ++ ·)
  | .optional _ inner rest =>
    (spellings f inner).flatMap (fun spelling => (spellings f rest).map (spelling ++ ·)) ++
      spellings f rest
  | .variable _ _ => []

/-- Some interpretation of a body shares the tokens from `i` up to `k` with a document. -/
def Shares (f : Folding) (d : Document) (body : Body) (i k : Nat) : Prop :=
  ∃ spelling ∈ spellings f body, ∃ front, front <+: spelling ∧ Spells d i k front

section

variable {f : Folding} {d : Document} {body inner rest : Body} {i j k : Nat}
  {rule : OptionalRule} {content : List Char} {spelling : List String}

theorem mem_spellings_text :
    spelling ∈ spellings f (.text content rest) ↔
      ∃ later ∈ spellings f rest, textTokens f content ++ later = spelling :=
  List.mem_map

theorem mem_spellings_optional :
    spelling ∈ spellings f (.optional rule inner rest) ↔
      (∃ inside ∈ spellings f inner, ∃ later ∈ spellings f rest, inside ++ later = spelling) ∨
        spelling ∈ spellings f rest := by
  simp only [spellings, List.mem_append, List.mem_flatMap, List.mem_map]

theorem mem_spellings_append :
    spelling ∈ spellings f (inner.append rest) ↔
      ∃ inside ∈ spellings f inner, ∃ later ∈ spellings f rest, inside ++ later = spelling := by
  induction inner generalizing spelling with
  | done => simp [Body.append, spellings]
  | text content later ih =>
    rw [Body.append, mem_spellings_text]
    simp only [ih, mem_spellings_text]
    constructor
    · rintro ⟨_, ⟨inside, hinside, last, hlast, rfl⟩, rfl⟩
      exact ⟨_, ⟨inside, hinside, rfl⟩, last, hlast, List.append_assoc _ _ _⟩
    · rintro ⟨_, ⟨inside, hinside, rfl⟩, last, hlast, rfl⟩
      exact ⟨_, ⟨inside, hinside, last, hlast, rfl⟩, (List.append_assoc _ _ _).symm⟩
  | optional rule inside later ihInside ihLater =>
    rw [Body.append, mem_spellings_optional]
    simp only [ihLater, mem_spellings_optional]
    constructor
    · rintro (⟨first, hfirst, _, ⟨second, hsecond, last, hlast, rfl⟩, rfl⟩ |
        ⟨second, hsecond, last, hlast, rfl⟩)
      · exact ⟨_, .inl ⟨first, hfirst, second, hsecond, rfl⟩, last, hlast, List.append_assoc _ _ _⟩
      · exact ⟨second, .inr hsecond, last, hlast, rfl⟩
    · rintro ⟨_, ⟨first, hfirst, second, hsecond, rfl⟩ | hsecond, last, hlast, rfl⟩
      · exact .inl ⟨first, hfirst, _, ⟨second, hsecond, last, hlast, rfl⟩,
          (List.append_assoc _ _ _).symm⟩
      · exact .inr ⟨_, hsecond, last, hlast, rfl⟩
  | «variable» rule later ih => simp [Body.append, spellings]

theorem mem_spellings_optional_append :
    spelling ∈ spellings f (.optional rule inner rest) ↔
      spelling ∈ spellings f (inner.append rest) ∨ spelling ∈ spellings f rest := by
  rw [mem_spellings_optional, mem_spellings_append]

theorem exists_mem_spellings (h : body.isFixed) : ∃ spelling, spelling ∈ spellings f body := by
  induction body with
  | done => exact ⟨[], List.mem_cons_self⟩
  | text content rest ih =>
    obtain ⟨later, hlater⟩ := ih h
    exact ⟨_, mem_spellings_text.2 ⟨later, hlater, rfl⟩⟩
  | optional rule inner rest ihInner ihRest =>
    obtain ⟨later, hlater⟩ := ihRest (Bool.and_eq_true_iff.1 h).2
    exact ⟨later, mem_spellings_optional.2 (.inr hlater)⟩
  | «variable» rule rest ih => cases h

theorem spellings_of_stepCount_zero (h : stepCount f body = 0) : spellings f body = [[]] := by
  induction body with
  | done => rfl
  | text content rest ih =>
    simp only [stepCount, Nat.add_eq_zero_iff, ite_eq_left_iff, Nat.one_ne_zero, imp_false,
      Bool.not_eq_true, Bool.not_eq_false] at h
    rw [spellings, ih h.2, List.isEmpty_iff.1 h.1]
    rfl
  | optional rule inner rest => simp [stepCount, Nat.add_assoc] at h
  | «variable» rule rest => simp [stepCount] at h

/-- The ranges that a body derives are those that its interpretations spell. -/
theorem derives_iff_spellings [Engine] (h : body.isFixed) :
    Derives f d body i k ↔ ∃ spelling ∈ spellings f body, Spells d i k spelling := by
  induction body generalizing i k with
  | done => simp [derives_done, spellings]
  | text content rest ih =>
    simp only [derives_text, ih h, mem_spellings_text]
    constructor
    · rintro ⟨j, htext, later, hlater, hrest⟩
      exact ⟨_, ⟨later, hlater, rfl⟩, spells_append.2 ⟨j, htext, hrest⟩⟩
    · rintro ⟨_, ⟨later, hlater, rfl⟩, hspells⟩
      obtain ⟨j, htext, hrest⟩ := spells_append.1 hspells
      exact ⟨j, htext, later, hlater, hrest⟩
  | optional rule inner rest ihInner ihRest =>
    obtain ⟨hinner, hrest⟩ := Bool.and_eq_true_iff.1 h
    simp only [derives_optional, ihInner hinner, ihRest hrest, mem_spellings_optional]
    constructor
    · rintro (⟨j, ⟨inside, hinside, hspells⟩, later, hlater, hspells'⟩ | ⟨later, hlater, hspells⟩)
      · exact ⟨_, .inl ⟨inside, hinside, later, hlater, rfl⟩,
          spells_append.2 ⟨j, hspells, hspells'⟩⟩
      · exact ⟨later, .inr hlater, hspells⟩
    · rintro ⟨_, ⟨inside, hinside, later, hlater, rfl⟩ | hlater, hspells⟩
      · obtain ⟨j, hspells, hspells'⟩ := spells_append.1 hspells
        exact .inl ⟨j, ⟨inside, hinside, hspells⟩, later, hlater, hspells'⟩
      · exact .inr ⟨_, hlater, hspells⟩
  | «variable» rule rest ih => cases h

theorem shares_zero_iff :
    Shares f d body 0 k ↔
      k ≤ d.size ∧ ∃ spelling ∈ spellings f body, d.texts.take k <+: spelling := by
  constructor
  · rintro ⟨spelling, hspelling, front, hfront, hspells⟩
    obtain ⟨hk, rfl⟩ := spells_zero_iff.1 hspells
    exact ⟨hk, spelling, hspelling, hfront⟩
  · rintro ⟨hk, spelling, hspelling, hfront⟩
    exact ⟨spelling, hspelling, _, hfront, spells_zero_iff.2 ⟨hk, rfl⟩⟩

theorem Shares.le (h : Shares f d body i k) : i ≤ k := by
  obtain ⟨-, -, front, -, hstop, -⟩ := h
  omega

theorem Spells.le_of_prefix {before after front : List String} {token : String}
    (h : Spells d i j before) (hne : d.text? j ≠ some token)
    (hfront : front <+: before ++ token :: after) (hspells : Spells d i k front) : k ≤ j := by
  by_contra hlt
  have hj := h.1
  have hk := hspells.1
  have hlong : before ++ [token] <+: before ++ token :: after := ⟨after, by simp⟩
  have hlength : (before ++ [token]).length ≤ front.length := by
    rw [List.length_append, List.length_singleton]
    omega
  have hprefix : before ++ [token] <+: front := List.prefix_of_prefix_length_le hlong hfront hlength
  obtain ⟨later, rfl⟩ := hprefix
  rw [List.append_assoc] at hspells
  obtain ⟨j', hbefore, hlater⟩ := spells_append.1 hspells
  obtain rfl : j' = j := hbefore.1.trans hj.symm
  exact hne (spells_cons.1 hlater).1

/-- A text that stops to agree with a document stops every interpretation there. -/
theorem isGreatest_shares_text_unmet {before after : List String} {token : String}
    (hfixed : rest.isFixed) (hspells : Spells d i j before) (hne : d.text? j ≠ some token)
    (htokens : textTokens f content = before ++ token :: after) :
    IsGreatest {k | Shares f d (.text content rest) i k} j := by
  constructor
  · obtain ⟨later, hlater⟩ := exists_mem_spellings (f := f) hfixed
    refine ⟨_, mem_spellings_text.2 ⟨later, hlater, rfl⟩, before, ?_, hspells⟩
    rw [htokens, List.append_assoc]
    exact List.prefix_append _ _
  · rintro k ⟨_, hspelling, front, hfront, hfrontSpells⟩
    obtain ⟨later, hlater, rfl⟩ := mem_spellings_text.1 hspelling
    rw [htokens, List.append_assoc] at hfront
    exact hspells.le_of_prefix hne hfront hfrontSpells

theorem isGreatest_shares_text {furthest : Nat} (hspells : Spells d i j (textTokens f content))
    (hrest : IsGreatest {k | Shares f d rest j k} furthest) :
    IsGreatest {k | Shares f d (.text content rest) i k} furthest := by
  obtain ⟨hmem, hupper⟩ := hrest
  constructor
  · obtain ⟨later, hlater, front, hfront, hfrontSpells⟩ := hmem
    exact ⟨_, mem_spellings_text.2 ⟨later, hlater, rfl⟩, textTokens f content ++ front,
      (List.prefix_append_right_inj _).2 hfront, spells_append.2 ⟨j, hspells, hfrontSpells⟩⟩
  · rintro k ⟨_, hspelling, front, hfront, hfrontSpells⟩
    obtain ⟨later, hlater, rfl⟩ := mem_spellings_text.1 hspelling
    -- What is shared ends within the text, or goes on into the rest.
    rcases List.prefix_or_prefix_of_prefix hfront (List.prefix_append _ _) with
      hshort | ⟨behind, rfl⟩
    · have hle : furthest ≥ j := Shares.le hmem
      have hlength := hshort.length_le
      have hk := hfrontSpells.1
      have hj := hspells.1
      omega
    · obtain ⟨j', htext, hbehind⟩ := spells_append.1 hfrontSpells
      obtain rfl : j' = j := htext.1.trans hspells.1.symm
      exact hupper ⟨later, hlater, behind, (List.prefix_append_right_inj _).1 hfront, hbehind⟩

theorem shares_optional :
    Shares f d (.optional rule inner rest) i k ↔
      Shares f d (inner.append rest) i k ∨ Shares f d rest i k := by
  simp only [Shares, mem_spellings_optional_append, or_and_right, exists_or]

theorem shares_optional_hollow (h : stepCount f inner = 0) :
    Shares f d (.optional rule inner rest) i k ↔ Shares f d rest i k := by
  have hmem (spelling : List String) :
      spelling ∈ spellings f (.optional rule inner rest) ↔ spelling ∈ spellings f rest := by
    simp [mem_spellings_optional, spellings_of_stepCount_zero h]
  simp only [Shares, hmem]

/-- Where the divergences of fixed text lie in a document. -/
def Divergence.LiesIn (d : Document) : Divergence → Prop
  | .mismatch place _ _ | .additional place => place < d.size
  | .missing place _ _ => place = d.size
  | .variable _ _ => False

theorem unmet_liesIn {id offset : Nat} (h : i ≤ d.size) : (unmet d i id offset).LiesIn d := by
  unfold unmet
  split
  · rename_i hlt
    exact hlt
  · exact Nat.le_antisymm h (by omega)

/-- No interpretation of the body from the place `i` on agrees with the text any further. -/
structure Furthest (f : Folding) (d : Document) (body : Body) (i : Nat) (δ : Divergence) :
    Prop where
  reach : IsGreatest {k | Shares f d body i k} δ.reach
  liesIn : δ.LiesIn d

theorem Furthest.better {taken skipped : Divergence}
    (htaken : Furthest f d (inner.append rest) i taken) (hskipped : Furthest f d rest i skipped) :
    ∃ δ, Divergence.better Divergence.reachesLess (some taken) (some skipped) = some δ ∧
      Furthest f d (.optional rule inner rest) i δ := by
  have hunion : {k | Shares f d (.optional rule inner rest) i k} =
      {k | Shares f d (inner.append rest) i k} ∪ {k | Shares f d rest i k} :=
    Set.ext fun k => shares_optional
  have hreach := htaken.reach.union hskipped.reach
  rw [← hunion] at hreach
  rw [Divergence.better]
  split
  · rename_i hless
    have hle : taken.reach ≤ skipped.reach := Nat.le_of_lt (of_decide_eq_true hless)
    rw [max_eq_right hle] at hreach
    exact ⟨skipped, rfl, hreach, hskipped.liesIn⟩
  · rename_i hless
    have hle : skipped.reach ≤ taken.reach := by simpa [Divergence.reachesLess] using hless
    rw [max_eq_left hle] at hreach
    exact ⟨taken, rfl, hreach, htaken.liesIn⟩

/-- Whatever fails from a step on is the furthest divergence of what the step stands for. -/
theorem Represents.furthest_of_failed [Engine] {p : Program} {link : Option Nat}
    {e : Option Divergence} (h : Represents f p link body) (hfixed : body.isFixed) (hp : p.Forward)
    (hi : i ≤ d.size) (hfailed : outcomeFrom p d .exact link i = .failed e) :
    ∃ δ, e = some δ ∧ Furthest f d body i δ := by
  induction h generalizing i e with
  | done =>
    have hend : endOutcome d .exact i = .failed e := hfailed
    rw [endOutcome] at hend
    split at hend
    · cases hend
    · rename_i hne
      cases hend
      refine ⟨_, rfl, ⟨⟨[], List.mem_cons_self, [], List.nil_prefix, spells_nil.2 rfl⟩, ?_⟩,
        Nat.lt_of_le_of_ne hi hne⟩
      rintro k ⟨_, hspelling, front, hfront, hspells⟩
      obtain rfl := List.mem_singleton.1 hspelling
      obtain rfl := List.prefix_nil.1 hfront
      exact (spells_nil.1 hspells).le
  | @blank link content rest hblank hrest ih =>
    obtain ⟨δ, rfl, hreach, hliesIn⟩ := ih hfixed hi hfailed
    have hspells : Spells d i i (textTokens f content) := by rw [hblank, spells_nil]
    exact ⟨δ, rfl, isGreatest_shares_text hspells hreach, hliesIn⟩
  | text hstep htokens hrest ih =>
    rcases failed_text_step hp hstep hi hfailed with
      ⟨before, token, after, stop, hsplit, hspells, hne, rfl⟩ | ⟨stop, hspells, hnext⟩
    · refine ⟨_, rfl, ?_, unmet_liesIn (hspells.le_size hi).2⟩
      rw [reach_unmet]
      exact isGreatest_shares_text_unmet hfixed hspells hne hsplit
    · obtain ⟨δ, rfl, hreach, hliesIn⟩ := ih hfixed (hspells.le_size hi).2 hnext
      exact ⟨δ, rfl, isGreatest_shares_text hspells hreach, hliesIn⟩
  | hollow hstep hinner hrest ih =>
    obtain ⟨δ, rfl, hreach, hliesIn⟩ :=
      ih (Bool.and_eq_true_iff.1 hfixed).2 hi (failed_hollow_step hp hstep hi hfailed)
    refine ⟨δ, rfl, ?_, hliesIn⟩
    simpa only [shares_optional_hollow hinner] using hreach
  | optional hstep hinner hrest ihInner ihRest =>
    obtain ⟨_, _, hinnerFailed, hrestFailed, rfl⟩ := failed_optional_step hp hstep hi hfailed
    obtain ⟨taken, rfl, htaken⟩ := ihInner (by rwa [Body.isFixed_append]) hi hinnerFailed
    obtain ⟨skipped, rfl, hskipped⟩ := ihRest (Bool.and_eq_true_iff.1 hfixed).2 hi hrestFailed
    exact htaken.better hskipped
  | «variable» => cases hfixed

theorem Furthest.describe {p : Program} {count : UInt64} {δ : Divergence}
    (h : Furthest f d body i δ) :
    (δ.reach = d.size →
      (∃ quotation, (describe p d count (some δ)).message =
        "End of license text reached with missing text starting with \"" ++ quotation ++ "\"") ∧
      (describe p d count (some δ)).places = (lastPosition? d).toList) ∧
    (δ.reach < d.size → ∃ token, d.tokens[δ.reach]? = some token ∧
      (describe p d count (some δ)).places = [token.position]) := by
  have hplace {place : Nat} (hlt : place < d.size) : ∃ token, d.tokens[place]? = some token ∧
      (position? d place).getD ⟨0, 0, 0⟩ = token.position := by
    have htoken : d.tokens[place]? = some d.tokens[place] := Array.getElem?_eq_getElem hlt
    exact ⟨d.tokens[place], htoken, by rw [position?, htoken]; rfl⟩
  have hliesIn := h.liesIn
  cases δ with
  | mismatch place step offset =>
    refine ⟨fun heq => absurd heq (Nat.ne_of_lt hliesIn), fun hlt => ?_⟩
    obtain ⟨token, htoken, hposition⟩ := hplace hlt
    exact ⟨token, htoken, congrArg (fun position => [position]) hposition⟩
  | missing place step offset =>
    refine ⟨fun _ => ⟨⟨_, rfl⟩, rfl⟩, fun hlt => absurd hliesIn (Nat.ne_of_lt hlt)⟩
  | additional place =>
    refine ⟨fun heq => absurd heq (Nat.ne_of_lt hliesIn), fun hlt => ?_⟩
    obtain ⟨token, htoken, hposition⟩ := hplace hlt
    exact ⟨token, htoken, congrArg (fun position => [position]) hposition⟩
  | «variable» place step => cases hliesIn

end

/-- Without variables, the first token that no interpretation gets past is reported. -/
theorem furthest_difference_reported [Engine] (m : Matcher) (template text : List Char)
    {body : Body} (hparse : Body.parse (stripComments template) = .ok body)
    (hfixed : body.isFixed) :
    let f := m.settings.folding
    let d := m.prepare text
    ∃ difference, m.compare template text = .ok difference ∧
      (difference.found = false ↔ d.texts ∈ spellings f body) ∧
      (difference.found = true → ∃ furthest,
        IsGreatest {k | k ≤ d.size ∧ ∃ spelling ∈ spellings f body, d.texts.take k <+: spelling}
          furthest ∧
        (furthest = d.size →
          (∃ quotation, difference.message =
            "End of license text reached with missing text starting with \"" ++ quotation ++
              "\"") ∧
          difference.places = (lastPosition? d).toList) ∧
        (furthest < d.size → ∃ token, d.tokens[furthest]? = some token ∧
          difference.places = [token.position])) := by
  intro f d
  have hcompare : m.compare template text = .ok (m.comparePrepared (.ofBody f body) d) := by
    rw [Matcher.compare, Matcher.compile_of_parse hparse]
  refine ⟨_, hcompare, ?_, fun hfound => ?_⟩
  · rw [Matcher.comparePrepared, compareWith_found, exactOutcome_isMatch,
      derives_iff_spellings hfixed]
    simp only [spells_zero_iff, ← d.length_texts, List.take_length, Nat.le_refl, true_and,
      exists_eq_right']
  · rw [Matcher.comparePrepared] at hfound ⊢
    obtain ⟨e, hfailed, hreport⟩ := exists_failed_of_found hfound
    obtain ⟨δ, rfl, hfurthest⟩ := (represents_entry f body).furthest_of_failed hfixed
      (Program.ofBody_forward f body) (Nat.zero_le _) hfailed
    have hreach := hfurthest.reach
    simp only [shares_zero_iff] at hreach
    rw [hreport]
    exact ⟨δ.reach, hreach, hfurthest.describe⟩

theorem furthest_difference_reported_nested :
    let m : Matcher := {}
    let template :=
      "a<<beginOptional>> b <<beginOptional>>c<<endOptional>> d<<endOptional>> e".toList
    let text := "A b d x e".toList
    let d := m.prepare text
    ∃ body difference, Body.parse (stripComments template) = .ok body ∧ body.isFixed ∧
      m.compare template text = .ok difference ∧ difference.found = true ∧
      difference.places = [⟨1, 6, 1⟩] ∧ ∃ furthest,
        IsGreatest {k | k ≤ d.size ∧ ∃ spelling ∈ spellings {} body, d.texts.take k <+: spelling}
          furthest := by
  intro m template text d
  have hfixed : (Body.parse (stripComments template)).toOption.any (·.isFixed) := by
    decide +kernel
  have hresult : (m.compare template text).toOption.any fun difference =>
      difference.found && difference.places = [⟨1, 6, 1⟩] := by
    decide +kernel
  cases hparse : Body.parse (stripComments template) with
  | error e =>
    rw [hparse] at hfixed
    cases hfixed
  | ok body =>
    rw [hparse] at hfixed
    obtain ⟨difference, hcompare, -, hfurthest⟩ :=
      furthest_difference_reported m template text hparse hfixed
    rw [hcompare] at hresult
    obtain ⟨hfound, hplaces⟩ := Bool.and_eq_true_iff.1 (show (_ && _) = true from hresult)
    obtain ⟨furthest, hgreatest, -⟩ := hfurthest hfound
    exact ⟨body, difference, rfl, hfixed, hcompare, hfound, of_decide_eq_true hplaces, furthest,
      hgreatest⟩

end Licensing.Matching
