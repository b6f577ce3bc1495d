import Licensing.Matching.Matcher
import Licensing.Proofs.Failure
import Licensing.Proofs.Interpretation
import Licensing.Proofs.Represented

namespace Licensing.Matching

open Licensing.Text Licensing.Template

/-- Some interpretation consumes the tokens between two places, and the rest is left of it. -/
inductive Reaches [Engine] (f : Folding) (d : Document) : Body → Nat → Body → Nat → Prop where
  | refl (body : Body) (i : Nat) : Reaches f d body i body i
  | text {content rest left i j k} (htext : Spells d i j (textTokens f content))
      (hrest : Reaches f d rest j left k) : Reaches f d (.text content rest) i left k
  | taken {rule inner rest left i k} (h : Reaches f d (inner.append rest) i left k) :
      Reaches f d (.optional rule inner rest) i left k
  | skipped {rule inner rest left i k} (h : Reaches f d rest i left k) :
      Reaches f d (.optional rule inner rest) i left k
  | «variable» {rule rest left i j k} (hle : i ≤ j) (hsize : j ≤ d.size)
      (haccepts : acceptsSpan d rule (literal? f rule) i j) (hrest : Reaches f d rest j left k) :
      Reaches f d (.variable rule rest) i left k

/-- Some interpretation comes to a token of fixed text, or to a variable before a missing one. -/
inductive AsksFor [Engine] (f : Folding) (d : Document) (body : Body) (i : Nat) :
    Nat → String → List String → Prop where
  | text {content rest start place before token after}
      (hreaches : Reaches f d body i (.text content rest) start)
      (hspells : Spells d start place before)
      (htokens : textTokens f content = before ++ token :: after) :
      AsksFor f d body i place token after
  | follower {rule rest place token after}
      (hreaches : Reaches f d body i (.variable rule rest) place)
      (hleading : leadingTokens f rest = token :: after)
      (habsent : ∀ k, place ≤ k → d.text? k ≠ some token) : AsksFor f d body i place token after

/-- The differences, quoted by `count` tokens, that interpretations show from the place `i` on. -/
inductive Shows [Engine] (f : Folding) (d : Document) (count : UInt64) (body : Body) (i : Nat) :
    Difference → Prop where
  | mismatch {place token after} (hasks : AsksFor f d body i place token after)
      (hplace : place < d.size) (hne : d.text? place ≠ some token) :
      Shows f d count body i
        (.difference ("Normal text of license does not match " ++
            describePlace (d.tokens[place]?.map (·.position)) (textContext d place count) ++
            " when comparing to template text \"" ++
            " ".intercalate ((token :: after).take count.toNat) ++ "\"")
          (d.tokens[place]?.map (·.position)))
  | missing {token after} (hasks : AsksFor f d body i d.size token after) :
      Shows f d count body i
        (.difference ("End of license text reached with missing text starting with \"" ++
            " ".intercalate ((token :: after).take count.toNat) ++ "\"")
          (lastPosition? d))
  | additional {place} (hderives : Derives f d body i place) (hplace : place < d.size) :
      Shows f d count body i
        (.difference ("Additional text found after the end of the template " ++
            describePlace (d.tokens[place]?.map (·.position)) (textContext d place count))
          (d.tokens[place]?.map (·.position)))
  | «variable» {rule rest place} (hreaches : Reaches f d body i (.variable rule rest) place)
      (hends : ∃ stop, place ≤ stop ∧ stop ≤ d.size ∧ CanGoOn f d rest stop)
      (hrejects : ∀ stop, place ≤ stop → stop ≤ d.size → CanGoOn f d rest stop →
        acceptsSpan d rule (literal? f rule) place stop = false) :
      Shows f d count body i
        (.difference ("Variable text rule \"" ++ String.ofList rule.name ++
            "\" did not match the text " ++
            describePlace (position? d place) (textContext d place count))
          (position? d place))

section

variable {f : Folding} {d : Document} {body inner rest left : Body} {i j k : Nat} {count : UInt64}
  {difference : Difference}

theorem derives_append [Engine] (h : Derives f d (inner.append rest) i k) :
    ∃ j, Derives f d inner i j ∧ Derives f d rest j k := by
  induction inner generalizing i with
  | done => exact ⟨i, .done i, h⟩
  | text content later ih =>
    obtain ⟨j, htext, hlater⟩ := derives_text.1 h
    obtain ⟨j', hlater, hrest⟩ := ih hlater
    exact ⟨j', .text htext hlater, hrest⟩
  | optional rule inside later ihInside ihLater =>
    rcases derives_optional.1 h with ⟨j, hinside, hlater⟩ | hlater
    · obtain ⟨j', hlater, hrest⟩ := ihLater hlater
      exact ⟨j', .taken hinside hlater, hrest⟩
    · obtain ⟨j', hlater, hrest⟩ := ihLater hlater
      exact ⟨j', .skipped hlater, hrest⟩
  | «variable» rule later ih =>
    obtain ⟨j, ⟨hle, hsize, haccepts⟩, hlater⟩ := derives_variable.1 h
    obtain ⟨j', hlater, hrest⟩ := ih hlater
    exact ⟨j', .variable hle hsize haccepts hlater, hrest⟩

namespace Reaches

theorem trans [Engine] (h : Reaches f d body i rest j) (h' : Reaches f d rest j left k) :
    Reaches f d body i left k := by
  induction h with
  | refl => exact h'
  | text htext hrest ih => exact .text htext (ih h')
  | taken h ih => exact .taken (ih h')
  | skipped h ih => exact .skipped (ih h')
  | «variable» hle hsize haccepts hrest ih => exact .variable hle hsize haccepts (ih h')

theorem derives [Engine] (h : Reaches f d body i rest j) (h' : Derives f d rest j k) :
    Derives f d body i k := by
  induction h with
  | refl => exact h'
  | text htext hrest ih => exact .text htext (ih h')
  | taken h ih =>
    obtain ⟨_, hinner, hrest⟩ := derives_append (ih h')
    exact .taken hinner hrest
  | skipped h ih => exact .skipped (ih h')
  | «variable» hle hsize haccepts hrest ih => exact .variable hle hsize haccepts (ih h')

theorem asksFor [Engine] {place : Nat} {token : String} {after : List String}
    (h : Reaches f d body i rest j) (hasks : AsksFor f d rest j place token after) :
    AsksFor f d body i place token after := by
  cases hasks with
  | text hreaches hspells htokens => exact .text (h.trans hreaches) hspells htokens
  | follower hreaches hleading habsent => exact .follower (h.trans hreaches) hleading habsent

theorem shows [Engine] (h : Reaches f d body i rest j)
    (hshows : Shows f d count rest j difference) :
    Shows f d count body i difference := by
  cases hshows with
  | mismatch hasks hplace hne => exact .mismatch (h.asksFor hasks) hplace hne
  | missing hasks => exact .missing (h.asksFor hasks)
  | additional hderives hplace => exact .additional (h.derives hderives) hplace
  | «variable» hreaches hends hrejects => exact .variable (h.trans hreaches) hends hrejects

end Reaches

theorem position?_eq_map (h : i < d.size) : position? d i = d.tokens[i]?.map (·.position) := by
  rw [position?, Array.getElem?_eq_getElem h]
  rfl

theorem getD_position? (h : i < d.size) :
    some ((position? d i).getD ⟨0, 0, 0⟩) = d.tokens[i]?.map (·.position) := by
  rw [position?_eq_map h, Array.getElem?_eq_getElem h]
  rfl

theorem length_lastPosition? :
    (lastPosition? d).toList.length = if d.size = 0 then 0 else 1 := by
  rw [lastPosition?, Document.size]
  by_cases hempty : d.tokens.size = 0
  · simp [Array.eq_empty_of_size_eq_zero hempty]
  · rw [Array.back?_eq_getElem?, Array.getElem?_eq_getElem (by omega), if_neg hempty]
    rfl

theorem length_position? : (position? d i).toList.length = if d.size = 0 then 0 else 1 := by
  rcases Nat.lt_or_ge i d.size with hlt | hge
  · rw [position?_eq_map hlt, Array.getElem?_eq_getElem hlt, if_neg (by omega)]
    rfl
  · rw [position?, Array.getElem?_eq_none hge, Option.map_none, Option.none_or,
      length_lastPosition?]

theorem describe_additional [Engine] (p : Program) (hderives : Derives f d body i j)
    (hj : j < d.size) :
    Shows f d count body i (describe p d count (some (.additional j))) := by
  simp only [describe, getD_position? hj]
  exact .additional hderives hj

theorem describe_unmet [Engine] {p : Program} {id place : Nat} {before after : List String}
    {token : String} (hasks : AsksFor f d body i place token after) (hplace : place ≤ d.size)
    (hne : d.text? place ≠ some token) (htext : p.textAt? id = some (before ++ token :: after)) :
    Shows f d count body i (describe p d count (some (unmet d place id before.length))) := by
  have hcontext : templateContext p id before.length count =
      " ".intercalate ((token :: after).take count.toNat) := by
    rw [templateContext, htext, Option.getD_some, List.drop_left]
  rw [unmet]
  split
  · rename_i hlt
    simp only [describe, getD_position? hlt, hcontext]
    exact .mismatch hasks hlt hne
  · obtain rfl : place = d.size := by omega
    simp only [describe, hcontext]
    exact .missing hasks

namespace Shows

theorem regions_eq_none [Engine] (h : Shows f d count body i difference) :
    difference.regions = none := by
  cases h <;> rfl

theorem length_places [Engine] (h : Shows f d count body i difference) :
    difference.places.length = if d.size = 0 then 0 else 1 := by
  cases h with
  | mismatch hasks hplace hne =>
    rw [← position?_eq_map hplace]
    exact length_position?
  | missing hasks => exact length_lastPosition?
  | additional hderives hplace =>
    rw [← position?_eq_map hplace]
    exact length_position?
  | «variable» hreaches hends hrejects => exact length_position?

theorem message_ne [Engine] (h : Shows f d count body i difference) :
    difference.message ≠ "Template does not match the text" := by
  intro heq
  have hhead := congrArg (·.toList.head?) heq
  cases h <;> simp [Difference.difference] at hhead

end Shows

namespace Represents

variable [Engine] {p : Program} {id place : Nat} {link : Option Nat} {e : Option Divergence}
  {rule : VariableRule}

theorem shows_absentFollower (h : Represents f p link rest) (hplace : place ≤ d.size)
    (hends : candidateEnds d .exact place (following p d link) = [])
    (hreaches : Reaches f d body i (.variable rule rest) place) :
    Shows f d count body i (describe p d count (some (absentFollower p d link id place))) := by
  obtain ⟨next, token, after, rfl, htokens, htext, habsent, hunmet⟩ :=
    h.exists_absentFollower hplace hends id
  have htext : p.textAt? next = some ([] ++ token :: after) := htext
  rw [hunmet]
  exact describe_unmet (.follower hreaches htokens habsent) hplace
    (habsent place (Nat.le_refl _)) htext

/-- Whatever fails from a step on is the divergence of some interpretation. -/
theorem shows_of_failed (h : Represents f p link body) (hp : p.Forward) (hi : i ≤ d.size)
    (hfailed : outcomeFrom p d .exact link i = .failed e) :
    ∃ δ, e = some δ ∧ Shows f d count body i (describe p d count (some δ)) := by
  -- A path that starts behind a step is a path from the step on, by what the step consumes.
  induction h generalizing i e with
  | done =>
    have hend : endOutcome d .exact i = .failed e := hfailed
    rw [endOutcome] at hend
    split at hend
    · cases hend
    · cases hend
      exact ⟨_, rfl, describe_additional p (.done i) (by omega)⟩
  | @blank link content rest hblank hrest ih =>
    obtain ⟨δ, rfl, hshows⟩ := ih hi hfailed
    have hspells : Spells d i i (textTokens f content) := by rw [hblank, spells_nil]
    exact ⟨δ, rfl, (Reaches.text hspells (.refl _ _)).shows hshows⟩
  | @text id next depth content rest hstep htokens hrest ih =>
    rcases failed_text_step hp hstep hi hfailed with
      ⟨before, token, after, stop, hsplit, hspells, hne, rfl⟩ | ⟨stop, hspells, hnext⟩
    · have htext : p.textAt? id = some (before ++ token :: after) := by
        simp [Program.textAt?, hstep, hsplit]
      have hasks : AsksFor f d (.text content rest) i stop token after :=
        .text (.refl _ _) hspells hsplit
      exact ⟨_, rfl, describe_unmet hasks (hspells.le_size hi).2 hne htext⟩
    · obtain ⟨δ, rfl, hshows⟩ := ih (hspells.le_size hi).2 hnext
      exact ⟨δ, rfl, (Reaches.text hspells (.refl _ _)).shows hshows⟩
  | hollow hstep hinner hrest ih =>
    obtain ⟨δ, rfl, hshows⟩ := ih hi (failed_hollow_step hp hstep hi hfailed)
    exact ⟨δ, rfl, (Reaches.skipped (.refl _ _)).shows hshows⟩
  | optional hstep hinner hrest ihInner ihRest =>
    obtain ⟨taken, skipped, htaken, hskipped, rfl⟩ := failed_optional_step hp hstep hi hfailed
    -- The better divergence is one of the two.
    rcases Divergence.better_eq Divergence.reachesLess taken skipped with hbetter | ⟨-, hbetter⟩
    · obtain ⟨δ, rfl, hshows⟩ := ihRest hi hskipped
      exact ⟨δ, hbetter, (Reaches.skipped (.refl _ _)).shows hshows⟩
    · obtain ⟨δ, rfl, hshows⟩ := ihInner hi htaken
      exact ⟨δ, hbetter, (Reaches.taken (.refl _ _)).shows hshows⟩
  | @«variable» id next depth rule rest hstep hrest ih =>
    rcases failed_variable_step hp hstep hi hfailed with
      ⟨hends, rfl⟩ | ⟨hends, hrejects, rfl⟩ | ⟨stop, hstop, haccepts, hnext⟩
    · exact ⟨_, rfl, hrest.shows_absentFollower hi hends (.refl _ _)⟩
    · refine ⟨_, rfl, ?_⟩
      have hname : variableName p id = String.ofList rule.name := by simp [variableName, hstep]
      simp only [describe, hname]
      refine .variable (.refl _ _) ?_ ?_
      · obtain ⟨stop, hstop⟩ := List.exists_mem_of_ne_nil _ hends
        exact ⟨stop, (hrest.mem_candidateEnds_iff hi).1 hstop⟩
      · intro stop hle hsize hcan
        exact hrejects stop ((hrest.mem_candidateEnds_iff hi).2 ⟨hle, hsize, hcan⟩)
    · obtain ⟨hle, hsize, -⟩ := (hrest.mem_candidateEnds_iff hi).1 hstop
      obtain ⟨δ, rfl, hshows⟩ := ih hsize hnext
      exact ⟨δ, rfl, (Reaches.variable hle hsize haccepts (.refl _ _)).shows hshows⟩

end Represents

end

/-- A difference is shown by some interpretation, in these words and at this place. -/
theorem found_difference_shown [Engine] (m : Matcher) (template text : List Char)
    (h : (m.compile template).isOk) :
    ∃ body difference, Body.parse (stripComments template) = .ok body ∧
      m.compare template text = .ok difference ∧
      (difference.found = true →
        difference.message ≠ "Template does not match the text" ∧ difference.regions = none ∧
        difference.places.length = (if (m.prepare text).size = 0 then 0 else 1) ∧
        Shows m.settings.folding (m.prepare text) m.settings.contextTokens body 0 difference) := by
  obtain ⟨body, hparse, -, hcompile⟩ := Matcher.compile_isOk h
  have hcompare : m.compare template text =
      .ok (m.comparePrepared (.ofBody m.settings.folding body) (m.prepare text)) := by
    rw [Matcher.compare, hcompile]
  refine ⟨body, _, hparse, hcompare, fun hfound => ?_⟩
  rw [Matcher.comparePrepared] at hfound ⊢
  obtain ⟨e, hfailed, hreport⟩ := exists_failed_of_found hfound
  obtain ⟨δ, rfl, hshows⟩ := (represents_entry m.settings.folding body).shows_of_failed
    (Program.ofBody_forward _ _) (Nat.zero_le _) hfailed
  rw [hreport]
  exact ⟨hshows.message_ne, hshows.regions_eq_none, hshows.length_places, hshows⟩

theorem found_difference_shown_in_region :
    let m : Matcher := {}
    let template := "a <<beginOptional>>b c<<endOptional>> d".toList
    let text := "a b x d".toList
    (m.compile template).isOk ∧ ∃ body difference,
      Body.parse (stripComments template) = .ok body ∧ m.compare template text = .ok difference ∧
      difference.found = true ∧ difference.places = [⟨1, 4, 1⟩] ∧
      Shows {} (m.prepare text) 6 body 0 difference := by
  intro m template text
  have hok : (m.compile template).isOk := by decide +kernel
  obtain ⟨body, difference, hparse, hcompare, hshown⟩ := found_difference_shown m template text hok
  have hresult : (m.compare template text).toOption.any fun difference =>
      difference.found && difference.places = [⟨1, 4, 1⟩] := by
    decide +kernel
  rw [hcompare] at hresult
  obtain ⟨hfound, hplaces⟩ := Bool.and_eq_true_iff.1 (show (_ && _) = true from hresult)
  obtain ⟨-, -, -, hshows⟩ := hshown hfound
  exact ⟨hok, body, difference, hparse, hcompare, hfound, of_decide_eq_true hplaces, hshows⟩

end Licensing.Matching
