import Licensing.Proofs.FixedText
import Licensing.Proofs.Interpretation
import Licensing.Proofs.Joints
import Licensing.Proofs.Spans

namespace Licensing.Matching

open Licensing.Text Licensing.Template

/-- The runs are those of the fixed text outside optional regions, in order. -/
inductive Traces [Engine] (f : Folding) (d : Document) : Body → Nat → Nat → List Region → Prop where
  | done (i : Nat) : Traces f d .done i i []
  | text {content rest i j k runs} (htext : Spells d i j (textTokens f content))
      (hrest : Traces f d rest j k runs) : Traces f d (.text content rest) i k ((i, j) :: runs)
  | taken {rule inner rest i j k runs} (hinner : Derives f d inner i j)
      (hrest : Traces f d rest j k runs) : Traces f d (.optional rule inner rest) i k runs
  | skipped {rule inner rest i k runs} (hrest : Traces f d rest i k runs) :
      Traces f d (.optional rule inner rest) i k runs
  | «variable» {rule rest i j k runs} (hle : i ≤ j) (hsize : j ≤ d.size)
      (haccepts : acceptsSpan d rule (literal? f rule) i j) (hrest : Traces f d rest j k runs) :
      Traces f d (.variable rule rest) i k runs

/-- Runs that follow each other from a place on. -/
def Ascending : Nat → List Region → Prop
  | _, [] => True
  | i, run :: rest => i ≤ run.1 ∧ run.1 ≤ run.2 ∧ Ascending run.2 rest

/-- Puts runs in front of regions. Runs without tokens are not reported. -/
def joinRuns (runs regions : List Region) : List Region :=
  (runs.filter fun run => run.1 < run.2).foldr (fun run => addRegion run.1 run.2) regions

def regionTexts (d : Document) (regions : List Region) : List String :=
  regions.flatMap fun region => d.rangeTexts region.1 region.2

section

variable {f : Folding} {d : Document} {i j k : Nat} {body : Body} {runs regions : List Region}

theorem Ascending.mono (h : Ascending j runs) (hij : i ≤ j) : Ascending i runs := by
  cases runs with
  | nil => trivial
  | cons run runs => exact ⟨Nat.le_trans hij h.1, h.2⟩

namespace Traces

theorem derives [Engine] (h : Traces f d body i j runs) : Derives f d body i j := by
  induction h with
  | done i => exact .done i
  | text htext hrest ih => exact .text htext ih
  | taken hinner hrest ih => exact .taken hinner ih
  | skipped hrest ih => exact .skipped ih
  | «variable» hle hsize haccepts hrest ih => exact .variable hle hsize haccepts ih

theorem spells [Engine] (h : Traces f d body i j runs) :
    List.Forall₂ (fun content run => Spells d run.1 run.2 (textTokens f content)) body.fixedTexts
      runs := by
  induction h with
  | done i => exact .nil
  | text htext hrest ih => exact .cons htext ih
  | taken hinner hrest ih => exact ih
  | skipped hrest ih => exact ih
  | «variable» hle hsize haccepts hrest ih => exact ih

theorem ascending [Engine] (h : Traces f d body i j runs) (hi : i ≤ d.size) : Ascending i runs := by
  induction h with
  | done i => trivial
  | text htext hrest ih =>
    obtain ⟨hle, hsize⟩ := htext.le_size hi
    exact ⟨Nat.le_refl _, hle, ih hsize⟩
  | taken hinner hrest ih =>
    obtain ⟨hle, hsize⟩ := hinner.le_size hi
    exact (ih hsize).mono hle
  | skipped hrest ih => exact ih hi
  | «variable» hle hsize haccepts hrest ih => exact (ih hsize).mono hle

end Traces

end

theorem Outcome.isMatch_iff {outcome : Outcome} :
    outcome.isMatch ↔ ∃ regions, outcome = .matched regions := by
  cases outcome <;> simp

section

variable {f : Folding} {p : Program} {d : Document} {mode : Mode} {id place : Nat}
  {next : Option Nat} {depth : Nat} {regions : List Region}

theorem tryEnds_eq_matched {size : Nat} {accepts : Nat → Bool} {goOn : Nat → Outcome}
    {rejected : Divergence} {best : Option (Option Divergence)} {ends : List Nat}
    (h : tryEnds size accepts goOn rejected best ends = .matched regions) :
    ∃ stop ∈ ends, accepts stop ∧ goOn stop = .matched regions := by
  induction ends generalizing best with
  | nil => cases best <;> cases h
  | cons first rest ih =>
    have later {best : Option (Option Divergence)}
        (h : tryEnds size accepts goOn rejected best rest = .matched regions) :
        ∃ stop ∈ first :: rest, accepts stop ∧ goOn stop = .matched regions := by
      obtain ⟨stop, hstop, hmatch⟩ := ih h
      exact ⟨stop, List.mem_cons_of_mem first hstop, hmatch⟩
    rw [tryEnds] at h
    split at h
    · rename_i haccepts
      split at h
      · rename_i found hgo
        cases h
        exact ⟨first, List.mem_cons_self, haccepts, hgo⟩
      · exact later h
    · exact later h

theorem matched_text_step [Engine] {tokens : List String} (hp : p.Forward)
    (hstep : p.steps[id]? = some ⟨.text tokens, next, depth⟩) (hplace : place ≤ d.size)
    (h : outcomeFrom p d mode (some id) place = .matched regions) :
    ∃ stop later, Spells d place stop tokens ∧ outcomeFrom p d mode next stop = .matched later ∧
      regions = if depth = 0 then addRegion place stop later else later := by
  rw [outcomeFrom_step hp hstep hplace, stepOutcome] at h
  dsimp only at h
  split at h
  · cases h
  · rename_i stop hstop
    split at h
    · rename_i later hlater
      cases h
      exact ⟨stop, later, matchTokens_ok.1 hstop, hlater, rfl⟩
    · rename_i hfailed
      exact absurd h (hfailed regions)

theorem matched_optional_step [Engine] {inner : Option Nat} (hp : p.Forward)
    (hstep : p.steps[id]? = some ⟨.optional inner, next, depth⟩) (hplace : place ≤ d.size)
    (h : outcomeFrom p d mode (some id) place = .matched regions) :
    (inner.isSome ∧ outcomeFrom p d mode inner place = .matched regions) ∨
      outcomeFrom p d mode next place = .matched regions := by
  rw [outcomeFrom_step hp hstep hplace, stepOutcome] at h
  cases inner with
  | none =>
    dsimp only at h
    split at h
    · rename_i hnext
      cases h
      exact .inr hnext
    · cases h
  | some inner =>
    dsimp only at h
    split at h
    · rename_i hinner
      cases h
      exact .inl ⟨rfl, hinner⟩
    · split at h
      · rename_i hnext
        cases h
        exact .inr hnext
      · cases h

theorem matched_variable_step [Engine] {rule : VariableRule} {literal : Option String}
    (hp : p.Forward) (hstep : p.steps[id]? = some ⟨.variable rule literal, next, depth⟩)
    (hplace : place ≤ d.size) (h : outcomeFrom p d mode (some id) place = .matched regions) :
    ∃ stop, (place ≤ stop ∧ stop ≤ d.size ∧ acceptsSpan d rule literal place stop) ∧
      outcomeFrom p d mode next stop = .matched regions := by
  rw [outcomeFrom_step hp hstep hplace, stepOutcome, Step.follower] at h
  dsimp only at h
  split at h
  · cases h
  · obtain ⟨stop, hstop, haccepts, hmatch⟩ := tryEnds_eq_matched h
    obtain ⟨hle, hsize⟩ := candidateEnds_bounds hplace hstop
    exact ⟨stop, ⟨hle, hsize, haccepts⟩, hmatch⟩

/-- The steps of a body that match follow one derivation of the body, and report its runs. -/
theorem matched_layout [Engine] {after : Option Nat} {body : Body} (hp : p.Forward)
    (hlayout : layout f depth id after body <+: p.steps.drop id) (hplace : place ≤ d.size)
    (h : outcomeFrom p d mode (firstStep id (stepCount f body) after) place = .matched regions) :
    ∃ stop runs later, Traces f d body place stop runs ∧
      outcomeFrom p d mode after stop = .matched later ∧
      regions = if depth = 0 then joinRuns runs later else later := by
  induction body generalizing depth id after place regions with
  | done => exact ⟨place, [], regions, .done place, h, by simp [joinRuns]⟩
  | text content rest ih =>
    -- Text without tokens takes no step, and its run is not reported.
    by_cases hempty : (textTokens f content).isEmpty
    · simp only [layout, hempty, ↓reduceIte] at hlayout
      simp only [stepCount, hempty, ↓reduceIte, Nat.zero_add] at h
      obtain ⟨stop, runs, later, htraces, hafter, hregions⟩ := ih hlayout hplace h
      have hspells : Spells d place place (textTokens f content) := by
        rw [List.isEmpty_iff.1 hempty, spells_nil]
      refine ⟨stop, (place, place) :: runs, later, .text hspells htraces, hafter, ?_⟩
      simpa [joinRuns] using hregions
    · simp only [layout, hempty, Bool.false_eq_true, ↓reduceIte] at hlayout
      simp only [stepCount, hempty, Bool.false_eq_true, ↓reduceIte] at h
      rw [firstStep_pos (by omega)] at h
      obtain ⟨middle, regions', hspells, hnext, rfl⟩ :=
        matched_text_step hp (Program.getElem?_of_prefix hlayout) hplace h
      obtain ⟨stop, runs, later, htraces, hafter, hregions⟩ :=
        ih (Program.prefix_tail hlayout) (hspells.le_size hplace).2 hnext
      refine ⟨stop, (place, middle) :: runs, later, .text hspells htraces, hafter, ?_⟩
      have hlt : place < middle := by
        have hlength := List.length_pos_iff.2 (by simpa using hempty)
        have hstop := hspells.1
        omega
      subst hregions
      split <;> simp [joinRuns, hlt]
  | optional rule inner rest ihInner ihRest =>
    rw [layout] at hlayout
    have hstep := Program.getElem?_of_prefix hlayout
    have htail := Program.prefix_tail hlayout
    have hinner := (List.prefix_append _ _).trans htail
    have hrest := Program.prefix_right htail
    rw [layout_length] at hrest
    simp only [stepCount] at h
    rw [firstStep_pos (by omega)] at h
    rcases matched_optional_step hp hstep hplace h with ⟨hsome, htaken⟩ | hskipped
    · have hcount : stepCount f inner ≠ 0 := by
        rintro hzero
        simp [hzero] at hsome
      rw [firstStep_pos hcount] at htaken
      have hfirst := ihInner hinner hplace (by rwa [firstStep_pos hcount])
      obtain ⟨middle, runs', later', htraces', hnext, hregions'⟩ := hfirst
      obtain ⟨-, hsize⟩ := htraces'.derives.le_size hplace
      rw [if_neg (Nat.succ_ne_zero depth)] at hregions'
      subst hregions'
      obtain ⟨stop, runs, later, htraces, hafter, hregions⟩ := ihRest hrest hsize hnext
      exact ⟨stop, runs, later, .taken htraces'.derives htraces, hafter, hregions⟩
    · obtain ⟨stop, runs, later, htraces, hafter, hregions⟩ := ihRest hrest hplace hskipped
      exact ⟨stop, runs, later, .skipped htraces, hafter, hregions⟩
  | «variable» rule rest ih =>
    simp only [stepCount] at h
    rw [firstStep_pos (by omega)] at h
    obtain ⟨middle, ⟨hle, hsize, haccepts⟩, hnext⟩ :=
      matched_variable_step hp (Program.getElem?_of_prefix hlayout) hplace h
    obtain ⟨stop, runs, later, htraces, hafter, hregions⟩ :=
      ih (Program.prefix_tail hlayout) hsize hnext
    exact ⟨stop, runs, later, .variable hle hsize haccepts htraces, hafter, hregions⟩

theorem exists_traces_of_exactOutcome [Engine] {body : Body}
    (h : exactOutcome (.ofBody f body) d = .matched regions) :
    ∃ runs, Traces f d body 0 d.size runs ∧ regions = joinRuns runs [] := by
  rw [exactOutcome, entryOutcome_eq, Program.entry_ofBody] at h
  obtain ⟨stop, runs, later, htraces, hend, hregions⟩ :=
    matched_layout (Program.ofBody_forward f body) (List.prefix_refl _) (Nat.zero_le _) h
  have hend : endOutcome d .exact stop = .matched later := hend
  rw [endOutcome] at hend
  split at hend
  · rename_i hstop
    cases hend
    subst hstop
    exact ⟨runs, htraces, hregions⟩
  · cases hend

end

section

variable {d : Document} {i j k start stop : Nat} {runs regions : List Region} {texts : List String}

theorem rangeTexts_of_spells (h : Spells d i j texts) : d.rangeTexts i j = texts := by
  obtain ⟨hstop, htexts⟩ := h
  apply List.ext_getElem?
  intro k
  rw [Document.getElem?_rangeTexts]
  by_cases hk : k < texts.length
  · rw [if_pos (by omega), htexts k hk, List.getElem?_eq_getElem hk]
  · rw [if_neg (by omega), List.getElem?_eq_none (by omega)]

theorem regionTexts_cons (run : Region) :
    regionTexts d (run :: runs) = d.rangeTexts run.1 run.2 ++ regionTexts d runs :=
  List.flatMap_cons

def Covered (run : Region) (regions : List Region) : Prop :=
  ∃ region ∈ regions, region.1 ≤ run.1 ∧ run.2 ≤ region.2

theorem Ascending.addRegion (hi : i ≤ start) (hle : start ≤ stop) (h : Ascending stop regions) :
    Ascending i (addRegion start stop regions) := by
  cases regions with
  | nil => exact ⟨hi, hle, trivial⟩
  | cons region regions =>
    obtain ⟨hstop, hregion, hrest⟩ := h
    rw [Matching.addRegion]
    split
    · exact ⟨hi, Nat.le_trans hle (Nat.le_trans hstop hregion), hrest⟩
    · exact ⟨hi, hle, hstop, hregion, hrest⟩

theorem regionTexts_addRegion (hle : start ≤ stop) (h : Ascending stop regions) :
    regionTexts d (addRegion start stop regions) =
      d.rangeTexts start stop ++ regionTexts d regions := by
  cases regions with
  | nil => rfl
  | cons region regions =>
    obtain ⟨-, hregion, -⟩ := h
    rw [addRegion]
    split
    · rename_i hstop
      subst hstop
      rw [regionTexts_cons, regionTexts_cons, ← List.append_assoc,
        Document.rangeTexts_append hle hregion]
    · rfl

theorem covered_addRegion (hle : start ≤ stop) (h : Ascending stop regions) {run : Region}
    (hrun : run = (start, stop) ∨ Covered run regions) :
    Covered run (addRegion start stop regions) := by
  cases regions with
  | nil =>
    rcases hrun with rfl | ⟨region, hregion, -⟩
    · exact ⟨(start, stop), List.mem_cons_self, Nat.le_refl _, Nat.le_refl _⟩
    · cases hregion
  | cons region regions =>
    obtain ⟨hstop, hregion, -⟩ := h
    rw [addRegion]
    split
    · rename_i htouch
      subst htouch
      rcases hrun with rfl | ⟨other, hother, hbounds⟩
      · exact ⟨_, List.mem_cons_self, Nat.le_refl _, hregion⟩
      · rcases List.mem_cons.1 hother with rfl | hother
        · exact ⟨_, List.mem_cons_self, Nat.le_trans hle hbounds.1, hbounds.2⟩
        · exact ⟨other, List.mem_cons_of_mem _ hother, hbounds⟩
    · rcases hrun with rfl | ⟨other, hother, hbounds⟩
      · exact ⟨_, List.mem_cons_self, Nat.le_refl _, Nat.le_refl _⟩
      · exact ⟨other, List.mem_cons_of_mem _ hother, hbounds⟩

theorem joinRuns_cons (run : Region) :
    joinRuns (run :: runs) regions =
      if run.1 < run.2 then addRegion run.1 run.2 (joinRuns runs regions)
      else joinRuns runs regions := by
  unfold joinRuns
  by_cases hlt : run.1 < run.2 <;> simp [hlt]

theorem Ascending.joinRuns (h : Ascending i runs) : Ascending i (joinRuns runs []) := by
  induction runs generalizing i with
  | nil => trivial
  | cons run runs ih =>
    obtain ⟨hi, hle, hrest⟩ := h
    rw [joinRuns_cons]
    split
    · exact (ih hrest).addRegion hi hle
    · exact (ih hrest).mono (Nat.le_trans hi hle)

theorem regionTexts_joinRuns (h : Ascending i runs) :
    regionTexts d (joinRuns runs []) = regionTexts d runs := by
  induction runs generalizing i with
  | nil => rfl
  | cons run runs ih =>
    obtain ⟨-, hle, hrest⟩ := h
    rw [joinRuns_cons, regionTexts_cons, ← ih hrest]
    split
    · exact regionTexts_addRegion hle hrest.joinRuns
    · rename_i hlt
      rw [Document.rangeTexts_eq_nil (Nat.le_of_not_lt hlt), List.nil_append]

theorem covered_joinRuns (h : Ascending i runs) {run : Region} (hrun : run ∈ runs)
    (hlt : run.1 < run.2) : Covered run (joinRuns runs []) := by
  induction runs generalizing i with
  | nil => cases hrun
  | cons first runs ih =>
    obtain ⟨-, hle, hrest⟩ := h
    rw [joinRuns_cons]
    rcases List.mem_cons.1 hrun with rfl | hrun
    · rw [if_pos hlt]
      exact covered_addRegion hle hrest.joinRuns (.inl rfl)
    · have hcovered := ih hrest hrun
      split
      · exact covered_addRegion hle hrest.joinRuns (.inr hcovered)
      · exact hcovered

end

section

variable {f : Folding} {d : Document} {i : Nat} {runs : List Region} {contents : List (List Char)}
  {s : List Char}

theorem Ascending.le_of_mem (h : Ascending i runs) {run : Region} (hrun : run ∈ runs) :
    i ≤ run.1 := by
  induction runs generalizing i with
  | nil => cases hrun
  | cons first runs ih =>
    obtain ⟨hi, hle, hrest⟩ := h
    rcases List.mem_cons.1 hrun with rfl | hrun
    · exact hi
    · exact Nat.le_trans (Nat.le_trans hi hle) (ih hrest hrun)

theorem Ascending.pairwise (h : Ascending i runs) : runs.Pairwise (·.2 ≤ ·.1) := by
  induction runs generalizing i with
  | nil => exact .nil
  | cons run runs ih => exact .cons (fun later hlater => h.2.2.le_of_mem hlater) (ih h.2.2)

theorem exists_trim (s : List Char) :
    ∃ before after, isBlank before ∧ isBlank after ∧ s = before ++ (trim s ++ after) := by
  let rest := s.dropWhile isWhitespace
  refine ⟨s.takeWhile isWhitespace, (rest.reverse.takeWhile isWhitespace).reverse,
    isBlank_takeWhile s, ?_, ?_⟩
  · rw [isBlank_reverse]
    exact isBlank_takeWhile rest.reverse
  · rw [trim, trimRight, ← List.reverse_append, List.takeWhile_append_dropWhile,
      List.reverse_reverse, List.takeWhile_append_dropWhile]

theorem textTokens_of_isBlank (h : isBlank s) : textTokens f s = [] := by
  rw [textTokens, tokenize_of_isBlank h, List.map_nil]

theorem textTokens_trim (h : ∀ c ∈ s, isAscii c) : textTokens f (trim s) = textTokens f s := by
  obtain ⟨before, after, hbefore, hafter, hs⟩ := exists_trim s
  have hascii : ∀ c ∈ before ++ (trim s ++ after), isAscii c := by rwa [← hs]
  obtain ⟨hasciiBefore, hasciiRest⟩ := List.forall_mem_append.1 hascii
  obtain ⟨hasciiTrim, hasciiAfter⟩ := List.forall_mem_append.1 hasciiRest
  have hsplit : textTokens f (before ++ (trim s ++ after)) =
      textTokens f before ++ (textTokens f (trim s) ++ textTokens f after) := by
    have hleft : Apart before (trim s ++ after) :=
      apart_of_getLast? fun c hc => isBlank_iff.1 hbefore c (List.mem_of_getLast? hc)
    have hright : Apart (trim s) after :=
      apart_of_head? fun c hc => isBlank_iff.1 hafter c (List.mem_of_head? hc)
    rw [textTokens, map_text_tokenize_append hasciiBefore hasciiRest hleft,
      map_text_tokenize_append hasciiTrim hasciiAfter hright]
    rfl
  rw [← hs, textTokens_of_isBlank hbefore, textTokens_of_isBlank hafter, List.nil_append,
    List.append_nil] at hsplit
  exact hsplit.symm

theorem exists_trimmed_runs
    (h : List.Forall₂ (fun content run => Spells d run.1 run.2 (textTokens f content))
      contents runs)
    (hascii : ∀ content ∈ contents, ∀ c ∈ content, isAscii c) :
    regionTexts d runs = (trimmed contents).flatMap (textTokens f) ∧
      ∃ runs', runs'.Sublist runs ∧
        List.Forall₂ (fun segment run => Spells d run.1 run.2 (textTokens f segment))
          (trimmed contents) runs' := by
  induction h with
  | nil => exact ⟨rfl, [], .slnil, .nil⟩
  | cons hspells hrest ih =>
    rename_i content run contents runs
    obtain ⟨hcontent, hcontents⟩ := List.forall_mem_cons.1 hascii
    obtain ⟨htexts, runs', hsublist, hruns⟩ := ih hcontents
    rw [← textTokens_trim hcontent] at hspells
    have htrimmed : trimmed (content :: contents) = trimmed [content] ++ trimmed contents :=
      trimmed_append [content] contents
    rw [regionTexts_cons, rangeTexts_of_spells hspells, htexts, htrimmed, List.flatMap_append]
    by_cases hempty : (trim content).isEmpty
    · have hblank : trimmed [content] = [] := by simp [trimmed, hempty]
      rw [hblank, textTokens_trim hcontent,
        textTokens_of_isBlank ((isEmpty_trim content).symm.trans hempty)]
      exact ⟨rfl, runs', hsublist.cons run, hruns⟩
    · have hkept : trimmed [content] = [trim content] := by simp [trimmed, hempty]
      rw [hkept, List.flatMap_singleton]
      exact ⟨rfl, run :: runs', hsublist.cons_cons run, .cons hspells hruns⟩

end

/-- The regions hold exactly the tokens of the segments that are required in any case. -/
theorem regions_hold_requiredText [Engine] (m : Matcher) (template text : List Char)
    (hascii : ∀ c ∈ template, isAscii c) (hstrip : stripComments template = template)
    {difference : Difference} (hcompare : m.compare template text = .ok difference)
    (hfound : difference.found = false) :
    ∃ segments regions runs, requiredText template .omit .omit = .ok segments ∧
      difference.regions = some regions ∧
      regionTexts (m.prepare text) regions =
        segments.flatMap (textTokens m.settings.folding) ∧
      List.Forall₂ (fun segment run =>
          Spells (m.prepare text) run.1 run.2 (textTokens m.settings.folding segment))
        segments runs ∧
      runs.Pairwise (·.2 ≤ ·.1) ∧ ∀ run ∈ runs, run.1 < run.2 → Covered run regions := by
  obtain ⟨body, hparse, -, rfl⟩ := Matcher.compare_eq_ok hcompare
  rw [hstrip] at hparse
  rw [Matcher.comparePrepared, compareWith_found, Outcome.isMatch_iff] at hfound
  obtain ⟨regions, hmatched⟩ := hfound
  obtain ⟨runs, htraces, rfl⟩ := exists_traces_of_exactOutcome hmatched
  have hascending := htraces.ascending (Nat.zero_le _)
  obtain ⟨htexts, runs', hsublist, hruns⟩ := exists_trimmed_runs htraces.spells
    fun content hcontent c hc => hascii c (Body.fixedTexts_subset hparse hcontent hc)
  refine ⟨trimmed body.fixedTexts, joinRuns runs [], runs', ?_, ?_, ?_, hruns,
    hascending.pairwise.sublist hsublist, ?_⟩
  · rw [requiredText_eq, hparse]
    exact congrArg Except.ok (Body.parse_separated hparse).segments_omit
  · rw [Matcher.comparePrepared, compareWith, hmatched]
    rfl
  · rw [regionTexts_joinRuns hascending, htexts]
  · intro run hrun hlt
    exact covered_joinRuns hascending (hsublist.subset hrun) hlt

theorem regions_hold_requiredText_left_out :
    let m : Matcher := {}
    let template := "Use <<var;name=v>> freely,<<beginOptional>> please,<<endOptional>> now".toList
    let text := "use it freely now".toList
    (template.all isAscii ∧ stripComments template = template) ∧
      (m.compare template text).toOption.any (!·.found) ∧
      requiredText template .omit .omit = .ok ["Use".toList, "freely,".toList, "now".toList] ∧
      ((m.compare template text).toOption.bind (·.regions)) = some [(0, 1), (2, 4)] ∧
      regionTexts (m.prepare text) [(0, 1), (2, 4)] = ["use", "freely", "now"] := by
  intro m template text
  have hascii : template.all isAscii := by decide +kernel
  have hstrip : stripComments template = template := by decide +kernel
  have hfound : (m.compare template text).toOption.any (!·.found) := by decide +kernel
  have hsegments : requiredText template .omit .omit =
      .ok ["Use".toList, "freely,".toList, "now".toList] := by decide +kernel
  have hregions : (m.compare template text).toOption.bind (·.regions) =
      some [(0, 1), (2, 4)] := by decide +kernel
  refine ⟨⟨hascii, hstrip⟩, hfound, hsegments, hregions, ?_⟩
  cases hcompare : m.compare template text with
  | error e =>
    rw [hcompare] at hfound
    cases hfound
  | ok difference =>
    rw [hcompare] at hfound hregions
    obtain ⟨segments, regions, runs, hsegments', hregions', htexts, -⟩ :=
      regions_hold_requiredText m template text (List.all_eq_true.1 hascii) hstrip hcompare
        (by simpa [Except.toOption] using hfound)
    obtain rfl := Except.ok.inj (hsegments.symm.trans hsegments')
    obtain rfl := Option.some.inj (hregions.symm.trans hregions')
    rw [htexts]
    decide +kernel

end Licensing.Matching
