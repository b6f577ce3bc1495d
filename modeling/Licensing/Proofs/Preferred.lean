import Licensing.Proofs.Regions

namespace Licensing.Matching

open Licensing.Text Licensing.Template

/-- What an interpretation decides at an optional region with steps, or at a variable. -/
inductive Decision where
  | present
  | absent
  | stop (place : Nat)

/-- Interpretations, with their decisions in order and the runs of their required fixed text. -/
inductive Interprets [Engine] (f : Folding) (d : Document) :
    Body → Nat → Nat → List Decision → List Region → Prop where
  | done (i : Nat) : Interprets f d .done i i [] []
  | text {content rest i j k decisions runs} (htext : Spells d i j (textTokens f content))
      (hrest : Interprets f d rest j k decisions runs) :
      Interprets f d (.text content rest) i k decisions ((i, j) :: runs)
  | present {rule inner rest i j k inside decisions runs runs'} (hsteps : stepCount f inner ≠ 0)
      (hinner : Interprets f d inner i j inside runs')
      (hrest : Interprets f d rest j k decisions runs) :
      Interprets f d (.optional rule inner rest) i k (.present :: (inside ++ decisions)) runs
  | absent {rule inner rest i k decisions runs} (hrest : Interprets f d rest i k decisions runs) :
      Interprets f d (.optional rule inner rest) i k (.absent :: decisions) runs
  | «variable» {rule rest i j k decisions runs} (hle : i ≤ j) (hsize : j ≤ d.size)
      (haccepts : acceptsSpan d rule (literal? f rule) i j)
      (hrest : Interprets f d rest j k decisions runs) :
      Interprets f d (.variable rule rest) i k (.stop j :: decisions) runs

/-- The order of interpretations by the first decision in which they differ. -/
inductive Precedes : List Decision → List Decision → Prop where
  | present (later later' : List Decision) :
      Precedes (.present :: later) (.absent :: later')
  | longer {j k : Nat} (h : k < j) (later later' : List Decision) :
      Precedes (.stop j :: later) (.stop k :: later')
  | cons (decision : Decision) {later later' : List Decision} (h : Precedes later later') :
      Precedes (decision :: later) (decision :: later')

namespace Precedes

variable {first second : List Decision}

theorem append (h : Precedes first second) (later later' : List Decision) :
    Precedes (first ++ later) (second ++ later') := by
  induction h with
  | present => exact .present _ _
  | longer h => exact .longer h _ _
  | cons decision _ ih => exact .cons decision ih

theorem append_left (front : List Decision) (h : Precedes first second) :
    Precedes (front ++ first) (front ++ second) := by
  induction front with
  | nil => exact h
  | cons decision front ih => exact .cons decision ih

theorem asymm (h : Precedes first second) : ¬ Precedes second first := by
  intro h'
  induction h with
  | present => cases h'
  | longer h =>
    cases h' with
    | longer h' => exact absurd h (Nat.lt_asymm h')
    | cons => exact absurd h (Nat.lt_irrefl _)
  | cons decision _ ih =>
    cases h' with
    | longer h' => exact absurd h' (Nat.lt_irrefl _)
    | cons _ h' => exact ih h'

end Precedes

section

variable {f : Folding} {p : Program} {d : Document} {mode : Mode} {id place : Nat}
  {next : Option Nat} {depth : Nat} {regions : List Region}

/-- The end that a variable takes is the first one that it accepts and that goes on to a match. -/
theorem find?_of_tryEnds {size : Nat} {accepts : Nat → Bool} {goOn : Nat → Outcome}
    {rejected : Divergence} {best : Option (Option Divergence)} {ends : List Nat}
    (h : tryEnds size accepts goOn rejected best ends = .matched regions) :
    ∃ stop, ends.find? (fun stop => accepts stop && (goOn stop).isMatch) = some stop ∧
      goOn stop = .matched regions := by
  induction ends generalizing best with
  | nil => cases best <;> cases h
  | cons first rest ih =>
    rw [tryEnds] at h
    split at h
    · rename_i haccepts
      split at h
      · rename_i found hgo
        cases h
        exact ⟨first, by simp [haccepts, hgo], hgo⟩
      · rename_i hgo
        obtain ⟨stop, hfind, hmatch⟩ := ih h
        exact ⟨stop, by simpa [haccepts, hgo] using hfind, hmatch⟩
    · rename_i hrejects
      obtain ⟨stop, hfind, hmatch⟩ := ih h
      exact ⟨stop, by simpa [hrejects] using hfind, hmatch⟩

theorem pairwise_occurrences (d : Document) (token : String) :
    (d.occurrences token).Pairwise (· < ·) :=
  List.pairwise_lt_range.filter _

theorem pairwise_candidateEnds :
    (candidateEnds d .exact place (following p d next)).Pairwise (· > ·) := by
  unfold following
  split
  · exact (List.pairwise_reverse.2 (pairwise_occurrences d _)).filter _
  · split
    · exact List.pairwise_reverse.2 List.pairwise_lt_range'
    · exact List.pairwise_singleton _ _

theorem le_of_find? {ends : List Nat} {test : Nat → Bool} {stop other : Nat}
    (hends : ends.Pairwise (· > ·)) (hfind : ends.find? test = some stop) (hother : other ∈ ends)
    (htest : test other) : other ≤ stop := by
  obtain ⟨-, before, after, rfl, hbefore⟩ := List.find?_eq_some_iff_append.1 hfind
  rcases List.mem_append.1 hother with hmem | hmem
  · have hfails := hbefore other hmem
    rw [htest] at hfails
    cases hfails
  · rcases List.mem_cons.1 hmem with rfl | hmem
    · exact Nat.le_refl _
    · have hafter := (List.pairwise_cons.1 (List.pairwise_append.1 hends).2.1).1
      exact Nat.le_of_lt (hafter other hmem)

theorem preferred_optional_step [Engine] {inner : Option Nat} (hp : p.Forward)
    (hstep : p.steps[id]? = some ⟨.optional inner, next, depth⟩) (hplace : place ≤ d.size)
    (h : outcomeFrom p d mode (some id) place = .matched regions) :
    (inner.isSome ∧ outcomeFrom p d mode inner place = .matched regions) ∨
      (inner.isSome → (outcomeFrom p d mode inner place).isMatch = false) ∧
        outcomeFrom p d mode next place = .matched regions := by
  rw [outcomeFrom_step hp hstep hplace, stepOutcome] at h
  cases inner with
  | none =>
    dsimp only at h
    split at h
    · rename_i hnext
      cases h
      exact .inr ⟨fun hsome => absurd hsome (by decide), hnext⟩
    · cases h
  | some inner =>
    dsimp only at h
    split at h
    · rename_i hinner
      cases h
      exact .inl ⟨rfl, hinner⟩
    · rename_i hinner
      split at h
      · rename_i hnext
        cases h
        exact .inr ⟨fun _ => by rw [hinner]; rfl, hnext⟩
      · cases h

theorem preferred_variable_step [Engine] {rule : VariableRule} {literal : Option String}
    (hp : p.Forward) (hstep : p.steps[id]? = some ⟨.variable rule literal, next, depth⟩)
    (hplace : place ≤ d.size) (h : outcomeFrom p d mode (some id) place = .matched regions) :
    ∃ stop, (candidateEnds d mode place (following p d next)).find? (fun stop =>
          acceptsSpan d rule literal place stop && (outcomeFrom p d mode next stop).isMatch) =
        some stop ∧ outcomeFrom p d mode next stop = .matched regions := by
  rw [outcomeFrom_step hp hstep hplace, stepOutcome, Step.follower] at h
  dsimp only at h
  split at h
  · cases h
  · exact find?_of_tryEnds h

theorem longest_variable_step [Engine] {rule : VariableRule} {literal : Option String}
    (hp : p.Forward) (hstep : p.steps[id]? = some ⟨.variable rule literal, next, depth⟩)
    (hplace : place ≤ d.size) (h : outcomeFrom p d .exact (some id) place = .matched regions) :
    ∃ stop, (place ≤ stop ∧ stop ≤ d.size ∧ acceptsSpan d rule literal place stop) ∧
      outcomeFrom p d .exact next stop = .matched regions ∧
      ∀ other, place ≤ other → other ≤ d.size → acceptsSpan d rule literal place other →
        (outcomeFrom p d .exact next other).isMatch → other ≤ stop := by
  obtain ⟨stop, hfind, hmatch⟩ := preferred_variable_step hp hstep hplace h
  obtain ⟨hle, hsize⟩ := candidateEnds_bounds hplace (List.mem_of_find?_eq_some hfind)
  have htest : acceptsSpan d rule literal place stop ∧
      (outcomeFrom p d .exact next stop).isMatch := by
    simpa using List.find?_some hfind
  refine ⟨stop, ⟨hle, hsize, htest.1⟩, hmatch, fun other hle hsize haccepts hother => ?_⟩
  exact le_of_find? pairwise_candidateEnds hfind (mem_candidateEnds hp hle hsize hother)
    (Bool.and_eq_true_iff.2 ⟨haccepts, hother⟩)

theorem Interprets.traces [Engine] {body : Body} {i k : Nat} {decisions : List Decision}
    {runs : List Region} (h : Interprets f d body i k decisions runs) :
    Traces f d body i k runs := by
  induction h with
  | done i => exact .done i
  | text htext hrest ih => exact .text htext ih
  | present hsteps hinner hrest ihInner ihRest => exact .taken ihInner.derives ihRest
  | absent hrest ih => exact .skipped ih
  | «variable» hle hsize haccepts hrest ih => exact .variable hle hsize haccepts ih

theorem Interprets.derives [Engine] {body : Body} {i k : Nat} {decisions : List Decision}
    {runs : List Region} (h : Interprets f d body i k decisions runs) : Derives f d body i k :=
  h.traces.derives

/-- It can be gone on from, and precedes every other such interpretation. -/
structure Preferred [Engine] (f : Folding) (p : Program) (d : Document) (body : Body)
    (after : Option Nat) (place stop : Nat) (decisions : List Decision) (runs : List Region) :
    Prop where
  interprets : Interprets f d body place stop decisions runs
  first : ∀ stop' decisions' runs', Interprets f d body place stop' decisions' runs' →
    (outcomeFrom p d .exact after stop').isMatch →
    (stop' = stop ∧ decisions' = decisions ∧ runs' = runs) ∨ Precedes decisions decisions'

variable {after : Option Nat} {body inner rest : Body} {rule : VariableRule}
  {region : OptionalRule} {content : List Char} {stop middle : Nat}
  {decisions inside : List Decision} {runs runs' : List Region}

namespace Preferred

theorem text [Engine] (hspells : Spells d place middle (textTokens f content))
    (h : Preferred f p d rest after middle stop decisions runs) :
    Preferred f p d (.text content rest) after place stop decisions ((place, middle) :: runs) := by
  refine ⟨.text hspells h.interprets, ?_⟩
  intro stop' decisions' runs' hother hmatch
  cases hother with
  | text hspells' hrest =>
    obtain rfl := hspells'.1.trans hspells.1.symm
    rcases h.first _ _ _ hrest hmatch with ⟨rfl, rfl, rfl⟩ | hprecedes
    · exact .inl ⟨rfl, rfl, rfl⟩
    · exact .inr hprecedes

theorem present [Engine] (hsteps : stepCount f inner ≠ 0)
    (hinner : Preferred f p d inner next place middle inside runs')
    (hrest : Preferred f p d rest after middle stop decisions runs)
    (hnext : ∀ j, place ≤ j → j ≤ d.size → ((outcomeFrom p d .exact next j).isMatch ↔
      ∃ k, Derives f d rest j k ∧ (outcomeFrom p d .exact after k).isMatch))
    (hplace : place ≤ d.size) :
    Preferred f p d (.optional region inner rest) after place stop
      (.present :: (inside ++ decisions)) runs := by
  refine ⟨.present hsteps hinner.interprets hrest.interprets, ?_⟩
  intro stop' decisions' runs'' hother hmatch
  cases hother with
  | absent hrest' => exact .inr (.present _ _)
  | present hsteps' hinner' hrest' =>
    obtain ⟨hle, hsize⟩ := hinner'.derives.le_size hplace
    have hgo := (hnext _ hle hsize).2 ⟨_, hrest'.derives, hmatch⟩
    rcases hinner.first _ _ _ hinner' hgo with ⟨rfl, rfl, -⟩ | hprecedes
    · rcases hrest.first _ _ _ hrest' hmatch with ⟨rfl, rfl, rfl⟩ | hprecedes
      · exact .inl ⟨rfl, rfl, rfl⟩
      · exact .inr (.cons _ (hprecedes.append_left _))
    · exact .inr (.cons _ (hprecedes.append _ _))

theorem absent [Engine] (hnot : stepCount f inner ≠ 0 → ∀ j k, Derives f d inner place j →
      Derives f d rest j k → (outcomeFrom p d .exact after k).isMatch → False)
    (h : Preferred f p d rest after place stop decisions runs) :
    Preferred f p d (.optional region inner rest) after place stop (.absent :: decisions) runs := by
  refine ⟨.absent h.interprets, ?_⟩
  intro stop' decisions' runs' hother hmatch
  cases hother with
  | present hsteps hinner hrest =>
    exact (hnot hsteps _ _ hinner.derives hrest.derives hmatch).elim
  | absent hrest =>
    rcases h.first _ _ _ hrest hmatch with ⟨rfl, rfl, rfl⟩ | hprecedes
    · exact .inl ⟨rfl, rfl, rfl⟩
    · exact .inr (.cons _ hprecedes)

theorem «variable» [Engine] (hle : place ≤ middle) (hsize : middle ≤ d.size)
    (haccepts : acceptsSpan d rule (literal? f rule) place middle)
    (hlongest : ∀ j k, place ≤ j → j ≤ d.size → acceptsSpan d rule (literal? f rule) place j →
      Derives f d rest j k → (outcomeFrom p d .exact after k).isMatch → j ≤ middle)
    (h : Preferred f p d rest after middle stop decisions runs) :
    Preferred f p d (.variable rule rest) after place stop (.stop middle :: decisions) runs := by
  refine ⟨.variable hle hsize haccepts h.interprets, ?_⟩
  intro stop' decisions' runs' hother hmatch
  cases hother with
  | @«variable» _ _ _ j _ _ _ hle' hsize' haccepts' hrest =>
    rcases Nat.lt_or_eq_of_le (hlongest j _ hle' hsize' haccepts' hrest.derives hmatch) with
      hlt | rfl
    · exact .inr (.longer hlt _ _)
    · rcases h.first _ _ _ hrest hmatch with ⟨rfl, rfl, rfl⟩ | hprecedes
      · exact .inl ⟨rfl, rfl, rfl⟩
      · exact .inr (.cons _ hprecedes)

end Preferred

/-- The steps of a body that match follow its preferred interpretation. -/
theorem preferred_layout [Engine] (hp : p.Forward)
    (hlayout : layout f depth id after body <+: p.steps.drop id) (hplace : place ≤ d.size)
    (h : outcomeFrom p d .exact (firstStep id (stepCount f body) after) place = .matched regions) :
    ∃ stop decisions runs later, Preferred f p d body after place stop decisions runs ∧
      outcomeFrom p d .exact after stop = .matched later ∧
      regions = if depth = 0 then joinRuns runs later else later := by
  induction body generalizing depth id after place regions with
  | done =>
    refine ⟨place, [], [], regions, ⟨.done place, ?_⟩, h, by simp [joinRuns]⟩
    rintro _ _ _ ⟨⟩ -
    exact .inl ⟨rfl, rfl, rfl⟩
  | text content rest ih =>
    by_cases hempty : (textTokens f content).isEmpty
    · simp only [layout, hempty, ↓reduceIte] at hlayout
      simp only [stepCount, hempty, ↓reduceIte, Nat.zero_add] at h
      obtain ⟨stop, decisions, runs, later, hpreferred, hafter, rfl⟩ := ih hlayout hplace h
      have hspells : Spells d place place (textTokens f content) := by
        rw [List.isEmpty_iff.1 hempty, spells_nil]
      exact ⟨stop, decisions, (place, place) :: runs, later, hpreferred.text hspells, hafter,
        by simp [joinRuns]⟩
    · simp only [layout, hempty, Bool.false_eq_true, ↓reduceIte] at hlayout
      simp only [stepCount, hempty, Bool.false_eq_true, ↓reduceIte] at h
      rw [firstStep_pos (by omega)] at h
      obtain ⟨middle, regions', hspells, hnext, rfl⟩ :=
        matched_text_step hp (Program.getElem?_of_prefix hlayout) hplace h
      obtain ⟨stop, decisions, runs, later, hpreferred, hafter, rfl⟩ :=
        ih (Program.prefix_tail hlayout) (hspells.le_size hplace).2 hnext
      have hlt : place < middle := by
        have hlength := List.length_pos_iff.2 (by simpa using hempty)
        have hstop := hspells.1
        omega
      refine ⟨stop, decisions, (place, middle) :: runs, later, hpreferred.text hspells, hafter, ?_⟩
      split <;> simp [joinRuns, hlt]
  | optional region inner rest ihInner ihRest =>
    rw [layout] at hlayout
    have hstep := Program.getElem?_of_prefix hlayout
    have htail := Program.prefix_tail hlayout
    have hinner := (List.prefix_append _ _).trans htail
    have hrest := Program.prefix_right htail
    rw [layout_length] at hrest
    rw [stepCount, firstStep_pos (by omega)] at h
    let next := firstStep (id + 1 + stepCount f inner) (stepCount f rest) after
    have hgo (j : Nat) (_ : place ≤ j) (hj : j ≤ d.size) :
        (outcomeFrom p d .exact next j).isMatch ↔
          ∃ k, Derives f d rest j k ∧ (outcomeFrom p d .exact after k).isMatch :=
      isMatch_layout hp hrest hj
    rcases preferred_optional_step hp hstep hplace h with ⟨hsome, htaken⟩ | ⟨hnot, hskipped⟩
    · have hsteps : stepCount f inner ≠ 0 := by
        rintro hzero
        simp [hzero] at hsome
      rw [firstStep_pos hsteps, ← firstStep_pos hsteps] at htaken
      obtain ⟨middle, inside, runs', later', hinside, hnext, rfl⟩ := ihInner hinner hplace htaken
      obtain ⟨-, hsize⟩ := hinside.interprets.derives.le_size hplace
      obtain ⟨stop, decisions, runs, later, hbehind, hafter, hregions⟩ := ihRest hrest hsize hnext
      exact ⟨stop, _, runs, later, hinside.present hsteps hbehind hgo hplace, hafter, hregions⟩
    · have hfails (hsteps : stepCount f inner ≠ 0) (j k : Nat) (hj : Derives f d inner place j)
          (hk : Derives f d rest j k) (hmatch : (outcomeFrom p d .exact after k).isMatch) :
          False := by
        obtain ⟨hle, hsize⟩ := hj.le_size hplace
        have hmatches := (isMatch_layout hp hinner hplace).2
          ⟨j, hj, (hgo j hle hsize).2 ⟨k, hk, hmatch⟩⟩
        rw [firstStep_pos hsteps] at hnot hmatches
        exact absurd hmatches (ne_true_of_eq_false (hnot rfl))
      obtain ⟨stop, decisions, runs, later, hbehind, hafter, hregions⟩ :=
        ihRest hrest hplace hskipped
      exact ⟨stop, _, runs, later, hbehind.absent hfails, hafter, hregions⟩
  | «variable» rule rest ih =>
    have hstep := Program.getElem?_of_prefix hlayout
    have hrest := Program.prefix_tail hlayout
    rw [stepCount, firstStep_pos (by omega)] at h
    obtain ⟨middle, ⟨hle, hsize, haccepts⟩, hnext, hlongest⟩ :=
      longest_variable_step hp hstep hplace h
    obtain ⟨stop, decisions, runs, later, hbehind, hafter, hregions⟩ := ih hrest hsize hnext
    have hlast (j k : Nat) (hj : place ≤ j) (hj' : j ≤ d.size)
        (haccepts : acceptsSpan d rule (literal? f rule) place j) (hk : Derives f d rest j k)
        (hmatch : (outcomeFrom p d .exact after k).isMatch) : j ≤ middle :=
      hlongest j hj hj' haccepts ((isMatch_layout hp hrest hj').2 ⟨k, hk, hmatch⟩)
    exact ⟨stop, _, runs, later, hbehind.variable hle hsize haccepts hlast, hafter, hregions⟩

theorem exists_preferred_of_exactOutcome [Engine]
    (h : exactOutcome (.ofBody f body) d = .matched regions) :
    ∃ decisions runs, Preferred f (.ofBody f body) d body none 0 d.size decisions runs ∧
      regions = joinRuns runs [] := by
  rw [exactOutcome, entryOutcome_eq, Program.entry_ofBody] at h
  obtain ⟨stop, decisions, runs, later, hpreferred, hend, hregions⟩ :=
    preferred_layout (Program.ofBody_forward f body) (List.prefix_refl _) (Nat.zero_le _) h
  have hend : endOutcome d .exact stop = .matched later := hend
  rw [endOutcome] at hend
  split at hend
  · rename_i hstop
    cases hend
    subst hstop
    exact ⟨decisions, runs, hpreferred, hregions⟩
  · cases hend

end

/-- Follows a match by the answers alone; there is no result where the steps run out. -/
def retraceFrom [Engine] (p : Program) (d : Document) :
    Nat → Option Nat → Nat → Option (List Region)
  | _, none, _ => some []
  | 0, some _, _ => none
  | fuel + 1, some id, place =>
    p.steps[id]?.bind fun step =>
      match step.action with
      | .text tokens =>
        let stop := place + tokens.length
        (retraceFrom p d fuel step.next stop).map fun regions =>
          if step.depth = 0 then addRegion place stop regions else regions
      | .optional inner =>
        if inner.isSome && (outcomeFrom p d .exact inner place).isMatch then
          retraceFrom p d fuel inner place
        else retraceFrom p d fuel step.next place
      | .variable rule literal =>
        let ends := (candidateEnds d .exact place (following p d step.next)).filter
          (acceptsSpan d rule literal place)
        (ends.find? fun stop => (outcomeFrom p d .exact step.next stop).isMatch).bind
          (retraceFrom p d fuel step.next)

def retrace [Engine] (p : Program) (d : Document) : Option (List Region) :=
  retraceFrom p d p.steps.length p.entry 0

section

variable {f : Folding} {p : Program} {d : Document} {place fuel : Nat} {link : Option Nat}
  {regions : List Region} {body : Body}

theorem length_rowsFrom [Engine] (mode : Mode) (id : Nat) (steps : List Step) :
    (rowsFrom p d mode id steps).length = steps.length := by
  induction steps generalizing id with
  | nil => rfl
  | cons step rest ih => rw [rowsFrom_cons, List.length_cons, ih, List.length_cons]

theorem exists_step_of_matched [Engine] {id : Nat}
    (h : outcomeFrom p d .exact (some id) place = .matched regions) :
    ∃ step, p.steps[id]? = some step := by
  cases hstep : p.steps[id]? with
  | some step => exact ⟨step, rfl⟩
  | none =>
    have hrow : (rows p d .exact)[id]? = none := by
      rw [List.getElem?_eq_none_iff, rows, length_rowsFrom]
      exact List.getElem?_eq_none_iff.1 hstep
    have hfailed : outcomeFrom p d .exact (some id) place = .failed none := by
      rw [outcomeFrom, lookUp, outcomeAt, Nat.sub_zero, hrow]
      rfl
    rw [hfailed] at h
    cases h

theorem endOutcome_eq_matched (h : endOutcome d .exact place = .matched regions) :
    place = d.size ∧ regions = [] := by
  rw [endOutcome] at h
  split at h
  · rename_i hplace
    cases h
    exact ⟨hplace, rfl⟩
  · cases h

theorem retraceFrom_of_matched [Engine] (hp : p.Forward) (hplace : place ≤ d.size)
    (hfuel : ∀ id ∈ link, p.steps.length ≤ id + fuel)
    (h : outcomeFrom p d .exact link place = .matched regions) :
    retraceFrom p d fuel link place = some regions := by
  induction fuel generalizing link place regions with
  | zero =>
    cases link with
    | none =>
      obtain ⟨-, rfl⟩ := endOutcome_eq_matched h
      rfl
    | some id =>
      obtain ⟨step, hstep⟩ := exists_step_of_matched h
      have hlt := (List.getElem?_eq_some_iff.1 hstep).1
      have hle := hfuel id rfl
      omega
  | succ fuel ih =>
    cases link with
    | none =>
      obtain ⟨-, rfl⟩ := endOutcome_eq_matched h
      rfl
    | some id =>
      obtain ⟨⟨action, next, depth⟩, hstep⟩ := exists_step_of_matched h
      have hlater (link : Option Nat)
          (hlink : ∀ n ∈ link, n ∈ Step.links ⟨action, next, depth⟩) :
          ∀ n ∈ link, p.steps.length ≤ n + fuel := by
        intro n hn
        have hlt := hp id _ hstep n (hlink n hn)
        have hle := hfuel id rfl
        omega
      have hnext := hlater next fun n hn => Step.mem_links_of_next hn
      rw [retraceFrom, hstep, Option.bind_some]
      cases action with
      | text tokens =>
        obtain ⟨stop, later, hspells, hmatch, rfl⟩ := matched_text_step hp hstep hplace h
        have hrest := ih (hspells.le_size hplace).2 hnext hmatch
        obtain rfl := hspells.1
        simp only [hrest, Option.map_some]
      | optional inner =>
        rcases preferred_optional_step hp hstep hplace h with ⟨hsome, htaken⟩ | ⟨hnot, hskipped⟩
        · have hinner := hlater inner fun n hn => Step.mem_links_of_inner (congrArg _ hn)
          simp only [hsome, htaken, Outcome.isMatch_matched, Bool.and_self, ↓reduceIte]
          exact ih hplace hinner htaken
        · have hfalse : (inner.isSome && (outcomeFrom p d .exact inner place).isMatch) = false := by
            cases hsome : inner.isSome with
            | false => rfl
            | true => exact hnot hsome
          simp only [hfalse, Bool.false_eq_true, ↓reduceIte]
          exact ih hplace hnext hskipped
      | «variable» rule literal =>
        obtain ⟨stop, hfind, hmatch⟩ := preferred_variable_step hp hstep hplace h
        obtain ⟨-, hsize⟩ := candidateEnds_bounds hplace (List.mem_of_find?_eq_some hfind)
        simp only [List.find?_filter, ← Bool.and_eq_true, Bool.decide_eq_true, hfind,
          Option.bind_some]
        exact ih hsize hnext hmatch

theorem retrace_of_exactOutcome [Engine] (h : exactOutcome (.ofBody f body) d = .matched regions) :
    retrace (.ofBody f body) d = some regions := by
  rw [exactOutcome, entryOutcome_eq] at h
  exact retraceFrom_of_matched (Program.ofBody_forward f body) (Nat.zero_le _)
    (fun id _ => Nat.le_add_left _ _) h

end

section

variable {i k start stop size : Nat} {runs regions : List Region}

def Holds (regions : List Region) (k : Nat) : Prop :=
  ∃ region ∈ regions, region.1 ≤ k ∧ k < region.2

/-- Regions with tokens, of which none touches another. -/
structure Separate (regions : List Region) : Prop where
  nonempty : ∀ region ∈ regions, region.1 < region.2
  apart : regions.Pairwise (·.2 < ·.1)

theorem holds_cons {run : Region} :
    Holds (run :: runs) k ↔ (run.1 ≤ k ∧ k < run.2) ∨ Holds runs k := by
  simp [Holds]

theorem holds_addRegion (hle : start ≤ stop) (h : Ascending stop regions) :
    Holds (addRegion start stop regions) k ↔ (start ≤ k ∧ k < stop) ∨ Holds regions k := by
  cases regions with
  | nil => exact holds_cons
  | cons region regions =>
    obtain ⟨-, hregion, -⟩ := h
    rw [addRegion]
    split
    · rename_i htouch
      rw [holds_cons, holds_cons, ← or_assoc]
      refine or_congr ?_ Iff.rfl
      dsimp only at hregion ⊢
      omega
    · exact holds_cons

theorem holds_joinRuns (h : Ascending i runs) : Holds (joinRuns runs []) k ↔ Holds runs k := by
  induction runs generalizing i with
  | nil => rfl
  | cons run runs ih =>
    obtain ⟨-, hle, hrest⟩ := h
    rw [joinRuns_cons, holds_cons, ← ih hrest]
    split
    · exact holds_addRegion hle hrest.joinRuns
    · rename_i hempty
      have hnone : ¬ (run.1 ≤ k ∧ k < run.2) := by omega
      simp only [hnone, false_or]

theorem Separate.addRegion (hlt : start < stop) (hascending : Ascending stop regions)
    (h : Separate regions) : Separate (addRegion start stop regions) := by
  cases regions with
  | nil => exact ⟨List.forall_mem_singleton.2 hlt, List.pairwise_singleton _ _⟩
  | cons region regions =>
    obtain ⟨hnonempty, hapart⟩ := h
    obtain ⟨hregion, hregions⟩ := List.forall_mem_cons.1 hnonempty
    obtain ⟨hfirst, hrest⟩ := List.pairwise_cons.1 hapart
    obtain ⟨hstop, -, -⟩ := hascending
    rw [Matching.addRegion]
    split
    · rename_i htouch
      refine ⟨List.forall_mem_cons.2 ⟨?_, hregions⟩, List.pairwise_cons.2 ⟨hfirst, hrest⟩⟩
      exact Nat.lt_trans hlt (htouch ▸ hregion)
    · rename_i htouch
      refine ⟨List.forall_mem_cons.2 ⟨hlt, hnonempty⟩, List.pairwise_cons.2 ⟨?_, hapart⟩⟩
      have hbehind : stop < region.1 := Nat.lt_of_le_of_ne hstop htouch
      exact List.forall_mem_cons.2 ⟨hbehind, fun later hlater =>
        Nat.lt_trans hbehind (Nat.lt_trans hregion (hfirst later hlater))⟩

theorem separate_joinRuns (h : Ascending i runs) : Separate (joinRuns runs []) := by
  induction runs generalizing i with
  | nil => exact ⟨List.forall_mem_nil _, .nil⟩
  | cons run runs ih =>
    obtain ⟨-, -, hrest⟩ := h
    rw [joinRuns_cons]
    split
    · rename_i hlt
      exact (ih hrest).addRegion hlt hrest.joinRuns
    · exact ih hrest

theorem Traces.run_le_size [Engine] {f : Folding} {d : Document} {body : Body} {j : Nat}
    (h : Traces f d body i j runs) (hi : i ≤ d.size) : ∀ run ∈ runs, run.2 ≤ d.size := by
  induction h with
  | done i => exact List.forall_mem_nil _
  | text htext hrest ih =>
    have hsize := (htext.le_size hi).2
    exact List.forall_mem_cons.2 ⟨hsize, ih hsize⟩
  | taken hinner hrest ih => exact ih (hinner.le_size hi).2
  | skipped hrest ih => exact ih hi
  | «variable» hle hsize haccepts hrest ih => exact ih hsize

theorem le_of_holds (hnonempty : ∀ region ∈ regions, region.1 < region.2)
    (hholds : ∀ k, Holds regions k → Holds runs k) (hruns : ∀ run ∈ runs, run.2 ≤ size) :
    ∀ region ∈ regions, region.2 ≤ size := by
  intro region hregion
  have hlt := hnonempty region hregion
  obtain ⟨run, hrun, -, hlast⟩ := hholds (region.2 - 1) ⟨region, hregion, by omega⟩
  have hle := hruns run hrun
  omega

end

/-- The regions are those of the one interpretation that is preferred to all others. -/
theorem regions_of_preferred [Engine] (m : Matcher) (template text : List Char) {body : Body}
    {difference : Difference} (hparse : Body.parse (stripComments template) = .ok body)
    (hcompare : m.compare template text = .ok difference) (hfound : difference.found = false) :
    let f := m.settings.folding
    let d := m.prepare text
    ∃ regions decisions runs, difference.regions = some regions ∧
      Interprets f d body 0 d.size decisions runs ∧
      (∀ decisions' runs', Interprets f d body 0 d.size decisions' runs' →
        (decisions' = decisions ∧ runs' = runs) ∨
          (Precedes decisions decisions' ∧ ¬ Precedes decisions' decisions)) ∧
      (∀ k, Holds regions k ↔ Holds runs k) ∧
      (∀ region ∈ regions, region.1 < region.2 ∧ region.2 ≤ d.size) ∧
      regions.Pairwise (·.2 < ·.1) ∧ retrace (.ofBody f body) d = some regions := by
  intro f d
  rw [Matcher.compare, Matcher.compile_of_parse hparse] at hcompare
  obtain rfl := Except.ok.inj hcompare
  rw [Matcher.comparePrepared, compareWith_found, Outcome.isMatch_iff] at hfound
  obtain ⟨regions, hmatched⟩ := hfound
  obtain ⟨decisions, runs, hpreferred, rfl⟩ := exists_preferred_of_exactOutcome hmatched
  have htraces := hpreferred.interprets.traces
  have hascending := htraces.ascending (Nat.zero_le _)
  have hholds (k : Nat) := holds_joinRuns (k := k) hascending
  obtain ⟨hnonempty, hapart⟩ := separate_joinRuns hascending
  have hsize := le_of_holds hnonempty (fun k => (hholds k).1)
    (htraces.run_le_size (Nat.zero_le _))
  refine ⟨joinRuns runs [], decisions, runs, ?_, hpreferred.interprets, ?_, hholds, ?_, hapart,
    retrace_of_exactOutcome hmatched⟩
  · rw [Matcher.comparePrepared, compareWith, hmatched]
    rfl
  · intro decisions' runs' hother
    have hend : (endOutcome d .exact d.size).isMatch := endOutcome_isMatch.2 (.inr rfl)
    rcases hpreferred.first _ _ _ hother hend with ⟨-, hdecisions, hruns⟩ | hprecedes
    · exact .inl ⟨hdecisions, hruns⟩
    · exact .inr ⟨hprecedes, hprecedes.asymm⟩
  · exact fun region hregion => ⟨hnonempty region hregion, hsize region hregion⟩

theorem regions_of_preferred_two_variables :
    let m : Matcher := {}
    let template := "<<var;name=v;match=.{0,40}>> a <<var;name=w;match=.{0,40}>>".toList
    let text := "a b a b".toList
    ∃ body difference, Body.parse (stripComments template) = .ok body ∧
      m.compare template text = .ok difference ∧ difference.found = false ∧
      difference.regions = some [(2, 3)] ∧
      retrace (.ofBody {} body) (m.prepare text) = some [(2, 3)] := by
  intro m template text
  have hresult : (m.compare template text).toOption.any fun difference =>
      !difference.found && difference.regions = some [(2, 3)] := by
    decide +kernel
  cases hcompare : m.compare template text with
  | error e =>
    rw [hcompare] at hresult
    cases hresult
  | ok difference =>
    rw [hcompare] at hresult
    obtain ⟨hfound, hregions⟩ := Bool.and_eq_true_iff.1 (show (_ && _) = true from hresult)
    have hfound : difference.found = false := by simpa using hfound
    have hregions := of_decide_eq_true hregions
    obtain ⟨body, hparse, -⟩ := Matcher.compare_eq_ok hcompare
    obtain ⟨regions, -, -, hregions', -, -, -, -, -, hretrace⟩ :=
      regions_of_preferred m template text hparse hcompare hfound
    obtain rfl := Option.some.inj (hregions.symm.trans hregions')
    exact ⟨body, difference, hparse, rfl, hfound, hregions, hretrace⟩

end Licensing.Matching
