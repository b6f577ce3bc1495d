import Licensing.Proofs.Furthest

namespace Licensing.Template

def Body.isLinear : Body → Bool
  | .done => true
  | .text _ rest => rest.isLinear
  | .optional _ _ _ => false
  | .variable _ rest => rest.isLinear

end Licensing.Template

namespace Licensing.Matching

open Licensing.Text Licensing.Template

/-- Some interpretation from the place `i` on fails behind so many tokens of fixed text. -/
inductive FailsAfter [Engine] (f : Folding) (d : Document) : Body → Nat → Nat → Prop where
  | leftover {i} (hne : i ≠ d.size) : FailsAfter f d .done i 0
  | unmet {content rest i j before token after}
      (htokens : textTokens f content = before ++ token :: after) (hspells : Spells d i j before)
      (hne : d.text? j ≠ some token) : FailsAfter f d (.text content rest) i before.length
  | text {content rest i j n} (htext : Spells d i j (textTokens f content))
      (hrest : FailsAfter f d rest j n) :
      FailsAfter f d (.text content rest) i ((textTokens f content).length + n)
  | rejected {rule rest i}
      (hrejects : ∀ j, i ≤ j → j ≤ d.size → acceptsSpan d rule (literal? f rule) i j = false) :
      FailsAfter f d (.variable rule rest) i 0
  | accepted {rule rest i j n} (hle : i ≤ j) (hsize : j ≤ d.size)
      (haccepts : acceptsSpan d rule (literal? f rule) i j) (hrest : FailsAfter f d rest j n) :
      FailsAfter f d (.variable rule rest) i n

def Step.tokenCount (step : Step) : Nat :=
  match step.action with
  | .text tokens => tokens.length
  | _ => 0

/-- The number of tokens of fixed text in front of a step and a token in it. -/
def Program.tokensBefore (p : Program) (position : Nat × Nat) : Nat :=
  Program.tokenCount { p with steps := p.steps.take position.1 } + position.2

def Divergence.tokensBefore (p : Program) (δ : Divergence) : Nat :=
  p.tokensBefore (δ.progress p.steps.length)

section

variable {f : Folding} {p : Program} {step : Step} {steps later : List Step} {i j id : Nat}

theorem tokenCount_cons :
    Program.tokenCount ⟨step :: steps, f⟩ = step.tokenCount + Program.tokenCount ⟨steps, f⟩ := by
  rw [Program.tokenCount, List.foldr_cons, Step.tokenCount]
  cases step.action with
  | text tokens => rfl
  | optional inner => exact (Nat.zero_add _).symm
  | «variable» rule literal => exact (Nat.zero_add _).symm

theorem tokenCount_append :
    Program.tokenCount ⟨steps ++ later, f⟩ =
      Program.tokenCount ⟨steps, f⟩ + Program.tokenCount ⟨later, f⟩ := by
  induction steps with
  | nil => exact (Nat.zero_add _).symm
  | cons step steps ih => rw [List.cons_append, tokenCount_cons, ih, tokenCount_cons, Nat.add_assoc]

theorem tokensBefore_mono (h : i ≤ j) : p.tokensBefore (i, 0) ≤ p.tokensBefore (j, 0) := by
  obtain ⟨later, hlater⟩ : p.steps.take i <+: p.steps.take j := List.take_prefix_take_left h
  simp only [Program.tokensBefore, ← hlater, tokenCount_append]
  omega

theorem tokensBefore_add (p : Program) (id offset : Nat) :
    p.tokensBefore (id, offset) = p.tokensBefore (id, 0) + offset :=
  rfl

theorem tokensBefore_succ (h : p.steps[id]? = some step) :
    p.tokensBefore (id + 1, 0) = p.tokensBefore (id, 0) + step.tokenCount := by
  simp only [Program.tokensBefore, List.take_add_one, h, Option.toList_some, tokenCount_append,
    tokenCount_cons]
  rfl

end

/-- It lies behind as much fixed text as the greatest of the numbers. -/
structure Deepest (p : Program) (counts : Set Nat) (δ : Divergence) : Prop where
  greatest : IsGreatest counts (δ.tokensBefore p)
  inside : δ.tokensBefore p ≤ p.tokensBefore ((δ.progress p.steps.length).1 + 1, 0)

section

variable {p : Program} {known counts : Set Nat} {δ δ' : Divergence} {e : Option Divergence}

theorem tokensBefore_le
    (hinside : δ.tokensBefore p ≤ p.tokensBefore ((δ.progress p.steps.length).1 + 1, 0))
    (h : (δ.progress p.steps.length).1 < (δ'.progress p.steps.length).1 ∨
      (δ.progress p.steps.length).1 = (δ'.progress p.steps.length).1 ∧
        (δ.progress p.steps.length).2 ≤ (δ'.progress p.steps.length).2) :
    δ.tokensBefore p ≤ δ'.tokensBefore p := by
  rcases h with hstep | ⟨hstep, hoffset⟩
  · have hmono := tokensBefore_mono (p := p) (Nat.succ_le_of_lt hstep)
    have hle : p.tokensBefore ((δ'.progress p.steps.length).1, 0) ≤ δ'.tokensBefore p :=
      Nat.add_le_add_left (Nat.zero_le _) _
    exact hinside.trans (hmono.trans hle)
  · rw [Divergence.tokensBefore, Divergence.tokensBefore, Program.tokensBefore,
      Program.tokensBefore, hstep]
    exact Nat.add_le_add_left hoffset _

theorem Deepest.better (h : Deepest p known δ) (h' : Deepest p counts δ') :
    ∃ δ'', Divergence.better (Divergence.progressesLess p.steps.length) (some δ) (some δ') =
        some δ'' ∧ Deepest p (known ∪ counts) δ'' := by
  have hgreatest := h.greatest.union h'.greatest
  rw [Divergence.better]
  split
  · rename_i hless
    have hle : δ.tokensBefore p ≤ δ'.tokensBefore p := by
      refine tokensBefore_le h.inside ?_
      simp only [Divergence.progressesLess, Bool.or_eq_true, Bool.and_eq_true,
        decide_eq_true_eq] at hless
      omega
    rw [max_eq_right hle] at hgreatest
    exact ⟨δ', rfl, hgreatest, h'.inside⟩
  · rename_i hless
    have hle : δ'.tokensBefore p ≤ δ.tokensBefore p := by
      refine tokensBefore_le h'.inside ?_
      simp only [Divergence.progressesLess, Bool.or_eq_true, Bool.and_eq_true,
        decide_eq_true_eq] at hless
      omega
    rw [max_eq_left hle] at hgreatest
    exact ⟨δ, rfl, hgreatest, h.inside⟩

variable {accepts : Nat → Bool} {goOn : Nat → Outcome} {rejected best : Divergence}
  {ends : List Nat} {reached : Nat → Set Nat}

theorem deepest_of_tryEnds_some
    (hgo : ∀ stop ∈ ends, accepts stop → ∀ e, goOn stop = .failed e →
      ∃ δ, e = some δ ∧ Deepest p (reached stop) δ)
    (hbest : Deepest p known best)
    (h : tryEnds p.steps.length accepts goOn rejected (some (some best)) ends = .failed e) :
    ∃ δ, e = some δ ∧
      Deepest p (known ∪ {n | ∃ stop ∈ ends, accepts stop ∧ n ∈ reached stop}) δ := by
  induction ends generalizing known best with
  | nil =>
    cases h
    exact ⟨best, rfl, by simpa using hbest⟩
  | cons first rest ih =>
    obtain ⟨hfirst, hrest⟩ := List.forall_mem_cons.1 hgo
    rw [tryEnds] at h
    split at h
    · rename_i haccepts
      split at h
      · cases h
      · rename_i found hfound
        obtain ⟨δ, rfl, hδ⟩ := hfirst haccepts found hfound
        obtain ⟨δ', hbetter, hdeepest⟩ := hbest.better hδ
        rw [Option.join_some, hbetter] at h
        obtain ⟨δ'', rfl, hresult⟩ := ih hrest hdeepest h
        refine ⟨δ'', rfl, ?_⟩
        simpa [haccepts, Set.union_assoc, Set.ofPred_or] using hresult
    · rename_i hrejects
      obtain ⟨δ, rfl, hδ⟩ := ih hrest hbest h
      exact ⟨δ, rfl, by simpa [hrejects] using hδ⟩

theorem deepest_of_tryEnds
    (hgo : ∀ stop ∈ ends, accepts stop → ∀ e, goOn stop = .failed e →
      ∃ δ, e = some δ ∧ Deepest p (reached stop) δ)
    (h : tryEnds p.steps.length accepts goOn rejected none ends = .failed e) :
    ((∀ stop ∈ ends, accepts stop = false) ∧ e = some rejected) ∨
      ∃ δ, e = some δ ∧ Deepest p {n | ∃ stop ∈ ends, accepts stop ∧ n ∈ reached stop} δ := by
  induction ends with
  | nil =>
    cases h
    exact .inl ⟨List.forall_mem_nil _, rfl⟩
  | cons first rest ih =>
    obtain ⟨hfirst, hrest⟩ := List.forall_mem_cons.1 hgo
    rw [tryEnds] at h
    split at h
    · rename_i haccepts
      split at h
      · cases h
      · rename_i found hfound
        obtain ⟨δ, rfl, hδ⟩ := hfirst haccepts found hfound
        obtain ⟨δ', rfl, hresult⟩ := deepest_of_tryEnds_some hrest hδ h
        refine .inr ⟨δ', rfl, ?_⟩
        simpa [haccepts, Set.ofPred_or] using hresult
    · rename_i hrejects
      rcases ih hrest h with ⟨hall, rfl⟩ | ⟨δ, rfl, hδ⟩
      · exact .inl ⟨List.forall_mem_cons.2 ⟨eq_false_of_ne_true hrejects, hall⟩, rfl⟩
      · exact .inr ⟨δ, rfl, by simpa [hrejects] using hδ⟩

end

section

variable [Engine] {f : Folding} {d : Document} {rest : Body} {rule : VariableRule}
  {content : List Char} {i j n : Nat}

theorem failsAfter_blank (h : textTokens f content = []) :
    FailsAfter f d (.text content rest) i n ↔ FailsAfter f d rest i n := by
  constructor
  · intro hfails
    cases hfails with
    | unmet htokens => simp [h] at htokens
    | text htext hrest =>
      rw [h, spells_nil] at htext
      subst htext
      simpa [h] using hrest
  · intro hrest
    have hspells : Spells d i i (textTokens f content) := by rw [h, spells_nil]
    simpa [h] using FailsAfter.text hspells hrest

theorem FailsAfter.le_unmet {before after : List String} {token : String}
    (h : FailsAfter f d (.text content rest) i n)
    (htokens : textTokens f content = before ++ token :: after) (hspells : Spells d i j before)
    (hne : d.text? j ≠ some token) : n ≤ before.length := by
  have hle {shared : List String} {k : Nat} (hshared : shared <+: textTokens f content)
      (hspells' : Spells d i k shared) : shared.length ≤ before.length := by
    have hkj := hspells.le_of_prefix hne (htokens ▸ hshared) hspells'
    have hk := hspells'.1
    have hj := hspells.1
    omega
  cases h with
  | unmet htokens' hspells' => exact hle ⟨_, htokens'.symm⟩ hspells'
  | text htext hrest =>
    have hlength := hle List.prefix_rfl htext
    rw [htokens, List.length_append, List.length_cons] at hlength
    omega

theorem failsAfter_text (hspells : Spells d i j (textTokens f content)) :
    FailsAfter f d (.text content rest) i n ↔
      ∃ k, FailsAfter f d rest j k ∧ (textTokens f content).length + k = n := by
  constructor
  · intro hfails
    cases hfails with
    | unmet htokens hspells' hne =>
      have hkj := hspells'.le_of_prefix hne ⟨[], by rw [htokens, List.append_nil]⟩ hspells
      have hlength := congrArg List.length htokens
      rw [List.length_append, List.length_cons] at hlength
      have hj := hspells.1
      have hk := hspells'.1
      omega
    | text htext hrest =>
      obtain rfl := htext.1.trans hspells.1.symm
      exact ⟨_, hrest, rfl⟩
  · rintro ⟨k, hrest, rfl⟩
    exact .text hspells hrest

theorem failsAfter_of_not_canGoOn (hlinear : rest.isLinear) (h : ¬ CanGoOn f d rest j) :
    FailsAfter f d rest j n ↔ n = 0 := by
  induction rest with
  | done =>
    have hne : j ≠ d.size := by simpa [CanGoOn, leadingTokens, stepCount] using h
    constructor
    · rintro ⟨⟩
      rfl
    · rintro rfl
      exact .leftover hne
  | text content rest ih =>
    by_cases hblank : textTokens f content = []
    · rw [failsAfter_blank hblank]
      refine ih hlinear fun hcan => h ?_
      simpa [CanGoOn, leadingTokens, stepCount, hblank] using hcan
    · obtain ⟨token, after, htokens⟩ := List.exists_cons_of_ne_nil hblank
      have hne : d.text? j ≠ some token := by
        intro htext
        exact h (by simp [CanGoOn, leadingTokens, stepCount, htokens, htext])
      have hsplit : textTokens f content = [] ++ token :: after := htokens
      constructor
      · intro hfails
        exact Nat.le_zero.1 (hfails.le_unmet hsplit (spells_nil.2 rfl) hne)
      · rintro rfl
        exact .unmet hsplit (spells_nil.2 rfl) hne
  | optional rule inner rest => cases hlinear
  | «variable» rule rest => exact absurd (by simp [CanGoOn, leadingTokens, stepCount]) h

theorem failsAfter_variable_of_stuck (hlinear : rest.isLinear)
    (h : ∀ j, i ≤ j → j ≤ d.size → acceptsSpan d rule (literal? f rule) i j →
      ¬ CanGoOn f d rest j) :
    FailsAfter f d (.variable rule rest) i n ↔ n = 0 := by
  constructor
  · intro hfails
    cases hfails with
    | rejected => rfl
    | accepted hle hsize haccepts hrest =>
      exact (failsAfter_of_not_canGoOn hlinear (h _ hle hsize haccepts)).1 hrest
  · rintro rfl
    by_cases hsome : ∃ j, i ≤ j ∧ j ≤ d.size ∧ acceptsSpan d rule (literal? f rule) i j
    · obtain ⟨j, hle, hsize, haccepts⟩ := hsome
      have hrest := (failsAfter_of_not_canGoOn hlinear (h j hle hsize haccepts)).2 rfl
      exact .accepted hle hsize haccepts hrest
    · refine .rejected fun j hle hsize => ?_
      exact eq_false_of_ne_true fun haccepts => hsome ⟨j, hle, hsize, haccepts⟩

end

section

variable {f : Folding} {p : Program} {d : Document} {body rest : Body} {rule : VariableRule}
  {i n id base : Nat} {link : Option Nat} {e : Option Divergence}

theorem progress_unmet (d : Document) (place id offset size : Nat) :
    (unmet d place id offset).progress size = (id, offset) := by
  unfold unmet
  split <;> rfl

/-- The numbers of tokens after which interpretations fail, with `base` tokens in front. -/
def failures [Engine] (f : Folding) (d : Document) (body : Body) (i base : Nat) : Set Nat :=
  (base + ·) '' {n | FailsAfter f d body i n}

theorem Deepest.of_failsAfter [Engine] {δ : Divergence} (hδ : δ.tokensBefore p = base + n)
    (hmem : FailsAfter f d body i n) (hle : ∀ k, FailsAfter f d body i k → k ≤ n)
    (hinside : base + n ≤ p.tokensBefore ((δ.progress p.steps.length).1 + 1, 0)) :
    Deepest p (failures f d body i base) δ := by
  refine ⟨?_, hδ ▸ hinside⟩
  rw [hδ]
  refine ⟨⟨n, hmem, rfl⟩, ?_⟩
  rintro _ ⟨k, hk, rfl⟩
  exact Nat.add_le_add_left (hle k hk) base

theorem deepest_of_unmet [Engine] {content : List Char} {before after : List String}
    {token : String} {next : Option Nat} {depth stop : Nat}
    (hstep : p.steps[id]? = some ⟨.text (textTokens f content), next, depth⟩)
    (htokens : textTokens f content = before ++ token :: after) (hspells : Spells d i stop before)
    (hne : d.text? stop ≠ some token) :
    Deepest p (failures f d (.text content rest) i (p.tokensBefore (id, 0)))
      (unmet d stop id before.length) := by
  refine .of_failsAfter ?_ (.unmet htokens hspells hne) (fun k hk => ?_) ?_
  · rw [Divergence.tokensBefore, progress_unmet, tokensBefore_add]
  · exact hk.le_unmet htokens hspells hne
  · have hlength : before.length ≤ (textTokens f content).length := by
      rw [htokens, List.length_append]
      omega
    rw [progress_unmet, tokensBefore_succ hstep]
    exact Nat.add_le_add_left hlength _

theorem failures_text [Engine] {content : List Char} {stop : Nat}
    (hspells : Spells d i stop (textTokens f content)) :
    failures f d (.text content rest) i base =
      failures f d rest stop (base + (textTokens f content).length) := by
  ext m
  simp only [failures, Set.mem_image, Set.mem_ofPred_eq, failsAfter_text hspells]
  constructor
  · rintro ⟨_, ⟨k, hk, rfl⟩, rfl⟩
    exact ⟨k, hk, Nat.add_assoc _ _ _⟩
  · rintro ⟨k, hk, rfl⟩
    exact ⟨_, ⟨k, hk, rfl⟩, (Nat.add_assoc _ _ _).symm⟩

theorem deepest_of_stuck [Engine] {depth : Nat} {literal : Option String} {δ : Divergence}
    (offset : Nat) (hlinear : rest.isLinear)
    (hstep : p.steps[id]? = some ⟨.variable rule literal, link, depth⟩)
    (hstuck : ∀ j, i ≤ j → j ≤ d.size → acceptsSpan d rule (literal? f rule) i j →
      ¬ CanGoOn f d rest j)
    (hδ : δ.progress p.steps.length = (id + offset, 0)) (hoffset : offset ≤ 1) :
    Deepest p (failures f d (.variable rule rest) i (p.tokensBefore (id, 0))) δ := by
  have hfails {k : Nat} := failsAfter_variable_of_stuck (n := k) hlinear hstuck
  have hbehind : p.tokensBefore (id + 1, 0) = p.tokensBefore (id, 0) := tokensBefore_succ hstep
  have hbase : p.tokensBefore (id + offset, 0) = p.tokensBefore (id, 0) := by
    obtain rfl | rfl : offset = 0 ∨ offset = 1 := by omega
    · rfl
    · exact hbehind
  refine .of_failsAfter (n := 0) ?_ (hfails.2 rfl) (fun k hk => (hfails.1 hk).le) ?_
  · rw [Divergence.tokensBefore, hδ, hbase, Nat.add_zero]
  · rw [hδ, Nat.add_zero, ← hbase]
    exact tokensBefore_mono (Nat.le_succ _)

theorem deepest_of_tried [Engine] {ends : List Nat} {δ : Divergence} (hlinear : rest.isLinear)
    (hbounds : ∀ stop ∈ ends, i ≤ stop ∧ stop ≤ d.size)
    (hends : ∀ stop, i ≤ stop → stop ≤ d.size → CanGoOn f d rest stop → stop ∈ ends)
    (h : Deepest p {n | ∃ stop ∈ ends, acceptsSpan d rule (literal? f rule) i stop ∧
      n ∈ failures f d rest stop base} δ) :
    Deepest p (failures f d (.variable rule rest) i base) δ := by
  obtain ⟨⟨hmem, hupper⟩, hinside⟩ := h
  obtain ⟨stop, hstop, haccepts, n, hn, hδ⟩ := hmem
  obtain ⟨hle, hsize⟩ := hbounds stop hstop
  refine ⟨⟨⟨n, .accepted hle hsize haccepts hn, hδ⟩, ?_⟩, hinside⟩
  rintro _ ⟨k, hk, rfl⟩
  cases hk with
  | rejected => exact hδ ▸ Nat.le_add_right base n
  | @accepted _ _ _ j _ hle hsize haccepts hrest =>
    by_cases hcan : CanGoOn f d rest j
    · exact hupper ⟨j, hends j hle hsize hcan, haccepts, k, hrest, rfl⟩
    · obtain rfl := (failsAfter_of_not_canGoOn hlinear hcan).1 hrest
      exact hδ ▸ Nat.le_add_right base n

theorem step_of_drop {step : Step} {later : List Step} (h : step :: later = p.steps.drop id) :
    p.steps[id]? = some step ∧ later = p.steps.drop (id + 1) := by
  refine ⟨Program.getElem?_of_prefix ⟨[], (List.append_nil _).trans h⟩, ?_⟩
  rw [← List.drop_drop, ← h]
  rfl

theorem deepest_of_failed_variable [Engine] {depth : Nat} (hlinear : rest.isLinear) (hp : p.Forward)
    (hstep : p.steps[id]? = some ⟨.variable rule (literal? f rule), link, depth⟩)
    (hlink : ∀ next ∈ link, next = id + 1) (hrest : Represents f p link rest) (hi : i ≤ d.size)
    (hgo : ∀ stop, stop ≤ d.size → ∀ e, outcomeFrom p d .exact link stop = .failed e →
      ∃ δ, e = some δ ∧ Deepest p (failures f d rest stop (p.tokensBefore (id, 0))) δ)
    (hfailed : outcomeFrom p d .exact (some id) i = .failed e) :
    ∃ δ, e = some δ ∧
      Deepest p (failures f d (.variable rule rest) i (p.tokensBefore (id, 0))) δ := by
  have hends (stop : Nat) : stop ∈ candidateEnds d .exact i (following p d link) ↔
      i ≤ stop ∧ stop ≤ d.size ∧ CanGoOn f d rest stop := hrest.mem_candidateEnds_iff hi
  rcases failed_variable_step_ends hp hstep hi hfailed with ⟨hnone, rfl⟩ | ⟨-, htried⟩
  · obtain ⟨next, -, -, rfl, -, -, -, habsent⟩ := hrest.exists_absentFollower hi hnone id
    obtain rfl := hlink next rfl
    refine ⟨_, rfl, deepest_of_stuck 1 hlinear hstep ?_ ?_ (Nat.le_refl 1)⟩
    · intro j hle hsize haccepts hcan
      have hmem := (hends j).2 ⟨hle, hsize, hcan⟩
      rw [hnone] at hmem
      cases hmem
    · rw [habsent, progress_unmet]
  · have htriedEnds := deepest_of_tryEnds
      (fun stop hstop _ e he => hgo stop ((hends stop).1 hstop).2.1 e he) htried
    rcases htriedEnds with ⟨hall, rfl⟩ | ⟨δ, rfl, hδ⟩
    · refine ⟨_, rfl, deepest_of_stuck 0 hlinear hstep ?_ rfl (Nat.zero_le 1)⟩
      intro j hle hsize haccepts hcan
      exact ne_true_of_eq_false (hall j ((hends j).2 ⟨hle, hsize, hcan⟩)) haccepts
    · refine ⟨δ, rfl, deepest_of_tried hlinear (fun stop hstop => ?_) (fun stop => ?_) hδ⟩
      · obtain ⟨hle, hsize, -⟩ := (hends stop).1 hstop
        exact ⟨hle, hsize⟩
      · exact fun hle hsize hcan => (hends stop).2 ⟨hle, hsize, hcan⟩

theorem deepest_of_failed [Engine] (hlinear : body.isLinear) (hp : p.Forward)
    (hsteps : layout f 0 id none body = p.steps.drop id) (hi : i ≤ d.size)
    (hfailed : outcomeFrom p d .exact (firstStep id (stepCount f body) none) i = .failed e) :
    ∃ δ, e = some δ ∧ Deepest p (failures f d body i (p.tokensBefore (id, 0))) δ := by
  induction body generalizing id i e with
  | done =>
    have hend : endOutcome d .exact i = .failed e := hfailed
    rw [endOutcome] at hend
    split at hend
    · cases hend
    · rename_i hne
      cases hend
      have hall : p.tokensBefore (p.steps.length, 0) = p.tokensBefore (id, 0) := by
        have hlength : p.steps.length ≤ id := List.drop_eq_nil_iff.1 hsteps.symm
        rw [Program.tokensBefore, Program.tokensBefore, List.take_length,
          List.take_of_length_le hlength]
      refine ⟨_, rfl, .of_failsAfter hall (.leftover hne) ?_ ?_⟩
      · rintro k ⟨⟩
        exact Nat.le_refl 0
      · rw [Nat.add_zero, ← hall]
        exact tokensBefore_mono (Nat.le_succ _)
  | text content rest ih =>
    by_cases hblank : textTokens f content = []
    · simp only [layout, stepCount, hblank, List.isEmpty_nil, ↓reduceIte, Nat.zero_add]
        at hsteps hfailed
      obtain ⟨δ, rfl, hδ⟩ := ih hlinear hsteps hi hfailed
      refine ⟨δ, rfl, ?_⟩
      simpa only [failures, failsAfter_blank hblank] using hδ
    · have hempty : (textTokens f content).isEmpty = false := by simpa using hblank
      simp only [layout, stepCount, hempty, Bool.false_eq_true, ↓reduceIte] at hsteps hfailed
      rw [firstStep_pos (by omega)] at hfailed
      obtain ⟨hstep, htail⟩ := step_of_drop hsteps
      rcases failed_text_step hp hstep hi hfailed with
        ⟨before, token, after, stop, htokens, hspells, hne, rfl⟩ | ⟨stop, hspells, hnext⟩
      · exact ⟨_, rfl, deepest_of_unmet hstep htokens hspells hne⟩
      · obtain ⟨δ, rfl, hδ⟩ := ih hlinear htail (hspells.le_size hi).2 hnext
        refine ⟨δ, rfl, ?_⟩
        rw [failures_text hspells]
        rwa [tokensBefore_succ hstep] at hδ
  | optional rule inner rest => cases hlinear
  | «variable» rule rest ih =>
    rw [layout] at hsteps
    rw [stepCount, firstStep_pos (by omega)] at hfailed
    obtain ⟨hstep, htail⟩ := step_of_drop hsteps
    have hlater : p.tokensBefore (id + 1, 0) = p.tokensBefore (id, 0) := tokensBefore_succ hstep
    have hrest : Represents f p (firstStep (id + 1) (stepCount f rest) none) rest := by
      have hlayout := represents_layout ⟨[], (List.append_nil _).trans htail⟩ .done
      rwa [Body.append_done] at hlayout
    have hlink : ∀ next ∈ firstStep (id + 1) (stepCount f rest) none, next = id + 1 := by
      intro next hnext
      rw [firstStep] at hnext
      split at hnext
      · cases hnext
      · exact (Option.some.inj hnext).symm
    exact deepest_of_failed_variable hlinear hp hstep hlink hrest hi
      (fun stop hstop e he => hlater ▸ ih hlinear htail hstop he) hfailed

end

/-- Without optional regions, the divergence lies behind the most fixed text of all failures. -/
theorem difference_behind_most_tokens [Engine] (m : Matcher) (template text : List Char)
    {body : Body} (hparse : Body.parse (stripComments template) = .ok body)
    (hlinear : body.isLinear) :
    let f := m.settings.folding
    let d := m.prepare text
    let p := Program.ofBody f body
    ∃ difference, m.compare template text = .ok difference ∧
      (difference.found = false ↔ Derives f d body 0 d.size) ∧
      (difference.found = true → ∃ δ, exactOutcome p d = .failed (some δ) ∧
        difference = describe p d m.settings.contextTokens (some δ) ∧
        IsGreatest {n | FailsAfter f d body 0 n} (δ.tokensBefore p)) := by
  intro f d p
  have hcompare : m.compare template text = .ok (m.comparePrepared p d) := by
    rw [Matcher.compare, Matcher.compile_of_parse hparse]
  refine ⟨_, hcompare, ?_, fun hfound => ?_⟩
  · rw [Matcher.comparePrepared, compareWith_found, exactOutcome_isMatch]
  · rw [Matcher.comparePrepared] at hfound ⊢
    obtain ⟨e, hfailed, hreport⟩ := exists_failed_of_found hfound
    have hentry := hfailed
    rw [Program.entry_ofBody] at hentry
    obtain ⟨δ, rfl, hδ⟩ := deepest_of_failed hlinear (Program.ofBody_forward f body)
      (List.drop_zero).symm (Nat.zero_le _) hentry
    refine ⟨δ, ?_, hreport, ?_⟩
    · rw [exactOutcome, entryOutcome_eq, hfailed]
    · have hgreatest := hδ.greatest
      have hzero : (Program.ofBody f body).tokensBefore (0, 0) = 0 := rfl
      simpa only [failures, hzero, Nat.zero_add, Set.image_id'] using hgreatest

theorem difference_behind_most_tokens_repeated_word :
    let m : Matcher := {}
    let template := "copyright <<var;name=c;match=.{1,40}>> you may use it.".toList
    let text := "copyright x you may abuse it. you too.".toList
    ∃ body difference δ, Body.parse (stripComments template) = .ok body ∧ body.isLinear ∧
      m.compare template text = .ok difference ∧ difference.found = true ∧
      Divergence.tokensBefore (.ofBody {} body) δ = 3 ∧
      IsGreatest {n | FailsAfter {} (m.prepare text) body 0 n} 3 := by
  intro m template text
  have hparsed : (Body.parse (stripComments template)).toOption.any fun body =>
      body.isLinear && exactOutcome (.ofBody {} body) (m.prepare text) =
        .failed (some (.mismatch 4 2 2)) && Divergence.tokensBefore (.ofBody {} body)
          (.mismatch 4 2 2) = 3 := by
    decide +kernel
  have hfound : (m.compare template text).toOption.any (·.found) := by decide +kernel
  cases hparse : Body.parse (stripComments template) with
  | error e =>
    rw [hparse] at hparsed
    cases hparsed
  | ok body =>
    rw [hparse] at hparsed
    obtain ⟨hleft, htokens⟩ := Bool.and_eq_true_iff.1 (show (_ && _) = true from hparsed)
    obtain ⟨hlinear, houtcome⟩ := Bool.and_eq_true_iff.1 hleft
    obtain ⟨difference, hcompare, -, hgreatest⟩ :=
      difference_behind_most_tokens m template text hparse hlinear
    rw [hcompare] at hfound
    obtain ⟨δ, hδ, -, hmost⟩ := hgreatest hfound
    obtain rfl : δ = .mismatch 4 2 2 := by
      simpa using hδ.symm.trans (of_decide_eq_true houtcome)
    have hthree := of_decide_eq_true htokens
    exact ⟨body, difference, _, rfl, hlinear, hcompare, hfound, hthree, hthree ▸ hmost⟩

end Licensing.Matching
