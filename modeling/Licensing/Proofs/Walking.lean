import Licensing.Matching.Walk
import Licensing.Proofs.Preferred

namespace Licensing.Matching

open Licensing.Text Licensing.Template

def Program.Closed (p : Program) : Prop :=
  ∀ (id : Nat) (step : Step), p.steps[id]? = some step → ∀ link ∈ step.links, link < p.steps.length

/-- A link leads to a step of the program, and from there on there are no more steps than `fuel`. -/
def Program.Allows (p : Program) (fuel : Nat) (link : Option Nat) : Prop :=
  ∀ id ∈ link, id < p.steps.length ∧ p.steps.length ≤ id + fuel

/-- All known answers about positions in the text are those of the search. -/
def Memo.Right [Engine] (p : Program) (d : Document) (mode : Mode) (memo : Memo) : Prop :=
  ∀ id place answer, ((id, place), answer) ∈ memo → place ≤ d.size →
    answer = (outcomeFrom p d mode (some id) place).answer

/-- What comes out of taking an optional region. A region without steps cannot be taken. -/
def takenOutcome [Engine] (p : Program) (d : Document) (mode : Mode) (inner : Option Nat)
    (place : Nat) :
    Outcome :=
  match inner with
  | some inner => outcomeFrom p d mode (some inner) place
  | none => .failed none

def joinBefore (found later : List Region) : List Region :=
  found.foldl (fun later region => addRegion region.1 region.2 later) later

def Untouched (found : List Region) : Prop :=
  found.IsChain fun region before => before.2 ≠ region.1

/-- The regions are those found so far, and those of a match from a step on if there is one. -/
def Collected [Engine] (p : Program) (d : Document) (mode : Mode) (link : Option Nat) (place : Nat)
    (found regions : List Region) : Prop :=
  Untouched found → place ≤ d.size → ∀ later, outcomeFrom p d mode link place = .matched later →
    regions = joinBefore found later

/-- A walk that knows only what is right learns only what is right, and its result is as said. -/
def Walk.Gives [Engine] {α : Type} (p : Program) (d : Document) (mode : Mode) (walk : Walk α)
    (P : α → Prop) : Prop :=
  ∀ memo, ∃ a memo', walk.run memo = some (a, memo') ∧
    (memo.Right p d mode → memo'.Right p d mode ∧ P a)

section

variable {α β : Type} {p : Program} {d : Document} {mode : Mode} {id place : Nat}
  {link : Option Nat} {step : Step}

namespace Program

theorem allows_of_le {fuel : Nat} (hfuel : p.steps.length ≤ fuel)
    (hlink : ∀ id ∈ link, id < p.steps.length) : p.Allows fuel link :=
  fun id hid => ⟨hlink id hid, Nat.le_trans hfuel (Nat.le_add_left fuel id)⟩

theorem lt_length_of_entry (h : p.entry = some id) : id < p.steps.length := by
  rw [entry, firstStep] at h
  split at h
  · cases h
  · cases h
    omega

theorem Allows.behind {fuel : Nat} {next : Option Nat} (hforward : p.Forward) (hclosed : p.Closed)
    (h : p.Allows (fuel + 1) (some id)) (hstep : p.steps[id]? = some step)
    (hnext : ∀ link ∈ next, link ∈ step.links) : p.Allows fuel next := by
  intro link hlink
  have hlater := hforward id step hstep link (hnext link hlink)
  have hle := (h id rfl).2
  exact ⟨hclosed id step hstep link (hnext link hlink), by omega⟩

/-- What holds of steps if it holds behind their links holds wherever links lead. -/
theorem link_induction {motive : Nat → Option Nat → Prop} (hforward : p.Forward)
    (hclosed : p.Closed) (hend : ∀ fuel, motive fuel none)
    (hstep : ∀ fuel id step, p.steps[id]? = some step →
      (∀ next : Option Nat, (∀ link ∈ next, link ∈ step.links) → motive fuel next) →
      motive (fuel + 1) (some id))
    {fuel : Nat} (h : p.Allows fuel link) : motive fuel link := by
  induction fuel generalizing link with
  | zero =>
    cases link with
    | none => exact hend 0
    | some id =>
      obtain ⟨hlt, hle⟩ := h id rfl
      exact absurd hlt (Nat.not_lt_of_le hle)
  | succ fuel ih =>
    cases link with
    | none => exact hend (fuel + 1)
    | some id =>
      have hlt := (h id rfl).1
      have hget : p.steps[id]? = some p.steps[id] := List.getElem?_eq_getElem hlt
      refine hstep fuel id _ hget fun next hnext => ?_
      exact ih (h.behind hforward hclosed hget hnext)

end Program

namespace Walk

theorem Gives.pure [Engine] {a : α} {P : α → Prop} (h : P a) : Gives p d mode (pure a) P :=
  fun memo => ⟨a, memo, rfl, fun hmemo => ⟨hmemo, h⟩⟩

theorem Gives.bind [Engine] {walk : Walk α} {goOn : α → Walk β} {P : α → Prop} {Q : β → Prop}
    (h : Gives p d mode walk P) (hgoOn : ∀ a, Gives p d mode (goOn a) fun b => P a → Q b) :
    Gives p d mode (walk >>= goOn) Q := by
  intro memo
  obtain ⟨a, memo', hwalk, hright⟩ := h memo
  obtain ⟨b, memo'', hrest, hright'⟩ := hgoOn a memo'
  refine ⟨b, memo'', ?_, fun hmemo => ?_⟩
  · rw [StateT.run_bind, hwalk]
    exact hrest
  · obtain ⟨hmemo', ha⟩ := hright hmemo
    obtain ⟨hmemo'', hb⟩ := hright' hmemo'
    exact ⟨hmemo'', hb ha⟩

theorem Gives.mono [Engine] {walk : Walk α} {P Q : α → Prop} (h : Gives p d mode walk P)
    (hPQ : ∀ a, P a → Q a) : Gives p d mode walk Q := by
  intro memo
  obtain ⟨a, memo', hwalk, hright⟩ := h memo
  exact ⟨a, memo', hwalk, fun hmemo => (hright hmemo).imp_right (hPQ a)⟩

theorem Gives.isSome [Engine] {walk : Walk α} {P : α → Prop} (h : Gives p d mode walk P)
    (memo : Memo) : (walk.run memo).isSome := by
  obtain ⟨a, memo', hwalk, -⟩ := h memo
  rw [hwalk]
  rfl

theorem Gives.find [Engine] {found : Option α} {a : α} {goOn : α → Walk β} {Q : β → Prop}
    (hfound : found = some a) (h : Gives p d mode (goOn a) Q) :
    Gives p d mode (do let a ← (found : Option α); goOn a) Q := by
  subst hfound
  exact h

theorem answer_eq_matched {outcome : Outcome} (h : outcome.answer = .matched) :
    ∃ regions, outcome = .matched regions := by
  cases outcome with
  | matched regions => exact ⟨regions, rfl⟩
  | failed divergence => cases h

theorem answer_eq_failed {outcome : Outcome} {divergence : Option Divergence}
    (h : outcome.answer = .failed divergence) : outcome = .failed divergence := by
  cases outcome with
  | matched regions => cases h
  | failed divergence =>
    cases h
    rfl

theorem matchText_eq (hstep : p.steps[id]? = some step) :
    matchText p d id place = some (match step.action with
      | .text tokens => matchTokens d id 0 place tokens
      | _ => .ok place) := by
  rw [matchText, hstep]
  rfl

def acceptedEnds (test : Nat → Bool) (absent rejected : Divergence) (ends : List Nat) :
    Except Divergence (List Nat) :=
  match ends with
  | [] => .error absent
  | ends =>
    match ends.filter test with
    | [] => .error rejected
    | accepted => .ok accepted

section

variable {test : Nat → Bool} {absent rejected : Divergence}

theorem acceptedEnds_cons {first : Nat} {rest : List Nat} :
    acceptedEnds test absent rejected (first :: rest) =
      if (first :: rest).filter test = [] then .error rejected
      else .ok ((first :: rest).filter test) := by
  unfold acceptedEnds
  dsimp only
  cases (first :: rest).filter test <;> rfl

theorem toOption_acceptedEnds {ends : List Nat} :
    (acceptedEnds test absent rejected ends).toOption.getD [] = ends.filter test := by
  cases ends with
  | nil => rfl
  | cons first rest =>
    rw [acceptedEnds_cons]
    split
    · rename_i hnone
      rw [hnone]
      rfl
    · rfl

end

theorem variableEnds_eq [Engine] {rule : VariableRule} {literal : Option String} {next : Option Nat}
    {depth : Nat} (hclosed : p.Closed)
    (hstep : p.steps[id]? = some ⟨.variable rule literal, next, depth⟩) (place : Nat) :
    variableEnds p d mode id place =
      some (acceptedEnds (acceptsSpan d rule literal place) (absentFollower p d next id place)
        (.variable place id) (candidateEnds d mode place (following p d next))) := by
  rw [variableEnds, hstep]
  simp only [Option.bind_eq_bind, Option.bind_some]
  cases candidateEnds d mode place (following p d next) with
  | cons first rest =>
    rw [acceptedEnds_cons]
    dsimp only
    cases (first :: rest).filter (acceptsSpan d rule literal place) <;> rfl
  | nil =>
    cases next with
    | none => rfl
    | some next =>
      have hlt : next < p.steps.length := hclosed id _ hstep next (Step.mem_links_of_next rfl)
      have hnext : p.steps[next]? = some p.steps[next] := List.getElem?_eq_getElem hlt
      simp only [matchText_eq hnext, absentFollower, Program.textAt?, hnext, Option.bind_some]
      cases p.steps[next].action with
      | text tokens =>
        simp only [Option.map_some]
        cases matchTokens d next 0 place tokens <;> rfl
      | optional inner => rfl
      | «variable» rule literal => rfl

theorem gives_tryEach [Engine] {goOn : Nat → Walk Answer} {outcome : Nat → Outcome} (size : Nat)
    (test : Nat → Bool) (rejected : Divergence)
    (hgoOn : ∀ stop, Gives p d mode (goOn stop) fun answer =>
      stop ≤ d.size → answer = (outcome stop).answer)
    (ends : List Nat) (best : Option Divergence) :
    Gives p d mode (tryEach size goOn best (ends.filter test)) fun answer =>
      (∀ stop ∈ ends, stop ≤ d.size) →
        answer = (tryEnds size test outcome rejected (some best) ends).answer := by
  induction ends generalizing best with
  | nil => exact .pure fun _ => rfl
  | cons stop rest ih =>
    cases htest : test stop with
    | false =>
      rw [List.filter_cons_of_neg (by simp [htest])]
      refine (ih best).mono fun answer h hsize => ?_
      rw [tryEnds, htest]
      exact h (List.forall_mem_cons.1 hsize).2
    | true =>
      rw [List.filter_cons_of_pos htest]
      refine (hgoOn stop).bind fun answer => ?_
      cases answer with
      | matched =>
        refine .pure fun hanswer hsize => ?_
        obtain ⟨regions, hregions⟩ :=
          answer_eq_matched (hanswer (hsize stop List.mem_cons_self)).symm
        rw [tryEnds, if_pos htest, hregions]
        rfl
      | failed divergence =>
        refine (ih _).mono fun answer h hanswer hsize => ?_
        have hfailed := answer_eq_failed (hanswer (hsize stop List.mem_cons_self)).symm
        rw [tryEnds, if_pos htest, hfailed]
        exact h (List.forall_mem_cons.1 hsize).2

theorem tryEnds_none {size : Nat} {outcome : Nat → Outcome} {test : Nat → Bool}
    {rejected : Divergence} {ends : List Nat} :
    tryEnds size test outcome rejected none ends =
      if ends.filter test = [] then .failed (some rejected)
      else tryEnds size test outcome rejected (some none) ends := by
  induction ends with
  | nil => rfl
  | cons stop rest ih =>
    cases htest : test stop with
    | false =>
      rw [tryEnds, htest, if_neg Bool.false_ne_true, ih, List.filter_cons_of_neg (by simp [htest]),
        tryEnds, htest, if_neg Bool.false_ne_true]
    | true =>
      rw [List.filter_cons_of_pos htest, if_neg (List.cons_ne_nil _ _), tryEnds, tryEnds,
        if_pos htest, if_pos htest]
      rfl

def AnswersLinks [Engine] (p : Program) (d : Document) (mode : Mode) (step : Step)
    (goOn : Option Nat → Nat → Walk Answer) : Prop :=
  ∀ next : Option Nat, (∀ link ∈ next, link ∈ step.links) → ∀ place,
    Gives p d mode (goOn next place) fun answer =>
      place ≤ d.size → answer = (outcomeFrom p d mode next place).answer

section

variable [Engine] {goOn : Option Nat → Nat → Walk Answer} {next : Option Nat} {depth : Nat}

theorem AnswersLinks.behind (h : AnswersLinks p d mode step goOn) (place : Nat) :
    Gives p d mode (goOn step.next place) fun answer =>
      place ≤ d.size → answer = (outcomeFrom p d mode step.next place).answer :=
  h step.next (fun _ hlink => Step.mem_links_of_next hlink) place

theorem gives_answerStep_text {tokens : List String}
    (hstep : p.steps[id]? = some ⟨.text tokens, next, depth⟩)
    (hgoOn : AnswersLinks p d mode ⟨.text tokens, next, depth⟩ goOn) (place : Nat) :
    Gives p d mode (answerStep p d mode goOn id place) fun answer => place ≤ d.size →
      answer = (stepOutcome p d mode (outcomeFrom p d mode) id ⟨.text tokens, next, depth⟩
        .nothing place).answer := by
  refine .find hstep (.find (matchText_eq hstep) ?_)
  rw [stepOutcome]
  dsimp only
  cases htokens : matchTokens d id 0 place tokens with
  | error divergence => exact .pure fun _ => rfl
  | ok stop =>
    refine (hgoOn.behind stop).mono fun answer hanswer hplace => ?_
    rw [hanswer ((matchTokens_ok.1 htokens).le_size hplace).2]
    dsimp only
    cases outcomeFrom p d mode next stop <;> rfl

theorem stepOutcome_optional {inner : Option Nat} {follower : Following} :
    stepOutcome p d mode (outcomeFrom p d mode) id ⟨.optional inner, next, depth⟩ follower place =
      match takenOutcome p d mode inner place with
      | .matched regions => .matched regions
      | .failed divergence =>
        match outcomeFrom p d mode next place with
        | .matched regions => .matched regions
        | .failed divergence' =>
          .failed (Divergence.better Divergence.reachesLess divergence divergence') := rfl

theorem gives_answerStep_optional {inner : Option Nat}
    (hstep : p.steps[id]? = some ⟨.optional inner, next, depth⟩)
    (hgoOn : AnswersLinks p d mode ⟨.optional inner, next, depth⟩ goOn) (place : Nat) :
    Gives p d mode (answerStep p d mode goOn id place) fun answer => place ≤ d.size →
      answer = (stepOutcome p d mode (outcomeFrom p d mode) id ⟨.optional inner, next, depth⟩
        .nothing place).answer := by
  have hpresent : Gives p d mode
      (if inner.isSome then goOn inner place else Pure.pure (.failed none)) fun answer =>
        place ≤ d.size → answer = (takenOutcome p d mode inner place).answer := by
    cases inner with
    | none => exact .pure fun _ => rfl
    | some inner =>
      refine hgoOn (some inner) (fun link hlink => ?_) place
      cases hlink
      exact Step.mem_links_of_inner rfl
  rw [stepOutcome_optional]
  refine .find hstep (hpresent.bind fun present => ?_)
  cases present with
  | matched =>
    refine .pure fun hanswer hplace => ?_
    obtain ⟨regions, hregions⟩ := answer_eq_matched (hanswer hplace).symm
    rw [hregions]
    rfl
  | failed divergence =>
    refine (hgoOn.behind place).bind fun absent => ?_
    cases absent with
    | matched =>
      refine .pure fun habsent hanswer hplace => ?_
      obtain ⟨regions, hregions⟩ := answer_eq_matched (habsent hplace).symm
      rw [answer_eq_failed (hanswer hplace).symm, hregions]
      rfl
    | failed divergence' =>
      refine .pure fun habsent hanswer hplace => ?_
      rw [answer_eq_failed (hanswer hplace).symm, answer_eq_failed (habsent hplace).symm]
      rfl

theorem gives_answerStep_variable (hclosed : p.Closed) {rule : VariableRule}
    {literal : Option String} (hstep : p.steps[id]? = some ⟨.variable rule literal, next, depth⟩)
    (hgoOn : AnswersLinks p d mode ⟨.variable rule literal, next, depth⟩ goOn) (place : Nat) :
    Gives p d mode (answerStep p d mode goOn id place) fun answer => place ≤ d.size →
      answer = (stepOutcome p d mode (outcomeFrom p d mode) id ⟨.variable rule literal, next, depth⟩
        (following p d next) place).answer := by
  refine .find hstep (.find (variableEnds_eq hclosed hstep place) ?_)
  rw [stepOutcome]
  dsimp only
  cases hends : candidateEnds d mode place (following p d next) with
  | nil => exact .pure fun _ => rfl
  | cons first rest =>
    have htried := gives_tryEach p.steps.length (acceptsSpan d rule literal place)
      (.variable place id) hgoOn.behind (first :: rest) none
    rw [acceptedEnds_cons]
    dsimp only
    rw [tryEnds_none]
    cases haccepted : (first :: rest).filter (acceptsSpan d rule literal place) with
    | nil => exact .pure fun _ => rfl
    | cons stop later =>
      rw [haccepted] at htried
      refine htried.mono fun answer hanswer hplace => ?_
      rw [if_neg (List.cons_ne_nil _ _)]
      apply hanswer
      intro stop hstop
      exact (candidateEnds_bounds hplace (hends ▸ hstop)).2

theorem gives_answerStep (hclosed : p.Closed) (hstep : p.steps[id]? = some step)
    (hgoOn : AnswersLinks p d mode step goOn) (place : Nat) :
    Gives p d mode (answerStep p d mode goOn id place) fun answer => place ≤ d.size →
      answer = (stepOutcome p d mode (outcomeFrom p d mode) id step (step.follower p d)
        place).answer := by
  obtain ⟨action, next, depth⟩ := step
  cases action with
  | text tokens => exact gives_answerStep_text hstep hgoOn place
  | optional inner => exact gives_answerStep_optional hstep hgoOn place
  | «variable» rule literal => exact gives_answerStep_variable hclosed hstep hgoOn place

end

theorem run_solve [Engine] (fuel id place : Nat) (memo : Memo) :
    (solve p d mode (fuel + 1) (some id) place).run memo =
      match memo.lookup (id, place) with
      | some known => some (known, memo)
      | none => ((answerStep p d mode (solve p d mode fuel) id place).run memo).map
          fun (answer, memo') => (answer, ((id, place), answer) :: memo') := by
  rw [solve, StateT.run_bind, StateT.run_get]
  change (match memo.lookup (id, place) with
    | some known => _
    | none => _ : Walk Answer).run memo = _
  cases memo.lookup (id, place) with
  | some known => rfl
  | none =>
    simp only [StateT.run_bind]
    cases (answerStep p d mode (solve p d mode fuel) id place).run memo <;> rfl

theorem mem_of_lookup {memo : Memo} {key : Nat × Nat} {known : Answer}
    (h : memo.lookup key = some known) : (key, known) ∈ memo := by
  obtain ⟨before, after, rfl, -⟩ := List.lookup_eq_some_iff.1 h
  exact List.mem_append_right before List.mem_cons_self

/-- A walk from a step learns the answer of the step, if it does not know it. -/
theorem gives_solve_step [Engine] (hforward : p.Forward) (hclosed : p.Closed) {fuel : Nat}
    (hstep : p.steps[id]? = some step) (hlinks : AnswersLinks p d mode step (solve p d mode fuel))
    (place : Nat) :
    Gives p d mode (solve p d mode (fuel + 1) (some id) place) fun answer =>
      place ≤ d.size → answer = (outcomeFrom p d mode (some id) place).answer := by
  intro memo
  rw [run_solve]
  cases hlookup : memo.lookup (id, place) with
  | some known =>
    refine ⟨known, memo, rfl, fun hmemo => ⟨hmemo, fun hplace => ?_⟩⟩
    exact hmemo id place known (mem_of_lookup hlookup) hplace
  | none =>
    obtain ⟨answer, memo', hrun, hright⟩ := gives_answerStep hclosed hstep hlinks place memo
    rw [hrun]
    refine ⟨answer, ((id, place), answer) :: memo', rfl, fun hmemo => ?_⟩
    obtain ⟨hmemo', hanswer⟩ := hright hmemo
    have hlearned (hplace : place ≤ d.size) :
        answer = (outcomeFrom p d mode (some id) place).answer := by
      rw [outcomeFrom_step hforward hstep hplace]
      exact hanswer hplace
    refine ⟨fun id' place' answer' hmem hplace => ?_, hlearned⟩
    rcases List.mem_cons.1 hmem with heq | hmem
    · cases heq
      exact hlearned hplace
    · exact hmemo' id' place' answer' hmem hplace

/-- A walk finds what it asks for, and what it answers is right if what it knows is. -/
theorem gives_solve [Engine] (hforward : p.Forward) (hclosed : p.Closed) {fuel : Nat}
    (h : p.Allows fuel link) (place : Nat) :
    Gives p d mode (solve p d mode fuel link place) fun answer =>
      place ≤ d.size → answer = (outcomeFrom p d mode link place).answer := by
  refine Program.link_induction (motive := fun fuel link => ∀ place,
    Gives p d mode (solve p d mode fuel link place) fun answer =>
      place ≤ d.size → answer = (outcomeFrom p d mode link place).answer)
    hforward hclosed ?_ ?_ h place
  · intro fuel place
    unfold solve
    exact .pure fun _ => rfl
  · intro fuel id step hstep hlinks place
    exact gives_solve_step hforward hclosed hstep hlinks place

theorem addRegion_addRegion {start middle stop : Nat} {later : List Region} :
    addRegion start middle (addRegion middle stop later) = addRegion start stop later := by
  cases later with
  | nil => simp [addRegion]
  | cons region later =>
    by_cases h : stop = region.1 <;> simp [addRegion, h]

theorem joinBefore_extendRegions {start stop : Nat} {found later : List Region} :
    joinBefore (extendRegions start stop found) later =
      joinBefore found (addRegion start stop later) := by
  cases found with
  | nil => rfl
  | cons region before =>
    rw [extendRegions]
    split
    · rename_i h
      subst h
      exact congrArg (joinBefore before) addRegion_addRegion.symm
    · rfl

theorem Untouched.extendRegions {start stop : Nat} {found : List Region} (h : Untouched found) :
    Untouched (extendRegions start stop found) := by
  cases found with
  | nil => exact List.isChain_singleton _
  | cons region before =>
    rw [Matching.extendRegions]
    split
    · cases before with
      | nil => exact List.isChain_singleton _
      | cons second before =>
        obtain ⟨hne, hbefore⟩ := List.isChain_cons_cons.1 h
        exact List.isChain_cons_cons.2 ⟨hne, hbefore⟩
    · rename_i hne
      exact List.isChain_cons_cons.2 ⟨hne, h⟩

theorem joinBefore_eq {found later : List Region} (h : Untouched found)
    (hlast : ∀ region ∈ found.head?, ∀ next ∈ later.head?, region.2 ≠ next.1) :
    joinBefore found later = found.reverse ++ later := by
  induction found generalizing later with
  | nil => rfl
  | cons region before ih =>
    have hadd : addRegion region.1 region.2 later = region :: later := by
      cases later with
      | nil => rfl
      | cons next later =>
        rw [addRegion, if_neg (hlast region rfl next rfl)]
    have hbefore : ∀ second ∈ before.head?, second.2 ≠ region.1 := by
      cases before with
      | nil => simp
      | cons second before => simpa using (List.isChain_cons_cons.1 h).1
    rw [joinBefore, List.foldl_cons, hadd, List.reverse_cons, List.append_assoc]
    exact ih h.tail (by simpa using hbefore)

theorem gives_accepts [Engine] (mode : Mode) (hforward : p.Forward) (hclosed : p.Closed)
    (hlink : ∀ id ∈ link, id < p.steps.length) (place : Nat) :
    Gives p d mode (accepts p d mode link place) fun found =>
      place ≤ d.size → found = (outcomeFrom p d mode link place).isMatch := by
  have hallows := Program.allows_of_le (Nat.le_refl _) hlink
  rw [accepts, ← bind_pure_comp]
  refine (gives_solve hforward hclosed hallows place).bind fun answer => ?_
  refine .pure fun hanswer hplace => ?_
  rw [hanswer hplace]
  cases outcomeFrom p d mode link place <;> rfl

theorem gives_findM? [Engine] {test : Nat → Walk Bool} {outcome : Nat → Outcome}
    (h : ∀ stop, Gives p d mode (test stop) fun found =>
      stop ≤ d.size → found = (outcome stop).isMatch) (ends : List Nat) :
    Gives p d mode (ends.findM? test) fun found? => (∀ stop ∈ ends, stop ≤ d.size) →
      found? = ends.find? fun stop => (outcome stop).isMatch := by
  induction ends with
  | nil => exact .pure fun _ => rfl
  | cons stop rest ih =>
    rw [List.findM?]
    refine (h stop).bind fun found => ?_
    cases found with
    | true =>
      refine .pure fun hfound hsize => ?_
      rw [List.find?_cons, ← hfound (hsize stop List.mem_cons_self)]
    | false =>
      refine ih.mono fun found? hrest hfound hsize => ?_
      obtain ⟨hstop, hsize⟩ := List.forall_mem_cons.1 hsize
      rw [List.find?_cons, ← hfound hstop]
      exact hrest hsize

theorem gives_reverse [Engine] (place : Nat) (found : List Region) :
    Gives p d mode (Pure.pure found.reverse) (Collected p d mode none place found) := by
  refine .pure fun hfound _ later hmatch => ?_
  have hend : endOutcome d mode place = .matched later := hmatch
  have hlater : later = [] := by
    unfold endOutcome at hend
    split at hend
    · cases hend
      rfl
    · split at hend <;> cases hend
      rfl
  rw [hlater, joinBefore_eq hfound (by simp), List.append_nil]

def CollectsLinks [Engine] (p : Program) (d : Document) (mode : Mode) (step : Step) (fuel : Nat) :
    Prop :=
  ∀ next : Option Nat, (∀ link ∈ next, link ∈ step.links) → ∀ place found,
    Gives p d mode (regionsFrom p d mode fuel next place found)
      (Collected p d mode next place found)

section

variable [Engine] {next : Option Nat} {depth fuel : Nat}

theorem CollectsLinks.behind (h : CollectsLinks p d mode step fuel) (place : Nat)
    (found : List Region) :
    Gives p d mode (regionsFrom p d mode fuel step.next place found)
      (Collected p d mode step.next place found) :=
  h step.next (fun _ hlink => Step.mem_links_of_next hlink) place found

theorem gives_regionsFrom_text {tokens : List String} (hforward : p.Forward)
    (hstep : p.steps[id]? = some ⟨.text tokens, next, depth⟩)
    (hgoOn : CollectsLinks p d mode ⟨.text tokens, next, depth⟩ fuel) (place : Nat)
    (found : List Region) :
    Gives p d mode (regionsFrom p d mode (fuel + 1) (some id) place found)
      (Collected p d mode (some id) place found) := by
  refine .find hstep ((hgoOn.behind _ _).mono fun regions hregions hfound hplace later h => ?_)
  obtain ⟨stop, later, hspells, hmatch, rfl⟩ := matched_text_step hforward hstep hplace h
  obtain rfl := hspells.1
  have hjoin := fun hfound => hregions hfound (hspells.le_size hplace).2 later hmatch
  by_cases hdepth : depth = 0
  · simp only [hdepth, ↓reduceIte] at hjoin ⊢
    rw [hjoin (Untouched.extendRegions hfound), joinBefore_extendRegions]
  · simp only [hdepth, ↓reduceIte] at hjoin ⊢
    exact hjoin hfound

theorem gives_regionsFrom_optional {inner : Option Nat} (hforward : p.Forward) (hclosed : p.Closed)
    (hstep : p.steps[id]? = some ⟨.optional inner, next, depth⟩)
    (hgoOn : CollectsLinks p d mode ⟨.optional inner, next, depth⟩ fuel) (place : Nat)
    (found : List Region) :
    Gives p d mode (regionsFrom p d mode (fuel + 1) (some id) place found)
      (Collected p d mode (some id) place found) := by
  have hinner : ∀ link ∈ inner, link ∈ Step.links ⟨.optional inner, next, depth⟩ :=
    fun link hlink => Step.mem_links_of_inner (congrArg _ hlink)
  have htaken : Gives p d mode
      (if inner.isSome then accepts p d mode inner place else Pure.pure false) fun taken =>
        place ≤ d.size → taken = (inner.isSome && (outcomeFrom p d mode inner place).isMatch) := by
    cases inner with
    | none => exact .pure fun _ => rfl
    | some inner =>
      refine gives_accepts mode hforward hclosed (fun link hlink => ?_) place
      exact hclosed id _ hstep link (hinner link hlink)
  refine .find hstep (htaken.bind fun taken => ?_)
  cases taken with
  | true =>
    refine (hgoOn inner hinner place found).mono fun regions hregions h => ?_
    intro hfound hplace later hmatch
    apply hregions hfound hplace later
    rcases preferred_optional_step hforward hstep hplace hmatch with ⟨-, hmatch⟩ | ⟨hnot, -⟩
    · exact hmatch
    · obtain ⟨hsome, hmatched⟩ := Bool.and_eq_true_iff.1 (h hplace).symm
      rw [hnot hsome] at hmatched
      cases hmatched
  | false =>
    refine (hgoOn.behind place found).mono fun regions hregions h => ?_
    intro hfound hplace later hmatch
    apply hregions hfound hplace later
    rcases preferred_optional_step hforward hstep hplace hmatch with ⟨hsome, hmatch⟩ | ⟨-, hmatch⟩
    · have hfalse := h hplace
      rw [hsome, hmatch] at hfalse
      cases hfalse
    · exact hmatch

theorem gives_regionsFrom_variable (hforward : p.Forward) (hclosed : p.Closed)
    {rule : VariableRule} {literal : Option String}
    (hstep : p.steps[id]? = some ⟨.variable rule literal, next, depth⟩)
    (hgoOn : CollectsLinks p d mode ⟨.variable rule literal, next, depth⟩ fuel) (place : Nat)
    (found : List Region) :
    Gives p d mode (regionsFrom p d mode (fuel + 1) (some id) place found)
      (Collected p d mode (some id) place found) := by
  refine .find hstep (.find (variableEnds_eq hclosed hstep place) ?_)
  rw [toOption_acceptedEnds]
  have haccepts := gives_accepts (d := d) mode hforward hclosed fun link hlink =>
    hclosed id _ hstep link (Step.mem_links_of_next hlink)
  have hfind := gives_findM? haccepts
    ((candidateEnds d mode place (following p d next)).filter (acceptsSpan d rule literal place))
  -- The end that is found is the one that the match takes.
  have hstop {found? : Option Nat} {later : List Region} (hplace : place ≤ d.size)
      (h : (∀ stop ∈ (candidateEnds d mode place (following p d next)).filter
          (acceptsSpan d rule literal place), stop ≤ d.size) → found? =
        ((candidateEnds d mode place (following p d next)).filter
          (acceptsSpan d rule literal place)).find? fun stop =>
            (outcomeFrom p d mode next stop).isMatch)
      (hmatch : outcomeFrom p d mode (some id) place = .matched later) :
      ∃ stop, found? = some stop ∧ stop ≤ d.size ∧
        outcomeFrom p d mode next stop = .matched later := by
    obtain ⟨stop, hfound, hmatch⟩ := preferred_variable_step hforward hstep hplace hmatch
    refine ⟨stop, ?_, (candidateEnds_bounds hplace (List.mem_of_find?_eq_some hfound)).2, hmatch⟩
    rw [h fun stop hmem => (candidateEnds_bounds hplace (List.mem_filter.1 hmem).1).2,
      List.find?_filter, ← hfound]
    simp
  refine hfind.bind fun found? => ?_
  cases found? with
  | none =>
    refine .pure fun h hfound hplace later hmatch => ?_
    obtain ⟨stop, hsome, -⟩ := hstop hplace h hmatch
    cases hsome
  | some stop =>
    refine (hgoOn.behind stop found).mono fun regions hregions h hfound hplace later hmatch => ?_
    obtain ⟨stop', hsome, hsize, hmatch⟩ := hstop hplace h hmatch
    cases hsome
    exact hregions hfound hsize later hmatch

end

/-- If there is a match, the regions that are collected are those of the search. -/
theorem gives_regionsFrom [Engine] (hforward : p.Forward) (hclosed : p.Closed) {fuel : Nat}
    (h : p.Allows fuel link) (place : Nat) (found : List Region) :
    Gives p d mode (regionsFrom p d mode fuel link place found)
      (Collected p d mode link place found) := by
  refine Program.link_induction (motive := fun fuel link => ∀ place found,
    Gives p d mode (regionsFrom p d mode fuel link place found)
      (Collected p d mode link place found)) hforward hclosed ?_ ?_ h place found
  · intro fuel place found
    unfold regionsFrom
    exact gives_reverse place found
  · intro fuel id step hstep hlinks place found
    obtain ⟨action, next, depth⟩ := step
    cases action with
    | text tokens => exact gives_regionsFrom_text hforward hstep hlinks place found
    | optional inner => exact gives_regionsFrom_optional hforward hclosed hstep hlinks place found
    | «variable» rule literal =>
      exact gives_regionsFrom_variable hforward hclosed hstep hlinks place found

theorem Gives.run [Engine] {walk : Walk α} {P : α → Prop} (h : Gives p d mode walk P) :
    ∃ a memo, walk.run [] = some (a, memo) ∧ P a := by
  obtain ⟨a, memo, hrun, hright⟩ := h []
  have hempty : Memo.Right p d mode [] := fun _ _ _ hmem => absurd hmem List.not_mem_nil
  exact ⟨a, memo, hrun, (hright hempty).2⟩

/-- Walks over a whole text find the outcome of the search. -/
theorem gives_compare [Engine] (hforward : p.Forward) (hclosed : p.Closed) :
    Gives p d .exact (compare p d) (· = exactOutcome p d) := by
  have hentry : p.Allows p.steps.length p.entry :=
    Program.allows_of_le (Nat.le_refl _) fun id hid => Program.lt_length_of_entry hid
  rw [exactOutcome, entryOutcome_eq]
  refine (gives_solve hforward hclosed hentry 0).bind fun answer => ?_
  cases answer with
  | matched =>
    refine (gives_regionsFrom hforward hclosed hentry 0 []).bind fun regions => ?_
    refine .pure fun hregions hanswer => ?_
    obtain ⟨later, hlater⟩ := answer_eq_matched (hanswer (Nat.zero_le _)).symm
    rw [hlater, hregions List.IsChain.nil (Nat.zero_le _) later hlater]
    rfl
  | failed divergence =>
    refine .pure fun hanswer => ?_
    exact (answer_eq_failed (hanswer (Nat.zero_le _)).symm).symm

theorem gives_anyM [Engine] {test : Nat → Walk Bool} {outcome : Nat → Outcome}
    (h : ∀ start, Gives p d mode (test start) fun found =>
      start ≤ d.size → found = (outcome start).isMatch) (starts : List Nat) :
    Gives p d mode (starts.anyM test) fun found => (∀ start ∈ starts, start ≤ d.size) →
      found = starts.any fun start => (outcome start).isMatch := by
  induction starts with
  | nil => exact .pure fun _ => rfl
  | cons start rest ih =>
    rw [List.anyM]
    refine (h start).bind fun found => ?_
    cases found with
    | true =>
      refine .pure fun hfound hsize => ?_
      rw [List.any_cons, ← hfound (hsize start List.mem_cons_self), Bool.true_or]
    | false =>
      refine ih.mono fun found hrest hfound hsize => ?_
      obtain ⟨hstart, hsize⟩ := List.forall_mem_cons.1 hsize
      rw [List.any_cons, ← hfound hstart, Bool.false_or]
      exact hrest hsize

/-- Walks from all starts find out whether the template matches some run of tokens. -/
theorem gives_occurs [Engine] (hforward : p.Forward) (hclosed : p.Closed) :
    Gives p d .contains (occurs p d) (· = occursIn p d) := by
  rw [occurs, occursIn]
  split
  · rename_i hzero
    exact .pure (by simp [hzero])
  · rename_i hsize
    have haccepts := gives_accepts (d := d) .contains hforward hclosed fun id hid =>
      Program.lt_length_of_entry (p := p) hid
    refine (gives_anyM haccepts (candidateStarts p d)).mono fun found h => ?_
    rw [h fun start hstart => Nat.le_of_lt (lt_size_of_mem_candidateStarts hstart)]
    simp only [hsize, entryOutcome_eq, ne_eq, not_false_eq_true, decide_true, Bool.true_and]

end Walk

end

end Licensing.Matching
