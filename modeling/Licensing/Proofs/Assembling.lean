import Licensing.Matching.Assembly
import Licensing.Proofs.Fragments
import Licensing.Proofs.Progress

namespace Licensing.Matching

open Licensing.Text Licensing.Template

def linkAll (after : Option Nat) (tail : List Nat) (steps : List Step) : List Step :=
  after.elim steps fun target => linkTo target tail steps

/-- The steps of a body, numbered from `id` on, and of `tail` that go on behind the body. -/
def tailBehind (f : Folding) (id : Nat) (tail : List Nat) : Body → List Nat
  | .done => tail
  | .text content rest =>
    if (textTokens f content).isEmpty then tailBehind f id tail rest
    else tailBehind f (id + 1) [id] rest
  | .optional _ inner rest =>
    tailBehind f (id + 1 + stepCount f inner) (id :: tailBehind f (id + 1) [] inner) rest
  | .variable _ rest => tailBehind f (id + 1) [id] rest

def fixedTokens (f : Folding) : Body → Nat
  | .done => 0
  | .text content rest => (textTokens f content).length + fixedTokens f rest
  | .optional _ inner rest => fixedTokens f inner + fixedTokens f rest
  | .variable _ rest => fixedTokens f rest

namespace Assembly

/-- What becomes of a program that is being put together when all of a body is pushed. -/
def pushBody (f : Folding) : Assembly → Body → Assembly
  | a, .done => a
  | a, .text content rest => pushBody f (a.pushText f content) rest
  | a, .optional _ inner rest => pushBody f (pushBody f a.openRegion inner).closeRegion rest
  | a, .variable rule rest => pushBody f (a.pushVariable f rule) rest

def pushRests (f : Folding) (a : Assembly) : List Body → Assembly
  | [] => a
  | [body] => a.pushBody f body
  | body :: outer => pushRests f (a.pushBody f body).closeRegion outer

/-- A program that is being put together, with a body laid out behind its steps. -/
def extend (f : Folding) (a : Assembly) (body : Body) : Assembly :=
  let id := a.steps.length
  let first := firstStep id (stepCount f body) none
  { a with
    steps := linkAll first a.frame.tail a.steps ++ layout f a.around.length id none body
    frame := ⟨a.frame.first.or first, tailBehind f id a.frame.tail body⟩
    tokenCount := a.tokenCount + fixedTokens f body }

/-- The steps that are still to be linked are there. -/
def Pending (a : Assembly) : Prop :=
  ∀ k ∈ a.frame.tail, k < a.steps.length

end Assembly

section

variable {f : Folding} {steps pre later : List Step} {step : Step} {action : Action}
  {tail tail' : List Nat} {after : Option Nat} {id depth target : Nat} {body : Body}

theorem modify_append {g : Step → Step} (h : id < pre.length) :
    (pre ++ later).modify id g = pre.modify id g ++ later := by
  induction pre generalizing id with
  | nil => exact absurd h (Nat.not_lt_zero id)
  | cons first pre ih =>
    cases id with
    | zero => rfl
    | succ id => simp [ih (Nat.lt_of_succ_lt_succ h)]

theorem modify_append_cons {g : Step → Step} (h : pre.length = id) :
    (pre ++ step :: later).modify id g = pre ++ g step :: later := by
  subst h
  induction pre with
  | nil => rfl
  | cons first pre ih => simp [ih]

@[simp] theorem length_linkTo : (linkTo target tail steps).length = steps.length := by
  induction tail generalizing steps with
  | nil => rfl
  | cons k tail ih =>
    rw [linkTo, List.foldl_cons]
    exact ih.trans (List.length_modify _ _ _)

@[simp] theorem linkAll_none : linkAll none tail steps = steps := rfl

@[simp] theorem linkAll_nil : linkAll after [] steps = steps := by
  cases after <;> rfl

theorem length_linkAll : (linkAll after tail steps).length = steps.length := by
  cases after with
  | none => rfl
  | some target => exact length_linkTo

theorem linkAll_append_tail :
    linkAll after (tail ++ tail') steps = linkAll after tail' (linkAll after tail steps) := by
  cases after with
  | none => rfl
  | some target => exact List.foldl_append

theorem linkTo_append (h : ∀ k ∈ tail, k < pre.length) :
    linkTo target tail (pre ++ later) = linkTo target tail pre ++ later := by
  induction tail generalizing pre with
  | nil => rfl
  | cons k tail ih =>
    rw [List.forall_mem_cons] at h
    rw [linkTo, List.foldl_cons, modify_append h.1]
    exact ih (by simpa using h.2)

theorem linkAll_last (h : pre.length = id) :
    linkAll after [id] (pre ++ ⟨action, none, depth⟩ :: later) =
      pre ++ ⟨action, after, depth⟩ :: later := by
  cases after with
  | none => rfl
  | some target => exact modify_append_cons h

theorem firstStep_succ {count : Nat} : firstStep id (count + 1) after = some id :=
  firstStep_pos (Nat.succ_ne_zero count)

theorem lt_of_mem_tailBehind {k : Nat} (htail : ∀ k ∈ tail, k < id)
    (h : k ∈ tailBehind f id tail body) : k < id + stepCount f body := by
  induction body generalizing id tail k with
  | done => exact htail k h
  | text content rest ih =>
    rw [tailBehind] at h
    rw [stepCount]
    split at h
    · rename_i hempty
      rw [if_pos hempty, Nat.zero_add]
      exact ih htail h
    · rename_i hempty
      have hlt := ih (by simp) h
      rw [if_neg hempty]
      omega
  | optional region inner rest ihInner ihRest =>
    rw [tailBehind] at h
    rw [stepCount]
    have hinner : ∀ k ∈ tailBehind f (id + 1) [] inner, k < id + 1 + stepCount f inner :=
      fun k hk => ihInner (List.forall_mem_nil _) hk
    have hlt := ihRest (List.forall_mem_cons.2 ⟨by omega, hinner⟩) h
    omega
  | «variable» rule rest ih =>
    rw [tailBehind] at h
    have hlt := ih (by simp) h
    rw [stepCount]
    omega

theorem linkAll_of_last {next next' : Option Nat} {later' : List Step} (hlength : pre.length = id)
    (h : linkAll after tail (linkAll next [id] (pre ++ [⟨action, none, depth⟩]) ++ later) =
      linkAll next' [id] (pre ++ [⟨action, none, depth⟩]) ++ later') :
    linkAll after tail (pre ++ ⟨action, next, depth⟩ :: later) =
      pre ++ ⟨action, next', depth⟩ :: later' := by
  rw [linkAll_last hlength, linkAll_last hlength, List.append_assoc, List.append_assoc] at h
  exact h

theorem linkAll_region {first next : Option Nat}
    (h : ∀ pre : List Step, pre.length = id + 1 →
      linkAll next (tailBehind f (id + 1) [] body)
          (pre ++ layout f (depth + 1) (id + 1) none body) =
        pre ++ layout f (depth + 1) (id + 1) next body)
    (hlength : pre.length = id) :
    linkAll next (id :: tailBehind f (id + 1) [] body)
        (pre ++ ⟨.optional first, none, depth⟩ :: layout f (depth + 1) (id + 1) none body) =
      pre ++ ⟨.optional first, next, depth⟩ :: layout f (depth + 1) (id + 1) next body := by
  have hinner := h (pre ++ [⟨.optional first, next, depth⟩]) (by simp [hlength])
  rw [List.append_assoc, List.append_assoc] at hinner
  rw [← List.singleton_append (l := tailBehind _ _ _ _), linkAll_append_tail, linkAll_last hlength]
  exact hinner

theorem linkAll_tailBehind (f : Folding) (depth : Nat) (after : Option Nat) (body : Body)
    (hlength : pre.length = id) (htail : ∀ k ∈ tail, k < id) :
    linkAll after (tailBehind f id tail body)
        (linkAll (firstStep id (stepCount f body) none) tail pre ++ layout f depth id none body) =
      linkAll (firstStep id (stepCount f body) after) tail pre ++
        layout f depth id after body := by
  induction body generalizing depth id tail pre after with
  | done => simp [tailBehind, stepCount, layout]
  | text content rest ih =>
    simp only [tailBehind, stepCount, layout]
    split
    · rw [Nat.zero_add]
      exact ih depth after hlength htail
    · rw [Nat.add_comm 1, firstStep_succ, firstStep_succ]
      have hpre : (linkAll (some id) tail pre).length = id := length_linkAll.trans hlength
      exact linkAll_of_last hpre (ih depth after (by simp [hpre]) (by simp))
  | optional region inner rest ihInner ihRest =>
    simp only [tailBehind, stepCount, layout]
    have hcount : 1 + stepCount f inner + stepCount f rest =
        stepCount f inner + stepCount f rest + 1 := by omega
    rw [hcount, firstStep_succ, firstStep_succ]
    have hpre : (linkAll (some id) tail pre).length = id := length_linkAll.trans hlength
    generalize linkAll (some id) tail pre = pre at hpre
    have hinner (next : Option Nat) (pre : List Step) (hlength : pre.length = id + 1) :
        linkAll next (tailBehind f (id + 1) [] inner)
            (pre ++ layout f (depth + 1) (id + 1) none inner) =
          pre ++ layout f (depth + 1) (id + 1) next inner := by
      have h := ihInner (depth + 1) next hlength (List.forall_mem_nil _)
      rwa [linkAll_nil, linkAll_nil] at h
    have htailBehind : ∀ k ∈ id :: tailBehind f (id + 1) [] inner, k < id + 1 + stepCount f inner :=
      List.forall_mem_cons.2 ⟨by omega, fun k hk => lt_of_mem_tailBehind (List.forall_mem_nil _) hk⟩
    have hregion : (pre ++ ⟨.optional (firstStep (id + 1) (stepCount f inner) none), none, depth⟩ ::
        layout f (depth + 1) (id + 1) none inner).length = id + 1 + stepCount f inner := by
      simp only [List.length_append, List.length_cons, layout_length, hpre]
      omega
    have hrest := ihRest depth after hregion htailBehind
    rw [linkAll_region (hinner _) hpre, linkAll_region (hinner _) hpre] at hrest
    simpa using hrest
  | «variable» rule rest ih =>
    simp only [tailBehind, stepCount, layout]
    rw [Nat.add_comm 1, firstStep_succ, firstStep_succ]
    have hpre : (linkAll (some id) tail pre).length = id := length_linkAll.trans hlength
    exact linkAll_of_last hpre (ih depth after (by simp [hpre]) (by simp))

theorem linkAll_tailBehind_nil (f : Folding) (depth : Nat) (after : Option Nat) (body : Body)
    (hlength : pre.length = id) :
    linkAll after (tailBehind f id [] body) (pre ++ layout f depth id none body) =
      pre ++ layout f depth id after body := by
  have h := linkAll_tailBehind f depth after body hlength (List.forall_mem_nil _)
  rwa [linkAll_nil, linkAll_nil] at h

theorem tokenCount_layout :
    Program.tokenCount ⟨layout f depth id after body, f⟩ = fixedTokens f body := by
  induction body generalizing depth id after with
  | done => rfl
  | text content rest ih =>
    rw [layout, fixedTokens]
    split
    · rename_i hempty
      rw [ih, List.isEmpty_iff.1 hempty, List.length_nil, Nat.zero_add]
    · rw [tokenCount_cons, ih]
      rfl
  | optional region inner rest ihInner ihRest =>
    rw [layout, fixedTokens, tokenCount_cons, tokenCount_append, ihInner, ihRest]
    exact Nat.zero_add _
  | «variable» rule rest ih =>
    rw [layout, fixedTokens, tokenCount_cons, ih]
    exact Nat.zero_add _

end

namespace Assembly

section

variable {f : Folding} {a : Assembly} {action : Action} {body rest : Body}

theorem push_eq (h : a.Pending) (action : Action) :
    a.push action =
      { a with
        steps := linkAll (some a.steps.length) a.frame.tail a.steps ++
          [⟨action, none, a.around.length⟩]
        frame := ⟨a.frame.first.or (some a.steps.length), [a.steps.length]⟩ } := by
  rw [push, linkTo_append h]
  rfl

theorem length_push : (a.push action).steps.length = a.steps.length + 1 := by
  simp [push]

theorem pending_push : (a.push action).Pending := by
  intro k hk
  obtain rfl := List.mem_singleton.1 hk
  rw [length_push]
  exact Nat.lt_succ_self _

theorem extend_push (h : a.Pending) (action : Action) (rest : Body) :
    (a.push action).extend f rest =
      { a with
        steps := linkAll (some a.steps.length) a.frame.tail a.steps ++
          ⟨action, firstStep (a.steps.length + 1) (stepCount f rest) none, a.around.length⟩ ::
            layout f a.around.length (a.steps.length + 1) none rest
        frame := ⟨a.frame.first.or (some a.steps.length),
          tailBehind f (a.steps.length + 1) [a.steps.length] rest⟩
        tokenCount := a.tokenCount + fixedTokens f rest } := by
  rw [extend, length_push, push_eq h]
  simp only [linkAll_last length_linkAll, Option.or_assoc, Option.some_or, List.append_assoc,
    List.singleton_append]

theorem extend_pushText (h : a.Pending) (content : List Char) (rest : Body) :
    (a.pushText f content).extend f rest = a.extend f (.text content rest) := by
  rw [pushText]
  split
  · rename_i hempty
    have hcount : stepCount f (.text content rest) = stepCount f rest := by
      rw [stepCount, if_pos hempty, Nat.zero_add]
    have htokens : fixedTokens f (.text content rest) = fixedTokens f rest := by
      rw [fixedTokens, List.isEmpty_iff.1 hempty, List.length_nil, Nat.zero_add]
    simp only [extend, hcount, htokens, layout, tailBehind, hempty, ↓reduceIte]
  · rename_i hempty
    have hcount : stepCount f (.text content rest) = stepCount f rest + 1 := by
      rw [stepCount, if_neg hempty, Nat.add_comm]
    have hpush := congrArg
      ({ · with tokenCount := a.tokenCount + fixedTokens f (.text content rest) })
      (extend_push (f := f) h (.text (textTokens f content)) rest)
    refine Eq.trans ?_ (hpush.trans ?_)
    · simp only [extend, fixedTokens, Nat.add_assoc]
    · simp only [extend, hcount, firstStep_succ, layout, tailBehind, hempty, Bool.false_eq_true,
        ↓reduceIte]

theorem extend_pushVariable (h : a.Pending) (rule : VariableRule) (rest : Body) :
    (a.pushVariable f rule).extend f rest = a.extend f (.variable rule rest) := by
  have hcount : stepCount f (.variable rule rest) = stepCount f rest + 1 := by
    rw [stepCount, Nat.add_comm]
  rw [pushVariable, extend_push h]
  simp only [extend, hcount, firstStep_succ, layout, tailBehind, fixedTokens]

theorem pending_pushText (h : a.Pending) (content : List Char) :
    (a.pushText f content).Pending := by
  rw [pushText]
  split
  · exact h
  · exact pending_push

theorem pending_openRegion : a.openRegion.Pending :=
  List.forall_mem_nil _

theorem closeRegion_extend (h : a.Pending) (inner : Body) :
    (a.openRegion.extend f inner).closeRegion =
      { a with
        steps := linkAll (some a.steps.length) a.frame.tail a.steps ++
          ⟨.optional (firstStep (a.steps.length + 1) (stepCount f inner) none), none,
            a.around.length⟩ ::
            layout f (a.around.length + 1) (a.steps.length + 1) none inner
        frame := ⟨a.frame.first.or (some a.steps.length),
          a.steps.length :: tailBehind f (a.steps.length + 1) [] inner⟩
        tokenCount := a.tokenCount + fixedTokens f inner } := by
  rw [openRegion, push_eq h]
  simp only [extend, closeRegion, linkAll_nil, List.append_assoc, List.singleton_append,
    modify_append_cons length_linkAll, List.length_cons, List.length_append, List.length_nil,
    length_linkAll, Nat.zero_add]
  rfl

theorem pending_closeRegion (h : a.Pending) (inner : Body) :
    (a.openRegion.extend f inner).closeRegion.Pending := by
  rw [closeRegion_extend h]
  intro k hk
  have hlength : (linkAll (some a.steps.length) a.frame.tail a.steps).length = a.steps.length :=
    length_linkAll
  simp only [List.length_append, List.length_cons, layout_length, hlength]
  rcases List.mem_cons.1 hk with rfl | hk
  · omega
  · have hlt := lt_of_mem_tailBehind (List.forall_mem_nil _) hk
    omega

theorem extend_closeRegion (h : a.Pending) (region : OptionalRule) (inner rest : Body) :
    (a.openRegion.extend f inner).closeRegion.extend f rest =
      a.extend f (.optional region inner rest) := by
  have hcount : stepCount f (.optional region inner rest) =
      stepCount f inner + stepCount f rest + 1 := by
    rw [stepCount]
    omega
  have hlength : (linkAll (some a.steps.length) a.frame.tail a.steps).length = a.steps.length :=
    length_linkAll
  have hlater : a.steps.length + (stepCount f inner + 1) =
      a.steps.length + 1 + stepCount f inner := by omega
  rw [closeRegion_extend h]
  simp only [extend, hcount, firstStep_succ, layout, tailBehind, fixedTokens, List.length_append,
    List.length_cons, layout_length, hlength, hlater]
  rw [linkAll_region (fun pre => linkAll_tailBehind_nil f _ _ inner) hlength]
  simp only [Option.or_assoc, Option.some_or, List.append_assoc, List.cons_append, Nat.add_assoc]

theorem pushBody_eq (h : a.Pending) : a.pushBody f body = a.extend f body := by
  induction body generalizing a with
  | done => simp [pushBody, extend, stepCount, layout, tailBehind, fixedTokens]
  | text content rest ih =>
    rw [pushBody, ih (pending_pushText h content), extend_pushText h]
  | optional region inner rest ihInner ihRest =>
    rw [pushBody, ihInner pending_openRegion, ihRest (pending_closeRegion h inner),
      extend_closeRegion h]
  | «variable» rule rest ih =>
    rw [pushBody, pushVariable, ih pending_push]
    exact extend_pushVariable h rule rest

theorem around_pushText (content : List Char) : (a.pushText f content).around = a.around := by
  rw [pushText]
  split <;> rfl

theorem length_around_closeRegion : a.closeRegion.around.length = a.around.length - 1 := by
  rw [closeRegion]
  split
  · rename_i hempty
    rw [hempty]
    rfl
  · rename_i hcons
    rw [hcons]
    rfl

theorem sink_endOptional (h : a.around ≠ []) (rule : OptionalRule) :
    sink f a (.endOptional rule) = .ok a.closeRegion :=
  if_neg (by simpa using h)

theorem feed_readPieces [Engine] {openRules : List OptionalRule} {found : List Piece}
    {tail : Option Nat} (hopen : a.around.length = openRules.length) :
    ((sink f).feed a (readPieces openRules found tail).events).2 = none := by
  induction found generalizing openRules a with
  | nil =>
    cases tail with
    | some line => rfl
    | none => cases openRules <;> rfl
  | cons piece found ih =>
    cases piece with
    | text content position => exact ih ((congrArg _ (around_pushText content)).trans hopen)
    | rule body line =>
      simp only [readPieces]
      cases Rule.parse body line with
      | error e => rfl
      | ok parsed =>
        cases parsed with
        | «variable» rule => exact ih hopen
        | beginOptional rule => exact ih (congrArg Nat.succ hopen)
        | endOptional =>
          cases openRules with
          | nil => rfl
          | cons rule outer =>
            have hne : a.around ≠ [] := List.ne_nil_of_length_eq_add_one hopen
            simp only [Reading.cons, Sink.feed, sink_endOptional hne]
            apply ih
            rw [length_around_closeRegion, hopen]
            rfl

theorem feed_of_closes {openRules : List OptionalRule} {events : List Event}
    (h : Closes openRules events) (hopen : a.around.length = openRules.length) :
    ∃ body outer, Body.rests events = body :: outer ∧ outer.length = openRules.length ∧
      (sink f).feed a events = (a.pushRests f (body :: outer), none) := by
  induction h generalizing a with
  | finish => exact ⟨.done, [], rfl, rfl, rfl⟩
  | @text openRules events content position h ih =>
    obtain ⟨rest, outer, hrests, hlength, hfeed⟩ :=
      ih ((congrArg _ (around_pushText content)).trans hopen)
    refine ⟨.text content rest, outer, by rw [Body.rests, hrests], hlength, ?_⟩
    refine hfeed.trans ?_
    cases outer <;> rfl
  | @«variable» openRules events rule h ih =>
    obtain ⟨rest, outer, hrests, hlength, hfeed⟩ := ih (a := a.pushVariable f rule) hopen
    refine ⟨.variable rule rest, outer, by rw [Body.rests, hrests], hlength, ?_⟩
    refine hfeed.trans ?_
    cases outer <;> rfl
  | @beginOptional openRules events rule h ih =>
    obtain ⟨inner, outer, hrests, hlength, hfeed⟩ :=
      ih (a := a.openRegion) (congrArg Nat.succ hopen)
    obtain ⟨rest, outer, rfl⟩ := List.exists_cons_of_length_eq_add_one hlength
    refine ⟨.optional rule inner rest, outer, by rw [Body.rests, hrests], Nat.succ.inj hlength, ?_⟩
    refine hfeed.trans ?_
    cases outer <;> rfl
  | @endOptional openRules events rule h ih =>
    have hne : a.around ≠ [] := List.ne_nil_of_length_eq_add_one hopen
    obtain ⟨body, outer, hrests, hlength, hfeed⟩ := ih (a := a.closeRegion) (by
      rw [length_around_closeRegion, hopen]
      rfl)
    refine ⟨.done, body :: outer, by rw [Body.rests, hrests], congrArg Nat.succ hlength, ?_⟩
    rw [Sink.feed, sink_endOptional hne]
    exact hfeed

end

theorem assemble_eq [Engine] (f : Folding) (template : List Char) :
    assemble f template = (Body.parse (stripComments template)).map (pushBody f {}) := by
  rw [assemble, Sink.run, Sink.read_eq, Body.parse]
  generalize stripComments template = source
  have hcloses (herror : (read source).error = none) : Closes [] (read source).events :=
    closes_readPieces herror
  have hrefusal : ((sink f).feed {} (read source).events).2 = none :=
    feed_readPieces rfl
  cases hread : read source with
  | mk events error =>
    rw [hread] at hcloses hrefusal
    cases error with
    | some e => simp only [hrefusal, Option.none_or, Except.map]
    | none =>
      obtain ⟨body, outer, hrests, hlength, hfeed⟩ :=
        feed_of_closes (f := f) (a := {}) (hcloses rfl) rfl
      obtain rfl := List.length_eq_zero_iff.1 hlength
      simp only [hrests, hfeed, Option.or_none, Except.map]
      rfl

theorem assemble_eq_extend [Engine] (f : Folding) (template : List Char) :
    assemble f template = (Body.parse (stripComments template)).map (extend f {}) := by
  have hpush : pushBody f {} = extend f {} :=
    funext fun body => pushBody_eq (List.forall_mem_nil _)
  rw [assemble_eq, hpush]

end Assembly

/-- A program that is put together from a template is the one that its body is laid out as. -/
theorem compile_eq_assemble [Engine] (f : Folding) (template : List Char) :
    Program.compile f template = (Assembly.assemble f template).map fun a => ⟨a.steps, f⟩ := by
  rw [Program.compile, Assembly.assemble_eq_extend]
  cases Body.parse (stripComments template) with
  | error e => rfl
  | ok body => simp [Except.map, Program.ofBody, Assembly.extend]

end Licensing.Matching
