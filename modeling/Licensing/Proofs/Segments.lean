import Licensing.Proofs.Blank
import Licensing.Proofs.Fragments
import Licensing.Proofs.Tree

namespace Licensing.Template

open Licensing.Text

/-- Text of a rendering, or a place where a segment of it ends. -/
inductive Mark where
  | text (content : List Char)
  | cut

def variableMark (onVariable : Treatment) (pattern defaultText : List Char) : Mark :=
  match onVariable with
  | .keep => .text defaultText
  | .omit => .cut
  | .regex => .text (markPattern pattern)

mutual

/-- An optional region that does not stay gives one mark, whatever is in it. -/
def Node.marks (onVariable onOptional : Treatment) : Node → List Mark
  | .text content => [.text content]
  | .variable _ pattern defaultText _ => [variableMark onVariable pattern defaultText]
  | .optional _ children =>
    match onOptional with
    | .keep => Node.listMarks onVariable onOptional children
    | .omit => [.cut]
    | .regex => [.text (markPattern VariableRule.anyText)]

def Node.listMarks (onVariable onOptional : Treatment) : List Node → List Mark
  | [] => []
  | node :: rest => node.marks onVariable onOptional ++ Node.listMarks onVariable onOptional rest

end

/-- What stands before, between and behind the cuts. -/
def Mark.parts : List Mark → List (List Char)
  | [] => [[]]
  | .text content :: rest => (parts rest).modifyHead (content ++ ·)
  | .cut :: rest => [] :: parts rest

/-- Parts without the white space at their ends, and without the blank ones among them. -/
def trimmed (parts : List (List Char)) : List (List Char) :=
  (parts.map trim).filter (!·.isEmpty)

theorem trimmed_append (parts later : List (List Char)) :
    trimmed (parts ++ later) = trimmed parts ++ trimmed later := by
  rw [trimmed, List.map_append, List.filter_append]
  rfl

theorem modifyHead_nil_append (parts : List (List Char)) : parts.modifyHead ([] ++ ·) = parts := by
  cases parts <;> rfl

/-- The segments of text that a tree is left with. -/
def Node.segments (onVariable onOptional : Treatment) (nodes : List Node) : List (List Char) :=
  trimmed (Mark.parts (Node.listMarks onVariable onOptional nodes))

def Body.marks (onVariable onOptional : Treatment) (body : Body) : List Mark :=
  Node.listMarks onVariable onOptional body.nodes

def droppedMark (onOptional : Treatment) : Mark :=
  if onOptional = .omit then .cut else .text (markPattern VariableRule.anyText)

/-- Regions that do not stay gave their mark when they were opened, and count no more. -/
def pendingMarks (onVariable onOptional : Treatment) : List Body → List Mark
  | [] => []
  | body :: outer =>
    if outer = [] ∨ onOptional = .keep then
      body.marks onVariable onOptional ++ pendingMarks onVariable onOptional outer
    else pendingMarks onVariable onOptional outer

section

variable {onVariable onOptional : Treatment} {body inner rest : Body} {outer : List Body}
  {region : OptionalRule}

theorem Body.marks_optional_keep :
    (Body.optional region inner rest).marks onVariable .keep =
      inner.marks onVariable .keep ++ rest.marks onVariable .keep := rfl

theorem Body.marks_optional (h : onOptional ≠ .keep) :
    (Body.optional region inner rest).marks onVariable onOptional =
      droppedMark onOptional :: rest.marks onVariable onOptional := by
  cases onOptional with
  | keep => exact absurd rfl h
  | «omit» => rfl
  | regex => rfl

theorem pendingMarks_of_keep :
    pendingMarks onVariable .keep (body :: outer) =
      body.marks onVariable .keep ++ pendingMarks onVariable .keep outer := by
  rw [pendingMarks, if_pos (.inr rfl)]

theorem pendingMarks_inside (houter : outer ≠ []) (h : onOptional ≠ .keep) :
    pendingMarks onVariable onOptional (body :: outer) =
      pendingMarks onVariable onOptional outer := by
  rw [pendingMarks, if_neg (not_or.2 ⟨houter, h⟩)]

theorem pendingMarks_done (houter : outer ≠ []) :
    pendingMarks onVariable onOptional (.done :: outer) =
      pendingMarks onVariable onOptional outer := by
  by_cases h : onOptional = .keep
  · subst h
    exact pendingMarks_of_keep
  · exact pendingMarks_inside houter h

end

namespace Segments

def mark (s : Segments) : Mark → Segments
  | .text content => s.write content
  | .cut => s.cut

def markAll (s : Segments) (marks : List Mark) : Segments :=
  marks.foldl mark s

/-- Takes up a mark, unless it is dropped with the optional region around it. -/
def take (s : Segments) (m : Mark) : Segments :=
  if s.drops then s else s.mark m

def atDepth (s : Segments) (depth : Nat) : Segments :=
  { s with depth }

section

variable {s : Segments} {m : Mark} {depth : Nat}

@[simp] theorem mark_depth : (s.mark m).depth = s.depth := by
  cases m <;> rfl

@[simp] theorem mark_variableTreatment :
    (s.mark m).variableTreatment = s.variableTreatment := by
  cases m <;> rfl

@[simp] theorem mark_optionalTreatment :
    (s.mark m).optionalTreatment = s.optionalTreatment := by
  cases m <;> rfl

@[simp] theorem atDepth_depth : (s.atDepth depth).depth = depth := rfl

@[simp] theorem atDepth_variableTreatment :
    (s.atDepth depth).variableTreatment = s.variableTreatment := rfl

@[simp] theorem atDepth_optionalTreatment :
    (s.atDepth depth).optionalTreatment = s.optionalTreatment := rfl

theorem atDepth_self (h : s.depth = depth) : s.atDepth depth = s := by
  subst h
  rfl

theorem mark_atDepth : (s.atDepth depth).mark m = (s.mark m).atDepth depth := by
  cases m <;> rfl

@[simp] theorem take_depth : (s.take m).depth = s.depth := by
  unfold take
  split <;> simp

@[simp] theorem take_variableTreatment : (s.take m).variableTreatment = s.variableTreatment := by
  unfold take
  split <;> simp

@[simp] theorem take_optionalTreatment : (s.take m).optionalTreatment = s.optionalTreatment := by
  unfold take
  split <;> simp

theorem sink_text (content : List Char) (position : Position) :
    sink s (.text content position) = .ok (s.take (.text content)) := rfl

theorem sink_variable (rule : VariableRule) :
    sink s (.variable rule) =
      .ok (s.take (variableMark s.variableTreatment rule.pattern rule.defaultText)) := by
  unfold sink take variableMark
  cases s.variableTreatment <;> rfl

theorem sink_beginOptional_keep (rule : OptionalRule) (h : s.optionalTreatment = .keep) :
    sink s (.beginOptional rule) = .ok (s.atDepth (s.depth + 1)) := by
  obtain ⟨onVariable, onOptional, depth, current, done⟩ := s
  subst h
  cases depth <;> rfl

theorem sink_beginOptional (rule : OptionalRule) (h : s.optionalTreatment ≠ .keep) :
    sink s (.beginOptional rule) =
      .ok ((s.take (droppedMark s.optionalTreatment)).atDepth (s.depth + 1)) := by
  obtain ⟨onVariable, onOptional, depth, current, done⟩ := s
  cases onOptional with
  | keep => exact absurd rfl h
  | «omit» => cases depth <;> rfl
  | regex => cases depth <;> rfl

theorem sink_endOptional (rule : OptionalRule) :
    sink s (.endOptional rule) = .ok (s.atDepth (s.depth - 1)) := rfl

theorem markAll_take (body rest : Body) {outer : List Body} (hdepth : s.depth = outer.length)
    (hmarks : body.marks s.variableTreatment s.optionalTreatment =
      m :: rest.marks s.variableTreatment s.optionalTreatment) :
    ((s.take m).atDepth 0).markAll
        (pendingMarks s.variableTreatment s.optionalTreatment (rest :: outer)) =
      (s.atDepth 0).markAll
        (pendingMarks s.variableTreatment s.optionalTreatment (body :: outer)) := by
  have hdrops : s.drops ↔ ¬ (outer = [] ∨ s.optionalTreatment = .keep) := by
    simp [drops, hdepth, List.length_pos_iff]
  unfold take
  by_cases hstays : outer = [] ∨ s.optionalTreatment = .keep
  · rw [if_neg fun h => hdrops.1 h hstays, pendingMarks, if_pos hstays, pendingMarks,
      if_pos hstays, hmarks, ← mark_atDepth]
    rfl
  · rw [if_pos (hdrops.2 hstays), pendingMarks, if_neg hstays, pendingMarks, if_neg hstays]

end

theorem toList_cut_markAll (s : Segments) (marks : List Mark) :
    (s.markAll marks).cut.toList =
      s.toList ++ trimmed ((Mark.parts marks).modifyHead (s.current ++ ·)) := by
  induction marks generalizing s with
  | nil =>
    simp only [markAll, List.foldl_nil, Mark.parts, List.modifyHead_cons, List.append_nil, trimmed]
    unfold cut toList
    cases hempty : (trim s.current).isEmpty <;> simp [hempty]
  | cons m marks ih =>
    cases m with
    | text content =>
      change ((s.write content).markAll marks).cut.toList = _
      rw [ih, Mark.parts, List.modifyHead_modifyHead]
      simp [write, toList, Function.comp_def]
    | cut =>
      have hsplit : s.cut.toList = s.toList ++ trimmed [s.current] := by
        unfold cut toList trimmed
        cases hempty : (trim s.current).isEmpty <;> simp [hempty]
      change (s.cut.markAll marks).cut.toList = _
      rw [ih, hsplit, Mark.parts, List.append_assoc, List.modifyHead_cons, List.append_nil,
        ← trimmed_append, List.singleton_append]
      exact congrArg (fun later => s.toList ++ trimmed (s.current :: later))
        (modifyHead_nil_append _)

end Segments

section

variable {openRules : List OptionalRule} {events : List Event}

theorem Closes.feed_segments (h : Closes openRules events) {s : Segments}
    (hdepth : s.depth = openRules.length) :
    ∃ body outer, Body.rests events = body :: outer ∧ outer.length = openRules.length ∧
      Segments.sink.feed s events = (((s.atDepth 0).markAll
        (pendingMarks s.variableTreatment s.optionalTreatment (body :: outer))).cut, none) := by
  induction h generalizing s with
  | finish =>
    refine ⟨.done, [], rfl, rfl, ?_⟩
    have hself : s.atDepth 0 = s := Segments.atDepth_self hdepth
    rw [hself]
    rfl
  | text h ih =>
    rename_i content position
    obtain ⟨body, outer, hrests, hlength, hfeed⟩ := ih (s := s.take (.text content)) (by simpa)
    refine ⟨.text content body, outer, by rw [Body.rests, hrests], hlength, ?_⟩
    simp only [Sink.feed, Segments.sink_text, hfeed, Segments.take_variableTreatment,
      Segments.take_optionalTreatment]
    rw [Segments.markAll_take (.text content body) body (hdepth.trans hlength.symm) rfl]
  | «variable» h ih =>
    rename_i rule
    obtain ⟨body, outer, hrests, hlength, hfeed⟩ := ih
      (s := s.take (variableMark s.variableTreatment rule.pattern rule.defaultText)) (by simpa)
    refine ⟨.variable rule body, outer, by rw [Body.rests, hrests], hlength, ?_⟩
    simp only [Sink.feed, Segments.sink_variable, hfeed, Segments.take_variableTreatment,
      Segments.take_optionalTreatment]
    rw [Segments.markAll_take (.variable rule body) body (hdepth.trans hlength.symm) rfl]
  | beginOptional h ih =>
    rename_i openRules events rule
    by_cases hkeep : s.optionalTreatment = .keep
    · obtain ⟨inner, outer, hrests, hlength, hfeed⟩ := ih (s := s.atDepth (s.depth + 1))
        (by simp [hdepth])
      obtain ⟨rest, outer, rfl⟩ := List.exists_cons_of_length_eq_add_one hlength
      refine ⟨.optional rule inner rest, outer, by rw [Body.rests, hrests],
        Nat.succ.inj hlength, ?_⟩
      simp only [Sink.feed, Segments.sink_beginOptional_keep rule hkeep, hfeed]
      simp only [Segments.atDepth_variableTreatment, Segments.atDepth_optionalTreatment, hkeep,
        pendingMarks_of_keep, Body.marks_optional_keep, List.append_assoc]
      rfl
    · obtain ⟨inner, outer, hrests, hlength, hfeed⟩ := ih
        (s := (s.take (droppedMark s.optionalTreatment)).atDepth (s.depth + 1)) (by simp [hdepth])
      obtain ⟨rest, outer, rfl⟩ := List.exists_cons_of_length_eq_add_one hlength
      refine ⟨.optional rule inner rest, outer, by rw [Body.rests, hrests],
        Nat.succ.inj hlength, ?_⟩
      simp only [Sink.feed, Segments.sink_beginOptional rule hkeep, hfeed]
      simp only [Segments.atDepth_variableTreatment, Segments.atDepth_optionalTreatment,
        Segments.take_variableTreatment, Segments.take_optionalTreatment,
        pendingMarks_inside (List.cons_ne_nil rest outer) hkeep]
      rw [← Segments.markAll_take _ _ (hdepth.trans (Nat.succ.inj hlength).symm)
        (Body.marks_optional hkeep)]
      rfl
  | endOptional h ih =>
    rename_i rule
    obtain ⟨body, outer, hrests, hlength, hfeed⟩ := ih (s := s.atDepth (s.depth - 1))
      (by simp [hdepth])
    refine ⟨.done, body :: outer, by rw [Body.rests, hrests], congrArg Nat.succ hlength, ?_⟩
    simp only [Sink.feed, Segments.sink_endOptional, hfeed]
    simp only [Segments.atDepth_variableTreatment, Segments.atDepth_optionalTreatment,
      pendingMarks_done (List.cons_ne_nil body outer)]
    rfl

end

theorem Segments.feed_snd (s : Segments) (events : List Event) :
    (sink.feed s events).2 = none := by
  induction events generalizing s with
  | nil => rfl
  | cons event events ih => exact ih _

theorem requiredText_eq [Engine] (template : List Char) (onVariable onOptional : Treatment) :
    requiredText template onVariable onOptional =
      (Body.parse template).map (Node.segments onVariable onOptional ·.nodes) := by
  have hcloses (herror : (read template).error = none) : Closes [] (read template).events :=
    closes_readPieces herror
  let start : Segments := { variableTreatment := onVariable, optionalTreatment := onOptional }
  change (Segments.sink.run start template).map _ = _
  rw [Sink.run, Sink.read_eq, Body.parse]
  cases hread : read template with
  | mk events error =>
    rw [hread] at hcloses
    cases error with
    | some e =>
      have hfeed := Segments.feed_snd start events
      cases hlast : Segments.sink.feed start events with
      | mk last refusal =>
        rw [hlast] at hfeed
        subst hfeed
        simp [Except.map]
    | none =>
      obtain ⟨body, outer, hrests, hlength, hfeed⟩ := (hcloses rfl).feed_segments (s := start) rfl
      obtain rfl := List.length_eq_zero_iff.1 hlength
      have hmarks := Segments.toList_cut_markAll start (body.marks onVariable onOptional)
      have hpending : pendingMarks start.variableTreatment start.optionalTreatment [body] =
          body.marks onVariable onOptional := by
        rw [pendingMarks, if_pos (.inl rfl)]
        exact List.append_nil _
      rw [hpending, start.atDepth_self rfl] at hfeed
      rw [modifyHead_nil_append] at hmarks
      simp only [hrests, hfeed, Option.or_none, Except.map, hmarks]
      rfl

theorem isEmpty_trim (s : List Char) : (trim s).isEmpty = isBlank s := by
  rw [Bool.eq_iff_iff, List.isEmpty_iff, isBlank_iff, trim, trimRight, List.reverse_eq_nil_iff,
    List.dropWhile_eq_nil_iff]
  constructor
  · intro h
    rw [← List.dropWhile_eq_nil_iff]
    cases hs : s.dropWhile isWhitespace with
    | nil => rfl
    | cons c cs =>
      have hfirst := List.head?_dropWhile_not isWhitespace s
      rw [hs] at h hfirst
      have hc : isWhitespace c := h c (by simp)
      simp [hc] at hfirst
  · intro h c hc
    exact h c ((List.dropWhile_suffix _).subset (List.mem_reverse.1 hc))

example :
    let template := "A<<beginOptional>>B<<var;name=v;original=V>>C<<endOptional>>".toList
    requiredText template .omit .keep = .ok ["AB".toList, "C".toList] ∧
      requiredText template .omit .regex = .ok ["A~~~(?s:.*)~~~".toList] := by
  decide +kernel

end Licensing.Template
