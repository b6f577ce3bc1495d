import Licensing.Proofs.Descent

namespace Licensing.Template

def Receiver.RefusesNothing {σ : Type} (receiver : Receiver σ) : Prop :=
  ∀ event state, ∃ next, (receiver event).run state = .ok () next

/-- It keeps all events it is sent, also refused ones, and answers each by its number. -/
def Receiver.recorder (answer : Nat → Option TemplateError) : Receiver (List Event) :=
  fun event => do
    let sent ← get
    set (sent ++ [event])
    match answer sent.length with
    | some e => throw e
    | none => return ()

section

variable {σ : Type} {receiver : Receiver σ} {state last : σ} {template : List Char} {n : Nat}
  {answer : Nat → Option TemplateError}

theorem Reading.run_sendTo (r : Reading) (receiver : Receiver σ) (state : σ) :
    (r.sendTo receiver).run state =
      match (forM r.events receiver).run state with
      | .ok () last => outcome r.error last
      | .error e last => .error e last := by
  rw [sendTo, EStateM.run_bind]
  cases (forM r.events receiver).run state with
  | error e last => rfl
  | ok _ last =>
    simp only [outcome]
    cases r.error <;> rfl

theorem Receiver.run_read_of_accepted [Engine]
    (h : (forM (Template.read template).events receiver).run state = .ok () last) :
    (receiver.read template).run state = outcome (Template.read template).error last := by
  rw [read_eq, Reading.run_sendTo, h]

theorem Receiver.RefusesNothing.exists_run_forM (h : receiver.RefusesNothing)
    (events : List Event) (state : σ) :
    ∃ last, (forM events receiver).run state = .ok () last := by
  induction events generalizing state with
  | nil => exact ⟨state, rfl⟩
  | cons event events ih =>
    obtain ⟨next, hnext⟩ := h event state
    obtain ⟨last, hlast⟩ := ih next
    refine ⟨last, ?_⟩
    rw [List.forM_cons, EStateM.run_bind, hnext]
    exact hlast

/-- No event is sent behind one that is refused, and no error replaces the refusal. -/
theorem Receiver.run_read_of_refused [Engine] {event : Event} {next : σ} {e : TemplateError}
    (hbefore : (forM ((Template.read template).events.take n) receiver).run state = .ok () next)
    (hevent : (Template.read template).events[n]? = some event)
    (hrefused : (receiver event).run next = .error e last) :
    (receiver.read template).run state = .error e last := by
  obtain ⟨hn, rfl⟩ := List.getElem?_eq_some_iff.1 hevent
  rw [read_eq, Reading.run_sendTo, ← List.take_append_drop n (Template.read template).events,
    List.drop_eq_getElem_cons hn]
  simp only [List.forM_append, List.forM_cons, EStateM.run_bind, hbefore, hrefused]

theorem Receiver.run_recorder (sent : List Event) (event : Event) :
    (recorder answer event).run sent =
      match answer sent.length with
      | some e => .error e (sent ++ [event])
      | none => .ok () (sent ++ [event]) := by
  simp only [recorder, EStateM.run_bind, EStateM.run_get, EStateM.run_set]
  cases answer sent.length <;> rfl

theorem Receiver.run_forM_recorder (sent events : List Event)
    (h : ∀ k < sent.length + events.length, answer k = none) :
    (forM events (recorder answer)).run sent = .ok () (sent ++ events) := by
  induction events generalizing sent with
  | nil => rw [List.append_nil, List.forM_nil, EStateM.run_pure]
  | cons event events ih =>
    rw [List.length_cons] at h
    have hsent : answer sent.length = none := h sent.length (by omega)
    rw [List.forM_cons, EStateM.run_bind, run_recorder, hsent]
    have hrest := ih (sent ++ [event]) (by
      intro k hk
      rw [List.length_append, List.length_singleton] at hk
      exact h k (by omega))
    rw [List.append_assoc] at hrest
    exact hrest

theorem Receiver.run_read_recorder [Engine]
    (h : ∀ k < (Template.read template).events.length, answer k = none) :
    ((recorder answer).read template).run [] =
      outcome (Template.read template).error (Template.read template).events := by
  apply run_read_of_accepted
  apply run_forM_recorder []
  intro k hk
  rw [List.length_nil, Nat.zero_add] at hk
  exact h k hk

theorem Receiver.run_read_recorder_of_refused [Engine] {e : TemplateError}
    (haccepts : ∀ k < n, answer k = none) (hn : n < (Template.read template).events.length)
    (hrefused : answer n = some e) :
    ((recorder answer).read template).run [] =
      .error e ((Template.read template).events.take (n + 1)) := by
  have hlength : ((Template.read template).events.take n).length = n :=
    List.length_take_of_le (Nat.le_of_lt hn)
  have hbefore : (forM ((Template.read template).events.take n) (recorder answer)).run [] =
      .ok () ((Template.read template).events.take n) := by
    apply run_forM_recorder []
    intro k hk
    rw [List.length_nil, Nat.zero_add, hlength] at hk
    exact haccepts k hk
  apply run_read_of_refused hbefore (List.getElem?_eq_getElem hn)
  rw [run_recorder, hlength, hrefused, List.take_append_getElem hn]

/-- An event that is refused is the last one that is sent, and nothing else changes. -/
theorem refusal_ends_reading [Engine] (template : List Char) (n : Nat)
    (answer : Nat → Option TemplateError) (haccepts : ∀ k < n, answer k = none) :
    let reading := read template
    ((Receiver.recorder fun _ => none).read template).run [] =
        outcome reading.error reading.events ∧
      (∀ e, n < reading.events.length → answer n = some e →
        ((Receiver.recorder answer).read template).run [] =
          .error e (reading.events.take (n + 1))) ∧
      (reading.events.length ≤ n →
        ((Receiver.recorder answer).read template).run [] = outcome reading.error reading.events) ∧
      ∀ (σ : Type) (receiver : Receiver σ) (state next : σ),
        (forM (reading.events.take n) receiver).run state = .ok () next →
          (∀ event e last, reading.events[n]? = some event →
            (receiver event).run next = .error e last →
              (receiver.read template).run state = .error e last) ∧
          (reading.events.length ≤ n →
            (receiver.read template).run state = outcome reading.error next) := by
  intro reading
  refine ⟨?_, ?_, ?_, ?_⟩
  · apply Receiver.run_read_recorder
    intro k hk
    rfl
  · intro e hn hrefused
    exact Receiver.run_read_recorder_of_refused haccepts hn hrefused
  · intro hn
    apply Receiver.run_read_recorder
    intro k hk
    exact haccepts k (Nat.lt_of_lt_of_le hk hn)
  · intro σ receiver state next hbefore
    constructor
    · intro event e last hevent hrefused
      exact Receiver.run_read_of_refused hbefore hevent hrefused
    · intro hn
      rw [List.take_of_length_le hn] at hbefore
      exact Receiver.run_read_of_accepted hbefore

theorem refusal_ends_reading_in_region :
    let template := "<<beginOptional>>a<<endOptional>>b<<endOptional>>".toList
    let answer : Nat → Option TemplateError := fun k =>
      if k = 1 then some (.unknownRule [] 0) else none
    (∀ k < 1, answer k = none) ∧ 1 < (read template).events.length ∧
      answer 1 = some (.unknownRule [] 0) ∧ (read template).error = some (.unexpectedEnd 1) ∧
      ((Receiver.recorder answer).read template).run [] =
        .error (.unknownRule [] 0) [.beginOptional ⟨none, 1⟩, .text ['a'] ⟨1, 17, 1⟩] := by
  intro template answer
  have haccepts : ∀ k < 1, answer k = none := by decide
  have hpieces : pieces template = ([.rule "beginOptional".toList 1, .text ['a'] ⟨1, 17, 1⟩,
      .rule "endOptional".toList 1, .text ['b'] ⟨1, 33, 1⟩, .rule "endOptional".toList 1],
      none) := by decide +kernel
  have hread : read template = ⟨[.beginOptional ⟨none, 1⟩, .text ['a'] ⟨1, 17, 1⟩,
      .endOptional ⟨none, 1⟩, .text ['b'] ⟨1, 33, 1⟩], some (.unexpectedEnd 1)⟩ := by
    rw [read, hpieces]
    rfl
  have hrefused := (refusal_ends_reading template 1 answer haccepts).2.1 (.unknownRule [] 0)
  rw [hread] at hrefused ⊢
  exact ⟨haccepts, by decide, rfl, rfl, hrefused (by decide) rfl⟩

end

end Licensing.Template
