import Licensing.Template.Event

namespace Licensing.Template

/-- Sends the events of a reading to a receiver, and fails behind them as the reading does. -/
def Reading.sendTo {σ : Type} (r : Reading) (receiver : Receiver σ) :
    EStateM TemplateError σ Unit := do
  forM r.events receiver
  match r.error with
  | some e => throw e
  | none => return ()

def outcome {σ : Type} (error? : Option TemplateError) (last : σ) :
    EStateM.Result TemplateError σ Unit :=
  match error? with
  | some e => .error e last
  | none => .ok () last

def Receiver.sendBehind [Engine] {σ : Type} (receiver : Receiver σ) (tail : Option Nat) :
    (openRules : List OptionalRule) → (rest : List Piece) → EStateM TemplateError σ Unit
  | [], _ => receiver .finish
  | _ :: outer, rest => (readPieces outer rest tail).sendTo receiver

section

variable {σ : Type} {receiver : Receiver σ} {tail : Option Nat}

theorem Reading.sendTo_cons (event : Event) (r : Reading) :
    (r.cons event).sendTo receiver = (do receiver event; r.sendTo receiver) := by
  simp only [sendTo, cons, List.forM_cons, bind_assoc]

theorem readRegion_bind_sendBehind [Engine] (openRules : List OptionalRule) (found : List Piece) :
    (do
      let rest ← receiver.readRegion openRules.head? tail found
      receiver.sendBehind tail openRules rest) =
      (readPieces openRules found tail).sendTo receiver := by
  -- A region inside leaves pieces that are behind its first one, so the induction is on length.
  induction hlength : found.length using Nat.strongRecOn generalizing found openRules with
  | ind n ih =>
  subst hlength
  rw [Receiver.readRegion.eq_def]
  cases found with
  | nil =>
    cases tail with
    | some line => rfl
    | none =>
      cases openRules with
      | nil => simp [readPieces, Reading.sendTo, Receiver.sendBehind]
      | cons rule outer => rfl
  | cons piece found =>
    have hread (rest : List Piece) (hle : rest.length ≤ found.length)
        (openRules : List OptionalRule) :=
      ih rest.length (Nat.lt_succ_of_le hle) openRules rest rfl
    have hfound := hread found (Nat.le_refl _)
    cases piece with
    | text content position =>
      simp only [bind_assoc, pure_bind, hfound, readPieces, Reading.sendTo_cons]
    | rule body line =>
      cases hparse : Rule.parse body line with
      | error e =>
        simp only [hparse, readPieces]
        rfl
      | ok parsed =>
        cases parsed with
        | «variable» rule =>
          simp only [hparse, bind_assoc, pure_bind, hfound, readPieces, Reading.sendTo_cons]
        | beginOptional rule =>
          have hbehind (behind : { rest : List Piece // rest <:+ found }) :=
            hread behind behind.2.length_le openRules
          simp only [hparse, bind_assoc, pure_bind, hbehind, readPieces, Reading.sendTo_cons,
            ← hfound (rule :: openRules)]
          rfl
        | endOptional =>
          cases openRules with
          | nil =>
            simp only [hparse, List.head?_nil, readPieces]
            rfl
          | cons rule outer =>
            simp only [hparse, List.head?_cons, bind_assoc, pure_bind, readPieces,
              Reading.sendTo_cons]
            rfl

/-- A template is read by sending its events. -/
theorem Receiver.read_eq [Engine] (receiver : Receiver σ) (template : List Char) :
    receiver.read template = (Template.read template).sendTo receiver :=
  readRegion_bind_sendBehind [] (pieces template).1

theorem Sink.run_receiver_of_ok {sink : Sink σ} {state next : σ} {event : Event}
    (h : sink state event = .ok next) : (sink.receiver event).run state = .ok () next := by
  simp only [receiver, EStateM.run, h]

theorem Sink.run_receiver_of_error {sink : Sink σ} {state : σ} {event : Event} {e : TemplateError}
    (h : sink state event = .error e) : (sink.receiver event).run state = .error e state := by
  simp only [receiver, EStateM.run, h]

theorem Sink.run_forM_receiver (sink : Sink σ) (state : σ) (events : List Event) :
    (forM events sink.receiver).run state =
      outcome (sink.feed state events).2 (sink.feed state events).1 := by
  induction events generalizing state with
  | nil => rfl
  | cons event events ih =>
    rw [List.forM_cons, EStateM.run_bind, feed]
    cases hstep : sink state event with
    | error e => rw [run_receiver_of_error hstep, outcome]
    | ok next =>
      rw [run_receiver_of_ok hstep]
      exact ih next

/-- A template is read into a sink by feeding its events to the sink. -/
theorem Sink.read_eq [Engine] (sink : Sink σ) (state : σ) (template : List Char) :
    sink.read state template =
      ((sink.feed state (Template.read template).events).1,
        (sink.feed state (Template.read template).events).2.or (Template.read template).error) := by
  rw [read, Receiver.read_eq, Reading.sendTo, EStateM.run_bind, run_forM_receiver]
  cases (sink.feed state (Template.read template).events).2 with
  | some e => rfl
  | none => cases (Template.read template).error <;> rfl

end

end Licensing.Template
