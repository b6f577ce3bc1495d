import Licensing.Template.Piece
import Licensing.Template.Rule

namespace Licensing.Template

open Licensing.Text

variable [Engine]

inductive Event where
  | text (content : List Char) (position : Position)
  | beginOptional (rule : OptionalRule)
  | endOptional (rule : OptionalRule)
  | variable (rule : VariableRule)
  | finish

/-- The events of a template up to its first error. -/
structure Reading where
  events : List Event
  error : Option TemplateError

def Reading.cons (e : Event) (r : Reading) : Reading :=
  { r with events := e :: r.events }

def Reading.fail (e : TemplateError) : Reading :=
  ⟨[], some e⟩

/-- The events of pieces inside the given open regions, the innermost first. -/
def readPieces (openRules : List OptionalRule) : List Piece → Option Nat → Reading
  | [], some line => .fail (.unterminatedRule line)
  | [], none =>
    match openRules with
    | [] => ⟨[.finish], none⟩
    | rule :: _ => .fail (.unterminatedOptional rule.line)
  | .text content position :: rest, tail =>
    (readPieces openRules rest tail).cons (.text content position)
  | .rule body line :: rest, tail =>
    match Rule.parse body line with
    | .error e => .fail e
    | .ok (.variable rule) => (readPieces openRules rest tail).cons (.variable rule)
    | .ok (.beginOptional rule) =>
      (readPieces (rule :: openRules) rest tail).cons (.beginOptional rule)
    | .ok .endOptional =>
      match openRules with
      | [] => .fail (.unexpectedEnd line)
      | rule :: outer => (readPieces outer rest tail).cons (.endOptional rule)

def read (template : List Char) : Reading :=
  let (found, tail) := pieces template
  readPieces [] found tail

/-- A receiver of events; it may have changed its state when it refuses one. -/
abbrev Receiver (σ : Type) : Type :=
  Event → EStateM TemplateError σ Unit

namespace Receiver

variable {σ : Type}

/-- Leaves the pieces behind the rule that closes the region; outside of all there are none. -/
def readRegion (receiver : Receiver σ) (region? : Option OptionalRule) (tail : Option Nat) :
    (found : List Piece) → EStateM TemplateError σ { rest : List Piece // rest <:+ found }
  | [] =>
    match tail, region? with
    | some line, _ => throw (.unterminatedRule line)
    | none, some rule => throw (.unterminatedOptional rule.line)
    | none, none => return ⟨[], List.suffix_rfl⟩
  | .text content position :: found => do
    receiver (.text content position)
    let rest ← receiver.readRegion region? tail found
    return ⟨rest, rest.2.trans (List.suffix_cons _ _)⟩
  | .rule body line :: found =>
    match Rule.parse body line with
    | .error e => throw e
    | .ok (.variable rule) => do
      receiver (.variable rule)
      let rest ← receiver.readRegion region? tail found
      return ⟨rest, rest.2.trans (List.suffix_cons _ _)⟩
    | .ok (.beginOptional rule) => do
      receiver (.beginOptional rule)
      let behind ← receiver.readRegion (some rule) tail found
      let rest ← receiver.readRegion region? tail behind
      return ⟨rest, (rest.2.trans behind.2).trans (List.suffix_cons _ _)⟩
    | .ok .endOptional =>
      match region? with
      | none => throw (.unexpectedEnd line)
      | some rule => do
        receiver (.endOptional rule)
        return ⟨found, List.suffix_cons _ _⟩
termination_by found => found.length
decreasing_by
  · exact Nat.lt_succ_self _
  · exact Nat.lt_succ_self _
  · exact Nat.lt_succ_self _
  · exact Nat.lt_succ_of_le behind.2.length_le

def read (receiver : Receiver σ) (template : List Char) : EStateM TemplateError σ Unit := do
  let (found, tail) := pieces template
  let _ ← receiver.readRegion none tail found
  receiver .finish

end Receiver

/-- A receiver with the state `σ`, which it leaves as it is when it refuses an event. -/
abbrev Sink (σ : Type) : Type :=
  σ → Event → Except TemplateError σ

def Sink.feed {σ : Type} (sink : Sink σ) (state : σ) : List Event → σ × Option TemplateError
  | [] => (state, none)
  | event :: rest =>
    match sink state event with
    | .ok next => Sink.feed sink next rest
    | .error e => (state, some e)

def Sink.receiver {σ : Type} (sink : Sink σ) : Receiver σ := fun event state =>
  match sink state event with
  | .ok next => .ok () next
  | .error e => .error e state

def Sink.read {σ : Type} (sink : Sink σ) (state : σ) (template : List Char) :
    σ × Option TemplateError :=
  match (sink.receiver.read template).run state with
  | .ok () last => (last, none)
  | .error e last => (last, some e)

def Sink.run {σ : Type} (sink : Sink σ) (state : σ) (template : List Char) :
    Except TemplateError σ :=
  match sink.read state template with
  | (_, some e) => .error e
  | (last, none) => .ok last

end Licensing.Template
