import Licensing.Matching.Search
import Licensing.Proofs.Layout

namespace Licensing.Matching

open Licensing.Text Licensing.Template

@[simp] theorem Outcome.isMatch_matched (regions : List Region) :
    (Outcome.matched regions).isMatch = true := rfl

@[simp] theorem Outcome.isMatch_failed (divergence : Option Divergence) :
    (Outcome.failed divergence).isMatch = false := rfl

def Step.follower (p : Program) (d : Document) (step : Step) : Following :=
  match step.action with
  | .variable _ _ => following p d step.next
  | _ => .nothing

/-- The outcomes of a table whose first row is that of the step `id`. -/
def lookUp (d : Document) (mode : Mode) (table : List Row) (id : Nat) (next : Option Nat)
    (place : Nat) : Outcome :=
  match next with
  | some next => outcomeAt table (next - id) place
  | none => endOutcome d mode place

/-- The outcome of the template from a step on, or of its end. -/
def outcomeFrom [Engine] (p : Program) (d : Document) (mode : Mode) (next : Option Nat)
    (place : Nat) : Outcome :=
  lookUp d mode (rows p d mode) 0 next place

section

variable {p : Program} {d : Document} {mode : Mode} {id place : Nat} {step : Step}

theorem entryOutcome_eq [Engine] :
    entryOutcome p d mode (rows p d mode) place = outcomeFrom p d mode p.entry place := by
  unfold entryOutcome outcomeFrom
  cases p.entry <;> rfl

theorem rowsFrom_cons [Engine] {rest : List Step} :
    rowsFrom p d mode id (step :: rest) =
      Array.ofFn (n := d.size + 1) (fun place => Thunk.mk fun _ =>
        stepOutcome p d mode (lookUp d mode (rowsFrom p d mode (id + 1) rest) (id + 1)) id step
          (step.follower p d) place) :: rowsFrom p d mode (id + 1) rest := by
  rfl

theorem lookUp_cons {row : Row} {table : List Row} {next : Option Nat}
    (h : ∀ link ∈ next, id < link) :
    lookUp d mode (row :: table) id next = lookUp d mode table (id + 1) next := by
  funext place
  cases next with
  | none => rfl
  | some link =>
    have hlt : id < link := h link rfl
    have he : link - id = (link - (id + 1)) + 1 := by omega
    simp only [lookUp, he, outcomeAt, List.getElem?_cons_succ]

/-- The outcome of a step only depends on those of the steps that it links to. -/
theorem stepOutcome_congr [Engine] {goOn goOn' : Option Nat → Nat → Outcome} {follower : Following}
    (h : ∀ next : Option Nat, (∀ link ∈ next, link ∈ step.links) → goOn next = goOn' next) :
    stepOutcome p d mode goOn id step follower place =
      stepOutcome p d mode goOn' id step follower place := by
  have hnext : goOn step.next = goOn' step.next :=
    h step.next fun link hlink => Step.mem_links_of_next hlink
  unfold stepOutcome
  rw [hnext]
  cases haction : step.action with
  | text tokens => rfl
  | optional inner =>
    cases inner with
    | none => rfl
    | some inner =>
      have hinner : goOn (some inner) = goOn' (some inner) := by
        apply h
        intro link hlink
        cases hlink
        exact Step.mem_links_of_inner haction
      simp only [hinner]
  | «variable» rule literal => rfl

theorem outcomeAt_rowsFrom_zero [Engine] {rest : List Step} (hplace : place ≤ d.size) :
    outcomeAt (rowsFrom p d mode id (step :: rest)) 0 place =
      stepOutcome p d mode (lookUp d mode (rowsFrom p d mode (id + 1) rest) (id + 1)) id step
        (step.follower p d) place := by
  have hlt : place < d.size + 1 := by omega
  rw [rowsFrom_cons, outcomeAt, List.getElem?_cons_zero, Option.bind_some, Array.getElem?_ofFn,
    dif_pos hlt]
  rfl

theorem outcomeAt_rowsFrom [Engine] {steps : List Step} {k : Nat} (hstep : steps[k]? = some step)
    (hlinks : ∀ link ∈ step.links, id + k < link) (hplace : place ≤ d.size) :
    outcomeAt (rowsFrom p d mode id steps) k place =
      stepOutcome p d mode (lookUp d mode (rowsFrom p d mode id steps) id) (id + k) step
        (step.follower p d) place := by
  induction steps generalizing id k with
  | nil => cases hstep
  | cons first rest ih =>
    cases k with
    | zero =>
      cases hstep
      rw [outcomeAt_rowsFrom_zero hplace, Nat.add_zero]
      apply stepOutcome_congr
      intro next hnext
      exact (lookUp_cons fun link hlink => hlinks link (hnext link hlink)).symm
    | succ k =>
      rw [List.getElem?_cons_succ] at hstep
      have hadd : id + (k + 1) = id + 1 + k := by omega
      rw [hadd] at hlinks ⊢
      have htail : outcomeAt (rowsFrom p d mode id (first :: rest)) (k + 1) place =
          outcomeAt (rowsFrom p d mode (id + 1) rest) k place := rfl
      rw [htail, ih hstep hlinks]
      apply stepOutcome_congr
      intro next hnext
      refine (lookUp_cons fun link hlink => ?_).symm
      have hlt := hlinks link (hnext link hlink)
      omega

/-- The equation of the table. -/
theorem outcomeFrom_step [Engine] (hp : p.Forward) (hstep : p.steps[id]? = some step)
    (hplace : place ≤ d.size) :
    outcomeFrom p d mode (some id) place =
      stepOutcome p d mode (outcomeFrom p d mode) id step (step.follower p d) place := by
  have hlinks : ∀ link ∈ step.links, 0 + id < link := by
    rw [Nat.zero_add]
    exact hp id step hstep
  have hrow : outcomeAt (rowsFrom p d mode 0 p.steps) id place = _ :=
    outcomeAt_rowsFrom hstep hlinks hplace
  rw [Nat.zero_add] at hrow
  exact hrow

end

end Licensing.Matching
