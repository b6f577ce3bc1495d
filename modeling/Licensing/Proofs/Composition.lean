import Licensing.Unicode.Normalization
import Mathlib.Data.List.TakeWhile

namespace Licensing.Unicode

/-- A character that takes no part in the order and the composition of marks. -/
structure Inert (c : Char) : Prop where
  combiningClass_eq : combiningClass c = 0
  composePair_left (d : Char) : composePair c d = none
  composePair_right (d : Char) : composePair d c = none

def composed (s : List Char) : List Char :=
  compose (orderMarks s)

section

variable {c q : Char} {done marks rest s u v : List Char}

theorem insertMark_starter (hq : combiningClass q = 0) (done : List Char) :
    insertMark q done = q :: done := by
  cases done with
  | nil => rfl
  | cons d ds => simp [insertMark, hq]

theorem insertMark_append_starter (hq : combiningClass q = 0) (c : Char) (done before : List Char) :
    insertMark c (done ++ q :: before) = insertMark c done ++ q :: before := by
  induction done with
  | nil => simp [insertMark, hq]
  | cons d ds ih =>
    simp only [List.cons_append, insertMark, ih]
    split <;> rfl

theorem foldl_insertMark_append_starter (hq : combiningClass q = 0) (v done before : List Char) :
    v.foldl (fun done c => insertMark c done) (done ++ q :: before) =
      v.foldl (fun done c => insertMark c done) done ++ q :: before := by
  induction v generalizing done with
  | nil => rfl
  | cons c cs ih => rw [List.foldl_cons, List.foldl_cons, insertMark_append_starter hq, ih]

theorem orderMarks_append_starter (hq : combiningClass q = 0) (u v : List Char) :
    orderMarks (u ++ q :: v) = orderMarks u ++ q :: orderMarks v := by
  have hbehind :=
    foldl_insertMark_append_starter hq v [] (u.foldl (fun done c => insertMark c done) [])
  rw [List.nil_append] at hbehind
  simp only [orderMarks, List.foldl_append, List.foldl_cons, insertMark_starter hq, hbehind,
    List.reverse_append, List.reverse_cons, List.append_assoc, List.singleton_append]

theorem insertMark_perm (c : Char) (done : List Char) : (insertMark c done).Perm (c :: done) := by
  induction done with
  | nil => exact .refl _
  | cons d ds ih =>
    rw [insertMark]
    split
    · exact (ih.cons d).trans (.swap c d ds)
    · exact .refl _

theorem foldl_insertMark_perm (s done : List Char) :
    (s.foldl (fun done c => insertMark c done) done).Perm (s ++ done) := by
  induction s generalizing done with
  | nil => exact .refl _
  | cons c cs ih =>
    exact (ih _).trans (((insertMark_perm c done).append_left cs).trans List.perm_middle)

theorem orderMarks_perm (s : List Char) : (orderMarks s).Perm s := by
  have hfold := foldl_insertMark_perm s []
  rw [List.append_nil] at hfold
  exact (List.reverse_perm _).trans hfold

theorem composeFrom_inert (hq : Inert q) (marks : List Char) (last : Nat) (v : List Char) :
    composeFrom q marks last v = q :: (marks.reverse ++ compose v) := by
  induction v generalizing marks last with
  | nil => simp [composeFrom, compose]
  | cons c cs ih =>
    simp only [composeFrom, compose, hq.composePair_left, ite_self]
    split
    · rfl
    · rw [ih, List.reverse_cons, List.append_assoc]
      rfl

theorem composeFrom_append_inert (hq : Inert q) (starter : Char) (marks : List Char) (last : Nat)
    (u v : List Char) : composeFrom starter marks last (u ++ q :: v) =
      composeFrom starter marks last u ++ q :: compose v := by
  induction u generalizing starter marks last with
  | nil =>
    -- Nothing composes with `q`, so the marks held back are written out in front of it.
    simp only [List.nil_append, composeFrom, hq.composePair_right, ite_self,
      hq.combiningClass_eq, if_true, composeFrom_inert hq]
    rfl
  | cons c cs ih =>
    simp only [List.cons_append, composeFrom, ih]
    split
    · rfl
    · split
      · rw [List.cons_append, List.append_assoc]
      · rfl

theorem compose_append_inert (hq : Inert q) (u v : List Char) :
    compose (u ++ q :: v) = compose u ++ q :: compose v := by
  induction u with
  | nil => exact (if_pos hq.combiningClass_eq).trans (composeFrom_inert hq [] 0 v)
  | cons c cs ih =>
    simp only [List.cons_append, compose, ih, composeFrom_append_inert hq]
    split <;> rfl

theorem composed_append_inert (hq : Inert q) (u v : List Char) :
    composed (u ++ q :: v) = composed u ++ q :: composed v := by
  rw [composed, orderMarks_append_starter hq.combiningClass_eq, compose_append_inert hq]
  rfl

theorem composed_inert_append (h : ∀ q ∈ u, Inert q) (v : List Char) :
    composed (u ++ v) = u ++ composed v := by
  induction u with
  | nil => rfl
  | cons q u ih =>
    obtain ⟨hq, hu⟩ := List.forall_mem_cons.1 h
    have hfirst := composed_append_inert hq [] (u ++ v)
    rw [List.nil_append] at hfirst
    rw [List.cons_append, hfirst, ih hu]
    rfl

theorem compatibilityForm_cons {a : Char} (ha : Inert a) (hdecompose : decompose c = a :: rest)
    (v : List Char) : compatibilityForm (c :: v) = a :: composed (rest ++ v.flatMap decompose) := by
  rw [compatibilityForm, List.flatMap_cons, hdecompose]
  exact composed_append_inert ha [] _

theorem compose_marks_append (h : ∀ c ∈ marks, combiningClass c ≠ 0) (v : List Char) :
    compose (marks ++ v) = marks ++ compose v := by
  induction marks with
  | nil => rfl
  | cons c cs ih =>
    obtain ⟨hc, hcs⟩ := List.forall_mem_cons.1 h
    rw [List.cons_append, compose, if_neg hc, ih hcs, List.cons_append]

theorem composed_marks_append (h : ∀ c ∈ marks, combiningClass c ≠ 0)
    (hrest : ∀ c ∈ rest.head?, combiningClass c = 0) :
    composed (marks ++ rest) = orderMarks marks ++ composed rest := by
  have hordered : ∀ c ∈ orderMarks marks, combiningClass c ≠ 0 := fun c hc =>
    h c ((orderMarks_perm marks).mem_iff.1 hc)
  cases rest with
  | nil =>
    have hmarks := compose_marks_append hordered []
    rwa [List.append_nil] at hmarks ⊢
  | cons q r =>
    have hq : combiningClass q = 0 := hrest q rfl
    have hstarter := orderMarks_append_starter hq [] r
    rw [List.nil_append] at hstarter
    rw [composed, composed, orderMarks_append_starter hq, hstarter,
      compose_marks_append hordered]
    rfl

theorem exists_eq_marks_append (v : List Char) : ∃ marks rest, v = marks ++ rest ∧
    (∀ c ∈ marks, combiningClass c ≠ 0) ∧ ∀ c ∈ rest.head?, combiningClass c = 0 := by
  refine ⟨v.takeWhile (combiningClass · ≠ 0), v.dropWhile (combiningClass · ≠ 0),
    List.takeWhile_append_dropWhile.symm, fun c hc => ?_, fun c hc => ?_⟩
  · simpa using List.mem_takeWhile_imp hc
  · have hfirst := List.head?_dropWhile_not (combiningClass · ≠ 0) v
    rw [hc] at hfirst
    simpa using hfirst

theorem count_composed_cons (hc : combiningClass c ≠ 0) (v : List Char) :
    (composed (c :: v)).count c = (composed v).count c + 1 := by
  obtain ⟨marks, rest, rfl, hmarks, hrest⟩ := exists_eq_marks_append v
  have hall : ∀ d ∈ c :: marks, combiningClass d ≠ 0 := List.forall_mem_cons.2 ⟨hc, hmarks⟩
  rw [← List.cons_append, composed_marks_append hall hrest, composed_marks_append hmarks hrest,
    List.count_append, List.count_append, (orderMarks_perm _).count_eq,
    (orderMarks_perm _).count_eq, List.count_cons_self, Nat.add_right_comm]

end

end Licensing.Unicode
