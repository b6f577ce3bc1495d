import Licensing.Proofs.Blank
import Licensing.Proofs.Fillers

namespace Licensing.Unicode

open Licensing.Text

section

variable {q : Char}

def behindFiller : ClusterState :=
  ⟨.other, false, false, false, false, false⟩

theorem step_of_isFiller (hq : isFiller q) (s : ClusterState) : s.step q = behindFiller := by
  simp [ClusterState.step, behindFiller, graphemeClass_of_isFiller hq,
    conjunctRole_of_isFiller hq]

theorem step_behindFiller (c : Char) : behindFiller.step c = ClusterState.start.step c := rfl

theorem breaksBefore_of_isFiller (hq : isFiller q) (s : ClusterState) :
    s.breaksBefore q = true ∨ s.last = .prepend := by
  cases hlast : s.last <;>
    simp [ClusterState.breaksBefore, hlast, graphemeClass_of_isFiller hq,
      conjunctRole_of_isFiller hq]

theorem breaksBefore_behindFiller (c : Char) :
    behindFiller.breaksBefore c = true ∨ Clings (graphemeClass c) := by
  cases hclass : graphemeClass c <;>
    simp [ClusterState.breaksBefore, behindFiller, Clings, hclass]

end

end Licensing.Unicode

namespace Licensing.Text

open Licensing.Unicode

section

variable {f : Folding} {q : Char} {u v before behind : List Char} {s : ClusterState}

def Folding.form (f : Folding) (cluster : List Char) : List Char :=
  if f.unicode then compatibilityForm cluster else cluster

/-- A blank, a quote or a dash of which nothing is left behind: any but the acute accent. -/
structure Folding.Drops (f : Folding) (q : Char) : Prop where
  isFiller : isFiller q
  ne_acute (hunicode : f.unicode) : q ≠ '\u00B4'

theorem Folding.form_append_filler (hq : isFiller q) (u v : List Char) :
    f.form (u ++ q :: v) = f.form u ++ f.form (q :: v) := by
  unfold Folding.form
  split
  · exact compatibilityForm_append_filler hq u v
  · rfl

theorem Folding.Drops.form_cons (hq : f.Drops q) (v : List Char) :
    f.form (q :: v) = f.form [q] ++ f.form v := by
  have hnil : compatibilityForm [] = [] := rfl
  unfold Folding.form
  split
  · rename_i hunicode
    have hne := hq.ne_acute hunicode
    rw [compatibilityForm_filler_cons hq.isFiller hne,
      compatibilityForm_filler_cons hq.isFiller hne, hnil, List.append_nil]
  · rfl

theorem Folding.Drops.isFiller_of_mem {a : Char} (hq : f.Drops q) (ha : a ∈ f.form [q]) :
    Unicode.isFiller a := by
  have hnil : compatibilityForm [] = [] := rfl
  unfold Folding.form at ha
  split at ha
  · rename_i hunicode
    have hne := hq.ne_acute hunicode
    rw [compatibilityForm_filler_cons hq.isFiller hne, hnil, List.append_nil] at ha
    exact isFiller_of_mem_decompose hq.isFiller hne ha
  · rw [List.mem_singleton.1 ha]
    exact hq.isFiller

theorem Folding.exists_form_cons (hq : isFiller q) (v : List Char) :
    ∃ a w, f.form (q :: v) = a :: w ∧ isFiller a := by
  unfold Folding.form
  split
  · obtain ⟨a, rest, hdecompose, ha⟩ := exists_decompose_cons hq
    exact ⟨a, _, compatibilityForm_cons (inert_of_isFiller ha) hdecompose v, ha⟩
  · exact ⟨q, v, rfl, hq⟩

def IsClinging (cluster : List Char) : Prop :=
  cluster = [] ∨ ∃ c ∈ cluster, Clings (graphemeClass c)

theorem foldCluster_of_not_isAscii {cluster : List Char} {c : Char} (hc : c ∈ cluster)
    (hwide : isAscii c = false) (hspace : isWhitespace c = false) :
    foldCluster f cluster = (f.form cluster).flatMap foldChar := by
  have hblank : isBlank cluster = false := by
    rw [Bool.eq_false_iff]
    intro hblank
    rw [isBlank_iff.1 hblank c hc] at hspace
    cases hspace
  have hascii : cluster.all isAscii = false := by
    rw [Bool.eq_false_iff]
    intro hascii
    rw [List.all_eq_true.1 hascii c hc] at hwide
    cases hwide
  simp [foldCluster, Folding.form, hblank, hascii]

theorem foldCluster_of_mem {cluster : List Char} {c : Char} (hc : c ∈ cluster)
    (hclings : Clings (graphemeClass c)) :
    foldCluster f cluster = (f.form cluster).flatMap foldChar := by
  obtain ⟨hwide, hspace⟩ := hclings.wide
  exact foldCluster_of_not_isAscii hc (decide_eq_false (by omega)) hspace

theorem IsClinging.foldCluster_eq (h : IsClinging before) :
    foldCluster f before = (f.form before).flatMap foldChar := by
  rcases h with rfl | ⟨c, hc, hclings⟩
  · have hform : f.form [] = [] := by
      unfold Folding.form
      split <;> rfl
    rw [hform]
    rfl
  · exact foldCluster_of_mem hc hclings

theorem foldCluster_filler (f : Folding) (hq : isFiller q) :
    foldCluster f [q] = (f.form [q]).flatMap foldChar := by
  cases hascii : isAscii q with
  | false =>
    have hspace : isWhitespace q = false :=
      of_isFiller (P := fun q => isAscii q = false → isWhitespace q = false) (by decide) hq hascii
    exact foldCluster_of_not_isAscii (List.mem_singleton_self q) hascii hspace
  | true =>
    have hform : f.form [q] = [q] := by
      have hdecompose : decompose q = [q] := if_pos (by simp [isAscii] at hascii; omega)
      unfold Folding.form
      split
      · rw [compatibilityForm, List.flatMap_singleton, hdecompose]
        exact composed_inert_append (List.forall_mem_singleton.2 (inert_of_isFiller hq)) []
      · rfl
    rw [hform, List.flatMap_singleton, foldCluster_of_isAscii f hascii,
      foldChar_of_isAscii hascii]

theorem foldCluster_filler_cons (hq : isFiller q) (hbehind : IsClinging behind) :
    foldCluster f (q :: behind) = (f.form (q :: behind)).flatMap foldChar := by
  rcases hbehind with rfl | ⟨c, hc, hclings⟩
  · exact foldCluster_filler f hq
  · exact foldCluster_of_mem (List.mem_cons_of_mem q hc) hclings

theorem foldCluster_append_filler (hq : isFiller q) (hbefore : IsClinging before)
    (hbehind : IsClinging behind) : foldCluster f (before ++ q :: behind) =
      foldCluster f before ++ foldCluster f (q :: behind) := by
  rw [hbefore.foldCluster_eq, foldCluster_filler_cons hq hbehind, ← List.flatMap_append,
    ← Folding.form_append_filler hq]
  rcases hbefore with rfl | ⟨c, hc, hclings⟩
  · exact foldCluster_filler_cons hq hbehind
  · exact foldCluster_of_mem (List.mem_append_left _ hc) hclings

def foldedLine (f : Folding) (line : List Char) : List Char :=
  (clusters line).flatMap (foldCluster f)

def foldedAfter (f : Folding) (before : List Char) (s : ClusterState) (u : List Char) :
    List Char :=
  foldCluster f (before ++ (clustersAfter s u).1) ++
    (clustersAfter s u).2.flatMap (foldCluster f)

theorem foldedAfter_nil : foldedAfter f before s [] = foldCluster f before := by
  simp [foldedAfter, clustersAfter]

theorem foldedLine_cons (c : Char) (u : List Char) :
    foldedLine f (c :: u) = foldedAfter f [c] (ClusterState.start.step c) u := by
  simp [foldedLine, foldedAfter, clusters]

theorem foldedAfter_cons_of_breaksBefore {c : Char} (h : s.breaksBefore c = true) :
    foldedAfter f before s (c :: u) = foldCluster f before ++ foldedAfter f [c] (s.step c) u := by
  simp [foldedAfter, clustersAfter, h]

theorem foldedAfter_cons {c : Char} (h : s.breaksBefore c = false) :
    foldedAfter f before s (c :: u) = foldedAfter f (before ++ [c]) (s.step c) u := by
  simp [foldedAfter, clustersAfter, h]

theorem exists_behindFiller (f : Folding) (v : List Char) : ∃ behind later, IsClinging behind ∧
    foldedLine f v = foldCluster f behind ++ later ∧
      ∀ before,
        foldedAfter f before behindFiller v = foldCluster f (before ++ behind) ++ later := by
  cases v with
  | nil =>
    refine ⟨[], [], .inl rfl, rfl, fun before => ?_⟩
    rw [foldedAfter_nil, List.append_nil, List.append_nil]
  | cons c cs =>
    cases hbreaks : behindFiller.breaksBefore c with
    | true =>
      refine ⟨[], foldedLine f (c :: cs), .inl rfl, rfl, fun before => ?_⟩
      rw [foldedAfter_cons_of_breaksBefore hbreaks, step_behindFiller, List.append_nil,
        foldedLine_cons]
    | false =>
      have hclings : Clings (graphemeClass c) := by
        simpa [hbreaks] using breaksBefore_behindFiller c
      refine ⟨c :: (clustersAfter (ClusterState.start.step c) cs).1,
        (clustersAfter (ClusterState.start.step c) cs).2.flatMap (foldCluster f),
        .inr ⟨c, List.mem_cons_self, hclings⟩, foldedLine_cons c cs, fun before => ?_⟩
      rw [foldedAfter_cons hbreaks, step_behindFiller, foldedAfter, List.append_assoc,
        List.singleton_append]

theorem foldedLine_filler_cons (hq : isFiller q) (v : List Char) :
    foldedLine f (q :: v) = foldedAfter f [q] behindFiller v := by
  rw [foldedLine_cons, step_of_isFiller hq]

theorem foldedAfter_append_filler (hq : isFiller q)
    (hlast : ∃ c ∈ before, graphemeClass c = s.last) :
    foldedAfter f before s (u ++ q :: v) =
      foldedAfter f before s u ++ foldedLine f (q :: v) := by
  -- The state knows the last character by its class alone; `before` holds the character itself.
  induction u generalizing before s with
  | nil =>
    rw [List.nil_append, foldedAfter_nil, foldedLine_filler_cons hq]
    cases hbreaks : s.breaksBefore q with
    | true => rw [foldedAfter_cons_of_breaksBefore hbreaks, step_of_isFiller hq]
    | false =>
      obtain ⟨c, hc, hclass⟩ := hlast
      have hprepend : s.last = .prepend := by simpa [hbreaks] using breaksBefore_of_isFiller hq s
      have hbefore : IsClinging before := .inr ⟨c, hc, by simp [Clings, hclass, hprepend]⟩
      obtain ⟨behind, later, hbehind, -, hafter⟩ := exists_behindFiller f v
      rw [foldedAfter_cons hbreaks, step_of_isFiller hq, hafter, hafter, List.append_assoc,
        List.singleton_append, foldCluster_append_filler hq hbefore hbehind, List.append_assoc]
  | cons c cs ih =>
    rw [List.cons_append]
    cases hbreaks : s.breaksBefore c with
    | true =>
      rw [foldedAfter_cons_of_breaksBefore hbreaks, foldedAfter_cons_of_breaksBefore hbreaks,
        ih ⟨c, List.mem_singleton_self c, rfl⟩, List.append_assoc]
    | false =>
      rw [foldedAfter_cons hbreaks, foldedAfter_cons hbreaks,
        ih ⟨c, List.mem_append_right _ (List.mem_singleton_self c), rfl⟩]

theorem foldedLine_append_filler (hq : isFiller q) (u v : List Char) :
    foldedLine f (u ++ q :: v) = foldedLine f u ++ foldedLine f (q :: v) := by
  cases u with
  | nil => rfl
  | cons c cs =>
    rw [List.cons_append, foldedLine_cons, foldedLine_cons]
    exact foldedAfter_append_filler hq ⟨c, List.mem_singleton_self c, rfl⟩

theorem foldedLine_cons_of_drops (hq : f.Drops q) (v : List Char) :
    foldedLine f (q :: v) = foldCluster f [q] ++ foldedLine f v := by
  obtain ⟨behind, later, hbehind, hline, hafter⟩ := exists_behindFiller f v
  rw [foldedLine_filler_cons hq.isFiller, hafter, hline, List.singleton_append,
    foldCluster_filler_cons hq.isFiller hbehind, hq.form_cons, List.flatMap_append,
    ← hbehind.foldCluster_eq, ← foldCluster_filler f hq.isFiller, List.append_assoc]

end

end Licensing.Text
