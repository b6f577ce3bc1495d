import Licensing.Matching.Matcher
import Licensing.Proofs.Simulation
import Licensing.Proofs.Tree

namespace Licensing.Matching

open Licensing.Text Licensing.Template

section

variable {f : Folding} {d : Document} {mode : Mode} {body : Body} {i j : Nat}

theorem isMatch_entry [Engine] (hi : i ≤ d.size) :
    (entryOutcome (.ofBody f body) d mode (rows (.ofBody f body) d mode) i).isMatch ↔
      ∃ j, Derives f d body i j ∧ (endOutcome d mode j).isMatch := by
  rw [entryOutcome_eq, Program.entry_ofBody]
  exact isMatch_layout (Program.ofBody_forward f body) (List.prefix_refl _) hi

theorem exactOutcome_isMatch [Engine] :
    (exactOutcome (.ofBody f body) d).isMatch ↔ Derives f d body 0 d.size := by
  rw [exactOutcome, isMatch_entry (Nat.zero_le _)]
  simp only [endOutcome_isMatch, reduceCtorEq, false_or, exists_eq_right]

theorem describe_found (p : Program) (count : UInt64) (e : Option Divergence) :
    (describe p d count e).found = true := by
  cases e with
  | none => rfl
  | some e => cases e <;> rfl

theorem compareWith_found [Engine] (p : Program) (count : UInt64) :
    (compareWith p d count).found = false ↔ (exactOutcome p d).isMatch := by
  rw [compareWith]
  cases exactOutcome p d with
  | matched regions => simp [Difference.noDifference]
  | failed e => simp [describe_found]

theorem acceptsSpan_empty [Engine] (rule : VariableRule) (literal : Option String) (i j : Nat) :
    acceptsSpan d rule literal i i = acceptsSpan d rule literal j j := by
  simp [acceptsSpan, Document.normalizedLength, Document.normalizedSpan, Document.sourceSpan]

theorem Derives.empty [Engine] (h : Derives f d body i i) (hi : i ≤ d.size) (hj : j ≤ d.size) :
    Derives f d body j j := by
  induction body with
  | done => exact .done j
  | text content rest ih =>
    obtain ⟨k, htext, hrest⟩ := derives_text.1 h
    have hk := htext.le_size hi
    have hk' := hrest.le_size hk.2
    obtain rfl : k = i := by omega
    have hlength := htext.1
    have hempty : Spells d j j (textTokens f content) := ⟨by omega, fun k hk => by omega⟩
    exact .text hempty (ih hrest)
  | optional region inner rest ihInner ihRest =>
    rcases derives_optional.1 h with ⟨k, hinner, hrest⟩ | hrest
    · have hk := hinner.le_size hi
      have hk' := hrest.le_size hk.2
      obtain rfl : k = i := by omega
      exact .taken (ihInner hinner) (ihRest hrest)
    · exact .skipped (ihRest hrest)
  | «variable» rule rest ih =>
    obtain ⟨k, ⟨hle, hsize, haccepts⟩, hrest⟩ := derives_variable.1 h
    have hk := hrest.le_size hsize
    obtain rfl : k = i := by omega
    rw [acceptsSpan_empty _ _ _ j] at haccepts
    exact .variable (Nat.le_refl j) hj haccepts (ih hrest)

/-- What matches nothing at the end of the text matches nothing at the first token too. -/
theorem exists_derives_lt [Engine] (hsize : 0 < d.size) (hi : i ≤ d.size)
    (h : Derives f d body i j) :
    ∃ i' < d.size, ∃ j', Derives f d body i' j' := by
  rcases Nat.lt_or_eq_of_le hi with hlt | rfl
  · exact ⟨i, hlt, j, h⟩
  · have hj := h.le_size (Nat.le_refl _)
    obtain rfl : j = d.size := by omega
    exact ⟨0, hsize, 0, h.empty (Nat.le_refl _) (Nat.zero_le _)⟩

theorem mem_candidateStarts [Engine] {p : Program} (hp : p.Forward) (hi : i < d.size)
    (hmatch : (outcomeFrom p d mode p.entry i).isMatch) : i ∈ candidateStarts p d := by
  unfold candidateStarts
  split
  · rename_i token hlead
    exact mem_occurrences.2 (text?_of_leadingToken? hp (Nat.le_of_lt hi) hlead hmatch)
  · exact List.mem_range.2 hi

theorem lt_size_of_mem_candidateStarts {p : Program} (h : i ∈ candidateStarts p d) :
    i < d.size := by
  unfold candidateStarts at h
  split at h
  · exact lt_size_of_text? (mem_occurrences.1 h)
  · exact List.mem_range.1 h

theorem occursIn_ofBody [Engine] :
    occursIn (.ofBody f body) d ↔
      0 < d.size ∧ ∃ i j, i ≤ j ∧ j ≤ d.size ∧ Derives f d body i j := by
  have hentry {i : Nat} (hi : i ≤ d.size) :
      (outcomeFrom (.ofBody f body) d .contains (Program.ofBody f body).entry i).isMatch ↔
        ∃ j, Derives f d body i j := by
    rw [← entryOutcome_eq, isMatch_entry hi]
    simp only [endOutcome_isMatch, true_or, and_true]
  simp only [occursIn, Bool.and_eq_true, decide_eq_true_eq, List.any_eq_true, entryOutcome_eq,
    ne_eq, ← Nat.pos_iff_ne_zero]
  refine and_congr_right fun hsize => ?_
  constructor
  · rintro ⟨i, hstart, hmatch⟩
    have hi := Nat.le_of_lt (lt_size_of_mem_candidateStarts hstart)
    obtain ⟨j, hderives⟩ := (hentry hi).1 hmatch
    obtain ⟨hle, hj⟩ := hderives.le_size hi
    exact ⟨i, j, hle, hj, hderives⟩
  · rintro ⟨i, j, hle, hj, hderives⟩
    obtain ⟨i', hi', j', hderives'⟩ := exists_derives_lt hsize (Nat.le_trans hle hj) hderives
    have hmatch := (hentry (Nat.le_of_lt hi')).2 ⟨j', hderives'⟩
    exact ⟨i', mem_candidateStarts (Program.ofBody_forward f body) hi' hmatch, hmatch⟩

end

theorem Matcher.compile_of_parse [Engine] {m : Matcher} {template : List Char} {body : Body}
    (hparse : Body.parse (stripComments template) = .ok body) :
    m.compile template = .ok (.ofBody m.settings.folding body) := by
  rw [Matcher.compile, Program.compile, hparse]
  rfl

/-- A template that compiles has a body, its tree with the whole rules at the variables. -/
theorem Matcher.compile_isOk [Engine] {m : Matcher} {template : List Char}
    (h : (m.compile template).isOk) :
    ∃ body, Body.parse (stripComments template) = .ok body ∧
      parseTree (stripComments template) = .ok body.nodes ∧
      m.compile template = .ok (.ofBody m.settings.folding body) := by
  unfold Matcher.compile Program.compile at h ⊢
  rw [parseTree_eq]
  cases hparse : Body.parse (stripComments template) with
  | error e =>
    rw [hparse] at h
    cases h
  | ok body => exact ⟨body, rfl, rfl, rfl⟩

theorem Matcher.compare_eq_ok [Engine] {m : Matcher} {template text : List Char}
    {difference : Difference} (h : m.compare template text = .ok difference) :
    ∃ body, Body.parse (stripComments template) = .ok body ∧
      m.compile template = .ok (.ofBody m.settings.folding body) ∧
      difference = m.comparePrepared (.ofBody m.settings.folding body) (m.prepare text) := by
  have hok : (m.compile template).isOk := by
    unfold Matcher.compare at h
    cases hcompile : m.compile template with
    | error e =>
      rw [hcompile] at h
      cases h
    | ok p => rfl
  obtain ⟨body, hparse, -, hcompile⟩ := Matcher.compile_isOk hok
  rw [Matcher.compare, hcompile] at h
  exact ⟨body, hparse, hcompile, (Except.ok.inj h).symm⟩

theorem Matcher.isWithin_eq_ok [Engine] {m : Matcher} {template text : List Char} {occurs : Bool}
    (h : m.isWithin template text = .ok occurs) :
    ∃ body, m.compile template = .ok (.ofBody m.settings.folding body) ∧
      occurs = occursIn (.ofBody m.settings.folding body) (m.prepare text) := by
  have hok : (m.compile template).isOk := by
    unfold Matcher.isWithin at h
    cases hcompile : m.compile template with
    | error e =>
      rw [hcompile] at h
      cases h
    | ok p => rfl
  obtain ⟨body, -, -, hcompile⟩ := Matcher.compile_isOk hok
  rw [Matcher.isWithin, hcompile] at h
  exact ⟨body, hcompile, (Except.ok.inj h).symm⟩

/-- A template shows no difference exactly to the texts that its tree derives as a whole. -/
theorem compare_found_eq_false_iff [Engine] (m : Matcher) (template text : List Char)
    (h : (m.compile template).isOk) :
    ∃ body, Body.parse (stripComments template) = .ok body ∧
      parseTree (stripComments template) = .ok body.nodes ∧
      ∃ difference, m.compare template text = .ok difference ∧
        (difference.found = false ↔
          Derives m.settings.folding (m.prepare text) body 0 (m.prepare text).size) := by
  obtain ⟨body, hparse, htree, hcompile⟩ := Matcher.compile_isOk h
  refine ⟨body, hparse, htree,
    m.comparePrepared (.ofBody m.settings.folding body) (m.prepare text), ?_, ?_⟩
  · rw [Matcher.compare, hcompile]
  · rw [Matcher.comparePrepared, compareWith_found, exactOutcome_isMatch]

theorem compare_found_eq_false_iff_single_character :
    let m : Matcher := {}
    let template := "a<<var;name=v;match=.{1,1}>>".toList
    (m.compile template).isOk ∧ ∃ body, Body.parse (stripComments template) = .ok body ∧
      Derives {} (m.prepare "A b".toList) body 0 (m.prepare "A b".toList).size ∧
      ¬ Derives {} (m.prepare "A bc".toList) body 0 (m.prepare "A bc".toList).size := by
  intro m template
  have hok : (m.compile template).isOk := by decide +kernel
  obtain ⟨body, hparse, -, difference, hcompare, hiff⟩ :=
    compare_found_eq_false_iff m template "A b".toList hok
  obtain ⟨body', hparse', -, difference', hcompare', hiff'⟩ :=
    compare_found_eq_false_iff m template "A bc".toList hok
  obtain rfl : body = body' := Except.ok.inj (hparse.symm.trans hparse')
  have hfound : (m.compare template "A b".toList).toOption.any (·.found) = false := by
    decide +kernel
  have hfound' : (m.compare template "A bc".toList).toOption.any (·.found) = true := by
    decide +kernel
  rw [hcompare] at hfound
  rw [hcompare'] at hfound'
  refine ⟨hok, body, hparse, hiff.1 hfound, fun h => ?_⟩
  exact absurd (hiff'.2 h) (ne_true_of_eq_false · hfound')

/-- A template occurs in a text with tokens if its tree derives some run of them. -/
theorem isWithin_eq_true_iff [Engine] (m : Matcher) (template text : List Char)
    (h : (m.compile template).isOk) :
    ∃ body, Body.parse (stripComments template) = .ok body ∧
      parseTree (stripComments template) = .ok body.nodes ∧
      ∃ occurs, m.isWithin template text = .ok occurs ∧
        (occurs = true ↔ 0 < (m.prepare text).size ∧
          ∃ i j, i ≤ j ∧ j ≤ (m.prepare text).size ∧
            Derives m.settings.folding (m.prepare text) body i j) := by
  obtain ⟨body, hparse, htree, hcompile⟩ := Matcher.compile_isOk h
  refine ⟨body, hparse, htree, occursIn (.ofBody m.settings.folding body) (m.prepare text), ?_,
    occursIn_ofBody⟩
  rw [Matcher.isWithin, hcompile]

theorem isWithin_eq_true_iff_single_character :
    let m : Matcher := {}
    let template := "<<var;name=v;match=.{1,1}>>".toList
    (m.compile template).isOk ∧ ∃ body, Body.parse (stripComments template) = .ok body ∧
      (∃ i j, i ≤ j ∧ j ≤ (m.prepare "ab c".toList).size ∧
        Derives {} (m.prepare "ab c".toList) body i j) ∧
      ¬ ∃ i j, i ≤ j ∧ j ≤ (m.prepare "ab".toList).size ∧
        Derives {} (m.prepare "ab".toList) body i j := by
  intro m template
  have hok : (m.compile template).isOk := by decide +kernel
  obtain ⟨body, hparse, -, occurs, hoccurs, hiff⟩ :=
    isWithin_eq_true_iff m template "ab c".toList hok
  obtain ⟨body', hparse', -, occurs', hoccurs', hiff'⟩ :=
    isWithin_eq_true_iff m template "ab".toList hok
  obtain rfl : body = body' := Except.ok.inj (hparse.symm.trans hparse')
  have htrue : (m.isWithin template "ab c".toList).toOption = some true := by decide +kernel
  have hfalse : (m.isWithin template "ab".toList).toOption = some false := by decide +kernel
  have hsize : 0 < (m.prepare "ab".toList).size := by decide +kernel
  rw [hoccurs] at htrue
  rw [hoccurs'] at hfalse
  refine ⟨hok, body, hparse, (hiff.1 (Option.some.inj htrue)).2, fun h => ?_⟩
  have hoccurs : occurs' = true := hiff'.2 ⟨hsize, h⟩
  rw [hoccurs] at hfalse
  cases hfalse

end Licensing.Matching
