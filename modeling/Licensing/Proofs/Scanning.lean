import Licensing.Comparer
import Licensing.Proofs.Blank
import Licensing.Proofs.Interpretation

namespace Licensing

open Text Template Matching

namespace Catalog

variable {m : Matcher} {scan : ScanSettings} {mode : Mode} {targets : Option (List String)}
  {d : Document} {p : Program} {e : Entry}

theorem scanEntries_eq [Engine] (entries : List Entry) :
    scanEntries m scan mode targets d entries =
      ((entries.filter fun e => selects scan targets e && (check m mode d e).1).map (·.id),
        entries.map fun e => if selects scan targets e then (check m mode d e).2 else e) := by
  induction entries with
  | nil => rfl
  | cons e rest ih =>
    rw [scanEntries, ih]
    have hid : (check m mode d e).2.id = e.id := by rw [check_snd, Entry.compiled_snd]
    by_cases hselects : selects scan targets e
    · cases hfound : (check m mode d e).1 <;> simp [hselects, hfound, hid]
    · simp [hselects]

/-- Entries that are shared out among workers are found as if one had checked them in order. -/
theorem scanParts_eq_scanEntries [Engine] (division : Division) (entries : List Entry) :
    scanParts m scan mode targets d division entries =
      scanEntries m scan mode targets d entries := by
  induction division generalizing entries with
  | whole => rfl
  | cut size first second ihFirst ihSecond =>
    rw [scanParts, ihFirst, ihSecond]
    simp only [scanEntries_eq, ← List.map_append, ← List.filter_append, List.take_append_drop]

theorem scan_fst [Engine] (c : Catalog) (kind : Kind) (text : List Char) :
    (c.scan m scan kind mode targets text).1 =
      ((c.entries kind).filter fun e =>
        selects scan targets e && (check m mode (m.prepare text) e).1).map (·.id) := by
  rw [Catalog.scan, scanParts_eq_scanEntries, scanEntries_eq]

theorem entries_withEntries (c : Catalog) (kind : Kind) (entries : List Entry) :
    (c.withEntries kind entries).entries kind = entries := by
  cases kind <;> rfl

theorem steps_of_leadingToken? {token : String} (h : p.leadingToken? p.entry = some token) :
    ∃ tokens next depth steps, p.steps = ⟨.text (token :: tokens), next, depth⟩ :: steps := by
  obtain ⟨id, hentry, hid⟩ := Option.bind_eq_some_iff.1 h
  obtain ⟨tokens, htokens, hhead⟩ := Option.bind_eq_some_iff.1 hid
  obtain ⟨next, depth, hstep⟩ := textAt?_eq_some htokens
  obtain ⟨rest, rfl⟩ := List.head?_eq_some_iff.1 hhead
  cases hsteps : p.steps with
  | nil => simp [hsteps] at hstep
  | cons step steps =>
    have hfirst : p.entry = some 0 := by simp [Program.entry, firstStep, hsteps]
    obtain rfl : 0 = id := Option.some.inj (hfirst.symm.trans hentry)
    obtain rfl : step = _ := by simpa [hsteps] using hstep
    exact ⟨rest, next, depth, steps, rfl⟩

theorem found_of_startsOtherwise [Engine] (h : startsOtherwise p d) :
    (m.comparePrepared p d).found = true := by
  unfold startsOtherwise at h
  split at h
  · rename_i token first hlead hfirst
    have hne : first ≠ token := of_decide_eq_true h
    obtain ⟨tokens, next, depth, steps, hsteps⟩ := steps_of_leadingToken? hlead
    have hfailed : exactOutcome p d = .failed (some (.mismatch 0 0 0)) := by
      rw [exactOutcome, entryOutcome, Program.entry, rows, hsteps]
      change outcomeAt (rowsFrom p d .exact 0 (_ :: steps)) 0 0 = _
      rw [outcomeAt_rowsFrom_zero (Nat.zero_le _)]
      simp [stepOutcome, matchTokens, hfirst, hne]
    rw [Matcher.comparePrepared, compareWith, hfailed]
    exact describe_found p _ _
  · cases h

theorem check_error [Engine] {err : TemplateError} (h : (e.compiled m).1 = .error err) :
    (check m mode d e).1 = false := by
  rw [check]
  split
  · rfl
  · rename_i hcompiled
    rw [hcompiled] at h
    cases h

theorem check_exact [Engine] (h : (e.compiled m).1 = .ok p) :
    (check m .exact d e).1 = !(m.comparePrepared p d).found := by
  rw [check]
  split
  · rename_i hcompiled
    rw [hcompiled] at h
    cases h
  · rename_i hcompiled
    rw [hcompiled] at h
    cases h
    cases hstarts : startsOtherwise p d with
    | false => rfl
    | true => rw [found_of_startsOtherwise hstarts]; rfl

theorem check_contains [Engine] (h : (e.compiled m).1 = .ok p) :
    (check m .contains d e).1 = occursIn p d := by
  rw [check]
  split
  · rename_i hcompiled
    rw [hcompiled] at h
    cases h
  · rename_i hcompiled
    rw [hcompiled] at h
    cases h
    rfl

end Catalog

namespace Comparer

variable [Engine] {c : Comparer} {e : Catalog.Entry} {text : List Char}

open Catalog

theorem check_exact_eq_compareEntry :
    (check c.matcher .exact (c.matcher.prepare text) e).1 =
      (c.compareEntry e text).1.toOption.any (!·.found) := by
  cases hcompiled : e.compiled c.matcher with
  | mk result e' =>
    rw [compareEntry, hcompiled]
    cases result with
    | error err => exact check_error (congrArg Prod.fst hcompiled)
    | ok p => exact check_exact (congrArg Prod.fst hcompiled)

theorem occursIn_of_isBlank {p : Program} (h : isBlank text) :
    occursIn p (c.matcher.prepare text) = false := by
  have hsize : (c.matcher.prepare text).size = 0 := Document.size_ofText_of_isBlank h
  simp [occursIn, hsize]

/-- An entry is found in a text by a scan if it is by itself, also in a blank text. -/
theorem check_contains_eq_entryWithin :
    (check c.matcher .contains (c.matcher.prepare text) e).1 = (c.entryWithin e text).1 := by
  cases hcompiled : e.compiled c.matcher with
  | mk result e' =>
    rw [entryWithin, hcompiled]
    cases result with
    | error err =>
      rw [check_error (congrArg Prod.fst hcompiled)]
      split <;> rfl
    | ok p =>
      rw [check_contains (congrArg Prod.fst hcompiled)]
      split
      · rename_i hblank
        exact occursIn_of_isBlank hblank
      · rfl

end Comparer

namespace Catalog

open Comparer

def wellFormed [Engine] (c : Catalog) (m : Matcher) (kind : Kind) : Catalog :=
  c.withEntries kind ((c.entries kind).filter fun e => (e.compiled m).1.isOk)

theorem scan_wellFormed [Engine] (c : Catalog) (m : Matcher) (scan : ScanSettings) (kind : Kind)
    (mode : Mode) (targets : Option (List String)) (text : List Char) :
    ((c.wellFormed m kind).scan m scan kind mode targets text).1 =
      (c.scan m scan kind mode targets text).1 := by
  rw [scan_fst, scan_fst, wellFormed, entries_withEntries, List.filter_filter]
  congr 1
  apply List.filter_congr
  intro e he
  cases hcompiled : (e.compiled m).1 with
  | error err => simp [check_error hcompiled]
  | ok p => simp [Except.isOk, Except.toBool]

/-- Scans list the entries let in for which the single checks hold, in order. -/
theorem scans_eq_filter [Engine] (c : Catalog) (comparer : Comparer) (kind : Kind)
    (text : List Char) (targets : Option (List String)) :
    let m := comparer.matcher
    let letIn (e : Entry) : Bool := comparer.scan.includeDeprecated || !e.deprecated
    ((c.matchingIds m comparer.scan kind text).1 =
        ((c.entries kind).filter fun e =>
          letIn e && (comparer.compareEntry e text).1.toOption.any (!·.found)).map (·.id) ∧
      (c.idsWithin m comparer.scan kind text targets).1 =
        ((c.entries kind).filter fun e =>
          letIn e && targets.all (fun ids => ids.any (Entry.sameId e.id ·)) &&
            (comparer.entryWithin e text).1).map (·.id)) ∧
    (((c.wellFormed m kind).matchingIds m comparer.scan kind text).1 =
        (c.matchingIds m comparer.scan kind text).1 ∧
      ((c.wellFormed m kind).idsWithin m comparer.scan kind text targets).1 =
        (c.idsWithin m comparer.scan kind text targets).1) ∧
    ∀ (mode : Mode) (division : Division),
      scanParts m comparer.scan mode targets (m.prepare text) division (c.entries kind) =
        scanEntries m comparer.scan mode targets (m.prepare text) (c.entries kind) := by
  intro m letIn
  refine ⟨⟨?_, ?_⟩, ⟨scan_wellFormed .., scan_wellFormed ..⟩, fun mode division =>
    scanParts_eq_scanEntries division _⟩
  · rw [matchingIds, scan_fst]
    congr 1
    apply List.filter_congr
    intro e he
    rw [check_exact_eq_compareEntry, selects, Option.all_none, Bool.and_true]
  · rw [idsWithin, scan_fst]
    congr 1
    apply List.filter_congr
    intro e he
    rw [check_contains_eq_entryWithin, selects]

end Catalog

end Licensing
