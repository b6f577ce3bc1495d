import Licensing.Proofs.Kept
import Licensing.Proofs.Regions
import Licensing.Proofs.RoundTrip

namespace Licensing.Template

open Licensing.Text

def Body.ofPlain (content : List Char) : Body :=
  if content.isEmpty then .done else .text content .done

theorem Body.parse_of_hasNoRule [Engine] {content : List Char} (h : HasNoRule content) :
    Body.parse content = .ok (.ofPlain content) := by
  have hbefore : beforeRule content = (content, []) := by
    rw [← AtRule.nil.beforeRule_append h, List.append_nil]
  rw [Body.parse, read, pieces, piecesFrom_end hbefore, textPiece, Body.ofPlain]
  by_cases hempty : content.isEmpty
  · rw [if_pos hempty, if_pos hempty]
    rfl
  · rw [if_neg hempty, if_neg hempty]
    rfl

end Licensing.Template

namespace Licensing.Matching

open Licensing.Text Licensing.Template

section

variable [Engine] {f : Folding} {d : Document} {content : List Char}

theorem derives_ofPlain :
    Derives f d (.ofPlain content) 0 d.size ↔ d.texts = textTokens f content := by
  have hall (texts : List String) : Spells d 0 d.size texts ↔ d.texts = texts := by
    rw [spells_zero_iff, ← d.length_texts, List.take_length, and_iff_right (Nat.le_refl _)]
  rw [← hall, Body.ofPlain]
  by_cases hempty : content.isEmpty
  · rw [if_pos hempty, derives_done, List.isEmpty_iff.1 hempty, textTokens_of_isBlank rfl,
      spells_nil]
  · rw [if_neg hempty, derives_text]
    simp only [derives_done, exists_eq_right']

end

theorem Matcher.compare_plain [Engine] (m : Matcher) {plain : List Char}
    (h : HasNoRule (stripComments plain)) (text : List Char) :
    ∃ p, m.compile plain = .ok p ∧
      ((m.comparePrepared p (m.prepare text)).found = false ↔
        (m.prepare text).texts = (m.prepare plain).texts) := by
  refine ⟨_, Matcher.compile_of_parse (Body.parse_of_hasNoRule h), ?_⟩
  rw [Matcher.comparePrepared, compareWith_found, exactOutcome_isMatch]
  exact derives_ofPlain

end Licensing.Matching

namespace Licensing.Catalog

open Licensing.Text Licensing.Template Licensing.Matching

section

variable {c : Catalog} {e : Entry} {kind : Kind} {m : Matcher} {scan : ScanSettings}

theorem Entry.source_of_isBlank (h : e.template.all (isBlank ·)) : e.source = e.text := by
  rw [Entry.source]
  cases htemplate : e.template with
  | none => rfl
  | some template =>
    rw [htemplate] at h
    exact if_pos h

theorem Faithful.mem_matchingIds [Engine] {p : Program} {text : List Char} (hc : c.Faithful)
    (he : e ∈ c.entries kind) (hselects : selects scan none e)
    (hcompile : m.compile e.source = .ok p)
    (hfound : (m.comparePrepared p (m.prepare text)).found = false) :
    e.id ∈ (c.matchingIds m scan kind text).1 := by
  have hcompiled : (e.compiled m).1 = .ok p := (hc kind e he).compiled_fst.trans hcompile
  have hcheck : (check m .exact (m.prepare text) e).1 = true := by
    rw [check_exact hcompiled, hfound, Bool.not_false]
  rw [matchingIds, scan_fst]
  exact List.mem_map_of_mem (List.mem_filter.2 ⟨he, by rw [hselects, hcheck, Bool.and_self]⟩)

end

/-- A plain text is found in itself by every scan that lets it in, whatever was done before. -/
theorem plain_texts_found [Engine] (m : Matcher) :
    (∀ (requests : List Request), ∀ c ∈ (Session.run {} requests).2.catalogs,
      ∀ (scan : ScanSettings) (kind : Kind), ∀ e ∈ c.entries kind,
        scan.includeDeprecated || !e.deprecated → e.template.all (isBlank ·) →
        HasNoRule (stripComments e.text) → e.id ∈ (c.matchingIds m scan kind e.text).1) ∧
    ∀ plain text : List Char, HasNoRule (stripComments plain) →
      ∃ difference, m.compare plain text = .ok difference ∧
        (difference.found = false ↔ (m.prepare plain).texts = (m.prepare text).texts) := by
  constructor
  · intro requests c hc scan kind e he hletIn htemplate hrules
    have hfaithful : c.Faithful := (Session.faithful_empty.run requests).1.catalogs c hc
    obtain ⟨p, hcompile, hfound⟩ := m.compare_plain hrules e.text
    rw [← Entry.source_of_isBlank htemplate] at hcompile
    refine hfaithful.mem_matchingIds he ?_ hcompile (hfound.2 rfl)
    rw [selects, Option.all_none, Bool.and_true]
    exact hletIn
  · intro plain text hrules
    obtain ⟨p, hcompile, hfound⟩ := m.compare_plain hrules text
    refine ⟨m.comparePrepared p (m.prepare text), ?_, hfound.trans eq_comm⟩
    rw [Matcher.compare, hcompile]

theorem plain_texts_found_blank_template :
    let text := "// Use <<it>>\n// at will.".toList
    let other : Matcher := { settings := { folding := { words := false } } }
    let requests : List Request := [.create "Free" text (some " \n".toList) true, .createCatalog,
      .add 0 .license 0, .compile other (.listed 0 .license 0)]
    (∃ c ∈ (Session.run {} requests).2.catalogs,
      "Free" ∈ (c.matchingIds {} {} .license text).1) ∧
    ∃ difference, Matcher.compare {} text "Use << it >> AT WILL .".toList = .ok difference ∧
      difference.found = false := by
  intro text other requests
  have hrules : HasNoRule (stripComments text) := by decide +kernel
  obtain ⟨hscan, hcompare⟩ := plain_texts_found {}
  constructor
  · let e : Entry := { id := "Free", text, template := some " \n".toList, deprecated := true }
    let c : Catalog := { licenses := [(e.compiled other).2] }
    have hc : c ∈ (Session.run {} requests).2.catalogs := List.mem_singleton_self c
    have he : (e.compiled other).2 ∈ c.entries .license := List.mem_singleton_self _
    have htext : (e.compiled other).2.text = text := by rw [Entry.compiled_snd]
    refine ⟨c, hc, ?_⟩
    have hfound := hscan requests c hc {} .license _ he rfl (by rw [Entry.compiled_snd]; rfl)
      (by rwa [htext])
    rw [htext] at hfound
    rwa [Entry.compiled_snd] at hfound
  · obtain ⟨difference, hdifference, hfound⟩ := hcompare text "Use << it >> AT WILL .".toList hrules
    exact ⟨difference, hdifference, hfound.2 (by decide +kernel)⟩

end Licensing.Catalog
