import Licensing.Matching.Matcher
import Licensing.Proofs.LossyDecoding

namespace Licensing.Matching

open Licensing.Text Licensing.Template

namespace ReadEvent

def isEnd : ReadEvent → Bool
  | .data bytes => bytes.isEmpty
  | .interrupted => false
  | .failed => true

def bytes : ReadEvent → List UInt8
  | .data bytes => bytes
  | .interrupted => []
  | .failed => []

end ReadEvent

/-- The bytes in front of the first read that is the last one. -/
def bytesBeforeEnd (source : List ReadEvent) : List UInt8 :=
  (source.takeWhile (!·.isEnd)).flatMap (·.bytes)

section

variable {e : ReadEvent}

theorem bytesBeforeEnd_cons_of_isEnd (h : e.isEnd) (rest : List ReadEvent) :
    bytesBeforeEnd (e :: rest) = [] := by
  rw [bytesBeforeEnd, List.takeWhile_cons_of_neg (by simp [h]), List.flatMap_nil]

theorem bytesBeforeEnd_cons_of_not_isEnd (h : ¬ e.isEnd) (rest : List ReadEvent) :
    bytesBeforeEnd (e :: rest) = e.bytes ++ bytesBeforeEnd rest := by
  rw [bytesBeforeEnd, List.takeWhile_cons_of_pos (by simp [h]), List.flatMap_cons]
  rfl

theorem readToEnd_cons_of_isEnd (h : e.isEnd) (buffer : List UInt8) (rest : List ReadEvent) :
    readToEnd buffer (e :: rest) = ⟨buffer, e = .failed⟩ := by
  cases e with
  | data bytes => exact if_pos h
  | interrupted => cases h
  | failed => rfl

theorem readToEnd_cons_of_not_isEnd (h : ¬ e.isEnd) (buffer : List UInt8)
    (rest : List ReadEvent) :
    readToEnd buffer (e :: rest) = readToEnd (buffer ++ e.bytes) rest := by
  cases e with
  | data bytes => exact if_neg h
  | interrupted => rw [ReadEvent.bytes, List.append_nil, readToEnd]
  | failed => exact absurd rfl h

theorem readToEnd_eq (buffer : List UInt8) (source : List ReadEvent) :
    readToEnd buffer source =
      ⟨buffer ++ bytesBeforeEnd source, source.find? (·.isEnd) = some .failed⟩ := by
  induction source generalizing buffer with
  | nil => simp [readToEnd, bytesBeforeEnd]
  | cons e rest ih =>
    by_cases h : e.isEnd
    · rw [readToEnd_cons_of_isEnd h, bytesBeforeEnd_cons_of_isEnd h, List.append_nil,
        List.find?_cons_of_pos h]
      simp
    · rw [readToEnd_cons_of_not_isEnd h, bytesBeforeEnd_cons_of_not_isEnd h, ih,
        List.append_assoc, List.find?_cons_of_neg h]

theorem readLossy_eq (source : List ReadEvent) :
    readLossy source = decodeLossy (bytesBeforeEnd source) := by
  rw [readLossy, readToEnd_eq, List.nil_append]

end

namespace Matcher

theorem compareRead_eq [Engine] (m : Matcher) (template : List Char) (source : List ReadEvent) :
    m.compareRead template source = m.compare template (readLossy source) :=
  rfl

theorem compare_eq_error_iff [Engine] {m : Matcher} {template text : List Char} {e : MatchError} :
    m.compare template text = .error e ↔
      ∃ e', m.compile template = .error e' ∧ e = .template e' := by
  unfold compare
  cases m.compile template with
  | ok p => simp
  | error e' => simp [eq_comm]

/-- Only the bytes in front of the end of a source matter to a comparison. -/
theorem compareRead_of_bytesBeforeEnd [Engine] (m : Matcher) (template : List Char)
    (source : List ReadEvent) :
    m.compareRead template source = m.compare template (decodeLossy (bytesBeforeEnd source)) ∧
      (∃ parts, Decodes (bytesBeforeEnd source) parts ∧
        decodeLossy (bytesBeforeEnd source) = parts.map (·.getD '\uFFFD')) ∧
      (∀ text, bytesBeforeEnd source = text.flatMap String.utf8EncodeChar →
        m.compareRead template source = m.compare template text) ∧
      (∀ source', bytesBeforeEnd source' = bytesBeforeEnd source →
        m.compareRead template source' = m.compareRead template source) ∧
      ∀ e, m.compareRead template source = .error e ↔
        ∃ e', m.compile template = .error e' ∧ e = .template e' := by
  have hread (source : List ReadEvent) :
      m.compareRead template source = m.compare template (decodeLossy (bytesBeforeEnd source)) := by
    rw [compareRead_eq, readLossy_eq]
  refine ⟨hread source, ⟨_, decodes_iff.2 rfl, rfl⟩, fun text htext => ?_, fun source' hbytes => ?_,
    fun e => ?_⟩
  · rw [hread, htext, decodeLossy_flatMap_utf8EncodeChar]
  · rw [hread, hread, hbytes]
  · exact compare_eq_error_iff

theorem compareRead_of_bytesBeforeEnd_cut_letter :
    let m : Matcher := {}
    let template := "<<var;name=v;match=.+>>é".toList
    let source : List ReadEvent :=
      [.data [0x61, 0xC3], .interrupted, .data [0xA9], .failed, .data [0x62]]
    let source' : List ReadEvent := [.data [0x61], .data [0xC3, 0xA9], .data []]
    bytesBeforeEnd source = "aé".toList.flatMap String.utf8EncodeChar ∧
      m.compareRead template source = m.compare template "aé".toList ∧
      bytesBeforeEnd source' = bytesBeforeEnd source ∧
      m.compareRead template source' = m.compareRead template source := by
  intro m template source source'
  have hbytes : bytesBeforeEnd source = "aé".toList.flatMap String.utf8EncodeChar := by
    decide +kernel
  have hbytes' : bytesBeforeEnd source' = bytesBeforeEnd source := by decide +kernel
  obtain ⟨-, -, htext, hsource, -⟩ := compareRead_of_bytesBeforeEnd m template source
  exact ⟨hbytes, htext _ hbytes, hbytes', hsource _ hbytes'⟩

end Matcher

end Licensing.Matching
