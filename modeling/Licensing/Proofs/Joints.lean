import Licensing.Proofs.Ascii
import Mathlib.Data.List.Chain

namespace Licensing.Text

open Licensing.Unicode

section

variable {u v w : List Char} {c : Char} {parts later : List (List Char)}

theorem apart_of_getLast? (h : ∀ c ∈ u.getLast?, isWhitespace c) : Apart u v := by
  unfold Apart
  cases hlast : u.getLast? with
  | none => rfl
  | some c =>
    have hc : isWhitespace c := h c hlast
    cases v.head? <;> simp [hc]

theorem apart_of_head? (h : ∀ c ∈ v.head?, isWhitespace c) : Apart u v := by
  unfold Apart
  cases hfirst : v.head? with
  | none => cases u.getLast? <;> rfl
  | some c =>
    have hc : isWhitespace c := h c hfirst
    cases u.getLast? <;> simp [hc]

theorem apart_nil_right (u : List Char) : Apart u [] :=
  apart_of_head? (by simp)

theorem apart_cons_right (hc : isWhitespace c) : Apart u (c :: v) :=
  apart_of_head? (by simpa using hc)

theorem apart_append_right (hv : v ≠ []) : Apart u (v ++ w) ↔ Apart u v := by
  rw [Apart, Apart, List.head?_append_of_ne_nil _ hv]

theorem apart_append_left (hv : v ≠ []) : Apart (u ++ v) w ↔ Apart v w := by
  rw [Apart, Apart, List.getLast?_append_of_ne_nil _ hv]

theorem apart_flatten_right (h : (u :: later.filter (!·.isEmpty)).IsChain Apart) :
    Apart u later.flatten := by
  induction later with
  | nil => exact apart_nil_right u
  | cons v later ih =>
    cases v with
    | nil => exact ih h
    | cons c cs =>
      rw [List.flatten_cons, apart_append_right (List.cons_ne_nil c cs)]
      exact (List.isChain_cons_cons.1 h).1

theorem apart_flatten (h : ((parts ++ later).filter (!·.isEmpty)).IsChain Apart) :
    Apart parts.flatten later.flatten := by
  induction parts with
  | nil => rfl
  | cons u parts ih =>
    cases u with
    | nil => exact ih h
    | cons c cs =>
      have hchain : ((c :: cs) :: (parts ++ later).filter (!·.isEmpty)).IsChain Apart := h
      rw [List.flatten_cons]
      by_cases hempty : parts.flatten = []
      · have hfilter : parts.filter (!·.isEmpty) = [] := by
          rw [List.filter_eq_nil_iff]
          intro part hpart
          simp [List.flatten_eq_nil_iff.1 hempty part hpart]
        rw [List.filter_append, hfilter, List.nil_append] at hchain
        rw [hempty, List.append_nil]
        exact apart_flatten_right hchain
      · rw [apart_append_left hempty]
        exact ih hchain.tail

end

/-- The tokens that take part in a comparison, from all tokens. -/
def keptTokens (f : Folding) (tokens : List Token) : List Token :=
  let kept := tokens.filter (!isSkippable ·.text)
  if f.words then kept.flatMap Token.canonical else kept

def canonicalTexts (word : String) : List String :=
  match splitCompound? (canonicalSpelling word) with
  | some (first, second) => [first, second]
  | none => [canonicalSpelling word]

section

variable {f : Folding} {t t' : Token} {tokens tokens' : List Token}

theorem tokenize_eq (f : Folding) (s : List Char) : tokenize f s = keptTokens f (rawTokens f s) :=
  rfl

theorem keptTokens_append (f : Folding) (tokens tokens' : List Token) :
    keptTokens f (tokens ++ tokens') = keptTokens f tokens ++ keptTokens f tokens' := by
  unfold keptTokens
  split <;> simp

theorem map_text_canonical (t : Token) : t.canonical.map (·.text) = canonicalTexts t.text := by
  cases hsplit : splitCompound? (canonicalSpelling t.text) with
  | none => simp [Token.canonical, canonicalTexts, hsplit]
  | some halves =>
    simp only [Token.canonical, canonicalTexts, Token.split, hsplit]
    split <;> rfl

theorem map_text_keptTokens (h : tokens.map (·.text) = tokens'.map (·.text)) :
    (keptTokens f tokens).map (·.text) = (keptTokens f tokens').map (·.text) := by
  have hfilter : (tokens.filter (!isSkippable ·.text)).map (·.text) =
      (tokens'.filter (!isSkippable ·.text)).map (·.text) := by
    have hmap (tokens : List Token) : (tokens.filter (!isSkippable ·.text)).map (·.text) =
        (tokens.map (·.text)).filter (!isSkippable ·) := by
      rw [List.filter_map]
      rfl
    rw [hmap, hmap, h]
  have hcanonical (tokens : List Token) : (tokens.flatMap Token.canonical).map (·.text) =
      (tokens.map (·.text)).flatMap canonicalTexts := by
    rw [List.map_flatMap, List.flatMap_map]
    exact congrArg (tokens.flatMap ·) (funext map_text_canonical)
  unfold keptTokens
  split
  · rw [hcanonical, hcanonical, hfilter]
  · exact hfilter

theorem splitCompound?_size {word first second : String}
    (h : splitCompound? word = some (first, second)) :
    0 < first.utf8ByteSize ∧ first.utf8ByteSize < word.utf8ByteSize := by
  have hall : ∀ entry ∈ compounds, 0 < entry.2.1.utf8ByteSize ∧
      entry.2.1.utf8ByteSize < entry.1.utf8ByteSize := by decide +kernel
  obtain ⟨before, after, hmem, -⟩ := List.lookup_eq_some_iff.1 h
  exact hall (word, first, second) (by rw [hmem]; simp)

theorem place_of_mem_canonical (h : t' ∈ t.canonical) :
    (t'.start = t.start ∧ t'.stop = t.stop) ∨
      (t.start ≤ t'.start ∧ t'.start < t'.stop ∧ t'.stop ≤ t.stop) := by
  cases hsplit : splitCompound? (canonicalSpelling t.text) with
  | none =>
    simp only [Token.canonical, hsplit, List.mem_singleton] at h
    subst h
    exact .inl ⟨rfl, rfl⟩
  | some halves =>
    have hsize := splitCompound?_size hsplit
    simp only [Token.canonical, Token.split, hsplit] at h
    split at h
    · rename_i hplace
      simp only [List.mem_cons, List.not_mem_nil, or_false] at h
      rcases h with rfl | rfl <;> dsimp only <;> omega
    · simp only [List.mem_cons, List.not_mem_nil, or_false] at h
      rcases h with rfl | rfl <;> exact .inl ⟨rfl, rfl⟩

theorem mem_canonical (hne : t.start < t.stop) (h : t' ∈ t.canonical) :
    t.start ≤ t'.start ∧ t'.start < t'.stop ∧ t'.stop ≤ t.stop := by
  have hplace := place_of_mem_canonical h
  omega

theorem mem_keptTokens (hne : ∀ t ∈ tokens, t.start < t.stop) (h : t' ∈ keptTokens f tokens) :
    ∃ t ∈ tokens, t.start ≤ t'.start ∧ t'.start < t'.stop ∧ t'.stop ≤ t.stop := by
  unfold keptTokens at h
  split at h
  · obtain ⟨t, ht, hcanonical⟩ := List.mem_flatMap.1 h
    have hmem := (List.mem_filter.1 ht).1
    exact ⟨t, hmem, mem_canonical (hne t hmem) hcanonical⟩
  · have hmem := (List.mem_filter.1 h).1
    exact ⟨t', hmem, Nat.le_refl _, hne t' hmem, Nat.le_refl _⟩

end

section

variable {f : Folding} {u v w : List Char}

/-- The tokens of a text in two parts are those of the first, then those of the second, moved. -/
theorem tokenize_append (hu : ∀ c ∈ u, isAscii c) (hv : ∀ c ∈ v, isAscii c) (h : Apart u v) :
    ∃ first second, tokenize f (u ++ v) = first ++ second ∧
      first.map (·.text) = (tokenize f u).map (·.text) ∧
      second.map (·.text) = (tokenize f v).map (·.text) ∧
      (∀ t ∈ first, t.stop ≤ u.length) ∧ ∀ t ∈ second, u.length < t.stop := by
  have huv : ∀ c ∈ u ++ v, isAscii c := fun c hc => (List.mem_append.1 hc).elim (hu c) (hv c)
  have hraw := rawTokens_of_isAscii f huv
  rw [stretches_append h, Nat.zero_add] at hraw
  obtain ⟨first, second, hsplit, hfirst, hsecond⟩ := List.map_eq_append_iff.1 hraw
  have hfirstTexts : first.map (·.text) = (rawTokens f u).map (·.text) := by
    rw [← map_text_stretch, hfirst, ← rawTokens_of_isAscii f hu, map_text_stretch]
  have hsecondTexts : second.map (·.text) = (rawTokens f v).map (·.text) := by
    rw [← map_text_stretch, hsecond, stretches_text u.length 0, ← rawTokens_of_isAscii f hv,
      map_text_stretch]
  have hfirstBounds : ∀ t ∈ first, t.start < t.stop ∧ t.stop ≤ u.length := by
    intro t ht
    have hmem : t.stretch ∈ stretches [] 0 u := hfirst ▸ List.mem_map_of_mem ht
    have hbounds := stretches_bounds (Nat.zero_le _) hmem
    rw [Nat.zero_add] at hbounds
    exact hbounds.2
  have hsecondBounds : ∀ t ∈ second, t.start < t.stop ∧ u.length ≤ t.start := by
    intro t ht
    have hmem : t.stretch ∈ stretches [] u.length v := hsecond ▸ List.mem_map_of_mem ht
    have hbounds := stretches_bounds (Nat.zero_le _) hmem
    exact ⟨hbounds.2.1, hbounds.1⟩
  refine ⟨keptTokens f first, keptTokens f second, ?_, map_text_keptTokens hfirstTexts,
    map_text_keptTokens hsecondTexts, ?_, ?_⟩
  · rw [tokenize_eq, hsplit, keptTokens_append]
  · intro t ht
    obtain ⟨t', ht', hbounds⟩ := mem_keptTokens (fun t ht => (hfirstBounds t ht).1) ht
    have hraw := hfirstBounds t' ht'
    omega
  · intro t ht
    obtain ⟨t', ht', hbounds⟩ := mem_keptTokens (fun t ht => (hsecondBounds t ht).1) ht
    have hraw := hsecondBounds t' ht'
    omega

theorem map_text_tokenize_append (hu : ∀ c ∈ u, isAscii c) (hv : ∀ c ∈ v, isAscii c)
    (h : Apart u v) : (tokenize f (u ++ v)).map (·.text) =
      (tokenize f u).map (·.text) ++ (tokenize f v).map (·.text) := by
  obtain ⟨first, second, hsplit, hfirst, hsecond, -, -⟩ := tokenize_append (f := f) hu hv h
  rw [hsplit, List.map_append, hfirst, hsecond]

end

namespace Document

def tokensUpTo (d : Document) (offset : Nat) : Nat :=
  d.tokens.toList.countP (·.stop ≤ offset)

section

variable {f : Folding} {u v w : List Char}

theorem tokensUpTo_append (hu : ∀ c ∈ u, isAscii c) (hv : ∀ c ∈ v, isAscii c) (h : Apart u v)
    (hstrip : stripComments (u ++ v) = u ++ v) :
    (ofText f (u ++ v)).tokensUpTo (byteLength u) = (tokenize f u).length := by
  obtain ⟨first, second, hsplit, htexts, -, hfirst, hsecond⟩ := tokenize_append (f := f) hu hv h
  have hlength : first.length = (tokenize f u).length := by
    simpa using congrArg List.length htexts
  have hall : first.countP (·.stop ≤ u.length) = first.length :=
    List.countP_eq_length.2 fun t ht => decide_eq_true (hfirst t ht)
  have hnone : second.countP (·.stop ≤ u.length) = 0 :=
    List.countP_eq_zero.2 fun t ht => by simpa using hsecond t ht
  rw [tokensUpTo, ofText, hstrip, toList_tokens_ofSource, hsplit, byteLength_of_isAscii hu,
    List.countP_append, hall, hnone, Nat.add_zero, hlength]

end

end Document

end Licensing.Text
