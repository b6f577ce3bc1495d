import Licensing.Proofs.Commented

namespace Licensing.Text

def Stretch.moved (n : Nat) (s : Stretch) : Stretch :=
  ⟨s.text, s.start + n, s.stop + n⟩

section

variable {u word : List Char} {start n : Nat}

theorem wordStretch_add (h : word.length ≤ start) :
    wordStretch word (start + n) = (wordStretch word start).map (·.moved n) := by
  unfold wordStretch
  split
  · rfl
  · rw [List.map_singleton, Stretch.moved, Nat.sub_add_comm h]

theorem stretches_add (h : word.length ≤ start) :
    stretches word (start + n) u = (stretches word start u).map (·.moved n) := by
  induction u generalizing word start with
  | nil => exact wordStretch_add h
  | cons c cs ih =>
    have hnext : start + n + 1 = start + 1 + n := Nat.add_right_comm start n 1
    simp only [stretches, hnext]
    split
    · rw [wordStretch_add h, ih (Nat.zero_le _), List.map_append]
    · split
      · rw [wordStretch_add h, ih (Nat.zero_le _), List.map_append, List.map_cons, Stretch.moved,
          Nat.add_right_comm start 1]
      · exact ih (Nat.succ_le_succ h)

end

def Token.Level (t : Token) : Prop :=
  t.position.length = t.stop - t.start

section

variable {f : Folding} {u : List Char} {n : Nat} {t : Token} {tokens tokens' : List Token}

theorem level_of_mem_rawTokens (hu : ∀ c ∈ u, isAscii c) (ht : t ∈ rawTokens f u) : t.Level := by
  obtain ⟨before, source, behind, rfl, hplace⟩ := liesIn_of_mem_rawTokens ht
  have hsource : ∀ c ∈ source, isAscii c := by
    intro c hc
    apply hu
    simp [hc]
  rw [Token.Level, hplace.length_eq, hplace.start_eq, hplace.stop_eq, Nat.add_sub_cancel_left,
    byteLength_of_isAscii hsource]

theorem moved_of_map_stretch (ht : ∀ t ∈ tokens, t.Level) (ht' : ∀ t ∈ tokens', t.Level)
    (h : tokens'.map Token.stretch = (tokens.map Token.stretch).map (·.moved n)) :
    Moved n tokens tokens' := by
  induction tokens generalizing tokens' with
  | nil =>
    obtain rfl := List.map_eq_nil_iff.1 h
    exact .nil
  | cons t rest ih =>
    cases tokens' with
    | nil => cases h
    | cons t' rest' =>
      obtain ⟨hlevel, hrest⟩ := List.forall_mem_cons.1 ht
      obtain ⟨hlevel', hrest'⟩ := List.forall_mem_cons.1 ht'
      obtain ⟨hfirst, hlater⟩ := List.cons.inj h
      have htext : t'.text = t.text := congrArg Stretch.text hfirst
      have hstart : t'.start = t.start + n := congrArg Stretch.start hfirst
      have hstop : t'.stop = t.stop + n := congrArg Stretch.stop hfirst
      refine .cons ⟨htext, ?_, hstart, hstop⟩ (ih hrest hrest' hlater)
      rw [hlevel, hlevel', hstart, hstop, Nat.add_sub_add_right]

theorem tokenize_append_moved {v : List Char} (hu : ∀ c ∈ u, isAscii c) (hv : ∀ c ∈ v, isAscii c)
    (h : Apart u v) :
    ∃ first later, tokenize f (u ++ v) = first ++ later ∧ Moved 0 (tokenize f u) first ∧
      Moved (byteLength u) (tokenize f v) later := by
  have huv : ∀ c ∈ u ++ v, isAscii c := List.forall_mem_append.2 ⟨hu, hv⟩
  have hraw := rawTokens_of_isAscii f huv
  rw [stretches_append h, stretches_add (Nat.zero_le _), ← rawTokens_of_isAscii f hu,
    ← rawTokens_of_isAscii f hv] at hraw
  obtain ⟨first, later, hsplit, hfirst, hlater⟩ := List.map_eq_append_iff.1 hraw
  have hlevel : ∀ t ∈ first ++ later, t.Level := fun t ht =>
    level_of_mem_rawTokens huv (hsplit ▸ ht)
  obtain ⟨hlevelFirst, hlevelLater⟩ := List.forall_mem_append.1 hlevel
  refine ⟨keptTokens f first, keptTokens f later, ?_, Moved.keptTokens ?_, Moved.keptTokens ?_⟩
  · rw [tokenize_eq, hsplit, keptTokens_append]
  · refine moved_of_map_stretch (fun t => level_of_mem_rawTokens hu) hlevelFirst ?_
    rw [hfirst]
    exact (List.map_id _).symm
  · rw [byteLength_of_isAscii hu]
    exact moved_of_map_stretch (fun t => level_of_mem_rawTokens hv) hlevelLater hlater

end

section

variable {s u v w word : List Char} {c : Char}

def IsWord (w : List Char) : Prop :=
  w ≠ [] ∧ ∀ c ∈ w, isWhitespace c = false

theorem wordsFrom_of_not_isWhitespace (h : ∀ c ∈ s, isWhitespace c = false) :
    wordsFrom word s = wordsFrom (s.reverse ++ word) [] := by
  induction s generalizing word with
  | nil => rfl
  | cons c cs ih =>
    obtain ⟨hc, hcs⟩ := List.forall_mem_cons.1 h
    have hstep : wordsFrom word (c :: cs) = wordsFrom (c :: word) cs := by simp [wordsFrom, hc]
    rw [hstep, ih hcs, List.reverse_cons, List.append_assoc, List.singleton_append]

theorem IsWord.words_eq (h : IsWord w) : words w = [w] := by
  rw [words, wordsFrom_of_not_isWhitespace h.2]
  simp [wordsFrom, h.1]

theorem isWord_of_mem_wordsFrom (hword : ∀ c ∈ word, isWhitespace c = false)
    (hw : w ∈ wordsFrom word s) : IsWord w := by
  have hclosed (hne : word ≠ []) : IsWord word.reverse :=
    ⟨by simpa using hne, fun c hc => hword c (List.mem_reverse.1 hc)⟩
  induction s generalizing word with
  | nil =>
    rw [wordsFrom] at hw
    split at hw
    · cases hw
    · rename_i hne
      obtain rfl := List.mem_singleton.1 hw
      exact hclosed (by simpa using hne)
  | cons c cs ih =>
    have hlater (hw : w ∈ wordsFrom [] cs) : IsWord w :=
      ih (List.forall_mem_nil _) hw fun hne => absurd rfl hne
    rw [wordsFrom] at hw
    split at hw
    · split at hw
      · exact hlater hw
      · rename_i hne
        rcases List.mem_cons.1 hw with rfl | hw
        · exact hclosed (by simpa using hne)
        · exact hlater hw
    · rename_i hc
      have hword' : ∀ d ∈ c :: word, isWhitespace d = false :=
        List.forall_mem_cons.2 ⟨by simpa using hc, hword⟩
      exact ih hword' hw fun hne => ⟨by simp, fun d hd => hword' d (List.mem_reverse.1 hd)⟩

theorem words_intercalate {ws : List (List Char)} (h : ∀ w ∈ ws, IsWord w) :
    words ([' '].intercalate ws) = ws := by
  induction ws with
  | nil => rfl
  | cons w rest ih =>
    obtain ⟨hw, hrest⟩ := List.forall_mem_cons.1 h
    cases rest with
    | nil => simpa using hw.words_eq
    | cons w' rest =>
      have hblank : isWhitespace ' ' = true := rfl
      have hskip (t : List Char) : words (' ' :: t) = words t := rfl
      rw [List.intercalate_cons_cons, List.append_assoc, List.singleton_append,
        words_append (apart_cons_right hblank), hskip, hw.words_eq, ih hrest]
      rfl

theorem words_collapseWhitespace (s : List Char) : words (collapseWhitespace s) = words s :=
  words_intercalate fun _ hw => isWord_of_mem_wordsFrom (List.forall_mem_nil _) hw

end

namespace Document

variable {f : Folding} {s t u v w : List Char} {c : Char}

theorem alike_insert_of_isAscii (hu : ∀ c ∈ u, isAscii c) (hv : ∀ c ∈ v, isAscii c)
    (hc : isAscii c) (hblank : isWhitespace c) (h : Apart u v) :
    (ofSource f (u ++ v)).Alike (ofSource f (u ++ c :: v)) := by
  have hone : ∀ d ∈ [c], isAscii d := List.forall_mem_singleton.2 hc
  have hcv : ∀ d ∈ c :: v, isAscii d := List.forall_mem_cons.2 ⟨hc, hv⟩
  obtain ⟨front, later, htokens, hfront, hlater⟩ := tokenize_append_moved (f := f) hu hv h
  obtain ⟨front', later', htokens', hfront', hlater'⟩ :=
    tokenize_append_moved (f := f) hu hcv (apart_cons_right hblank)
  have hbehind : Moved c.utf8Size (tokenize f v) (tokenize f (c :: v)) := by
    have hapart : Apart [c] v := apart_of_getLast? (by simpa using hblank)
    obtain ⟨none, behind, hsplit, hnone, hmoved⟩ := tokenize_append_moved (f := f) hone hv hapart
    rw [tokenize_of_isBlank (by simpa [isBlank] using hblank)] at hnone
    cases hnone
    have hsplit : tokenize f (c :: v) = behind := hsplit
    rw [hsplit]
    exact hmoved
  have hmoved := hbehind.trans hlater'
  rw [Nat.add_comm] at hmoved
  exact alike_insert hblank h htokens htokens' (fun _ => upTo_of_mem_tokenize) hfront hfront'
    hlater hmoved

theorem alike_wordsFrom (hu : ∀ c ∈ u.getLast?, isWhitespace c)
    (hascii : ∀ c ∈ u ++ (w.reverse ++ s), isAscii c) :
    (ofSource f (u ++ (w.reverse ++ s))).Alike
      (ofSource f (u ++ (wordsFrom w s).flatMap (· ++ [' ']))) := by
  have hspace : isWhitespace ' ' = true := rfl
  have hspaceAscii : isAscii ' ' = true := rfl
  induction s generalizing u w with
  | nil =>
    rw [wordsFrom]
    split
    · rename_i hempty
      obtain rfl := List.isEmpty_iff.1 hempty
      exact .refl _
    · have halike := alike_insert_of_isAscii (f := f) (v := []) (by simpa using hascii)
        (List.forall_mem_nil _) hspaceAscii hspace (apart_nil_right (u ++ w.reverse))
      simpa using halike
  | cons c cs ih =>
    obtain ⟨hasciiFront, hasciiRest⟩ := List.forall_mem_append.1 hascii
    obtain ⟨hasciiWord, hasciiLater⟩ := List.forall_mem_append.1 hasciiRest
    obtain ⟨hc, hcs⟩ := List.forall_mem_cons.1 hasciiLater
    rw [wordsFrom]
    split
    · rename_i hblank
      split
      · rename_i hempty
        obtain rfl := List.isEmpty_iff.1 hempty
        refine (alike_insert_of_isAscii hasciiFront hcs hc hblank (apart_of_getLast? hu)).symm.trans
          (ih (w := []) hu ?_)
        exact List.forall_mem_append.2 ⟨hasciiFront, hcs⟩
      · -- A blank is put in front of the white space, which can go then.
        have hasciiBoth : ∀ d ∈ u ++ w.reverse, isAscii d :=
          List.forall_mem_append.2 ⟨hasciiFront, hasciiWord⟩
        have hasciiBlank : ∀ d ∈ u ++ w.reverse ++ [' '], isAscii d :=
          List.forall_mem_append.2 ⟨hasciiBoth, List.forall_mem_singleton.2 hspaceAscii⟩
        have hlast : ∀ d ∈ (u ++ w.reverse ++ [' ']).getLast?, isWhitespace d := by simp [hspace]
        have hput := alike_insert_of_isAscii (f := f) hasciiBoth hasciiLater hspaceAscii hspace
          (apart_cons_right hblank)
        have htaken := alike_insert_of_isAscii (f := f) hasciiBlank hcs hc hblank
          (apart_of_getLast? hlast)
        have hrest := ih (w := []) hlast (List.forall_mem_append.2 ⟨hasciiBlank, hcs⟩)
        simp only [List.append_assoc, List.singleton_append, List.reverse_nil, List.nil_append]
          at hput htaken hrest
        simpa using hput.trans (htaken.symm.trans hrest)
    · have hrest := ih (w := c :: w) hu (by simpa using hascii)
      simpa using hrest

theorem alike_of_words_eq (h : words s = words t) (hs : ∀ c ∈ s, isAscii c)
    (ht : ∀ c ∈ t, isAscii c) : (ofSource f s).Alike (ofSource f t) := by
  have hspread {s : List Char} (hs : ∀ c ∈ s, isAscii c) :
      (ofSource f s).Alike (ofSource f ((words s).flatMap (· ++ [' ']))) :=
    alike_wordsFrom (u := []) (w := []) (by simp) hs
  have hspread' := hspread ht
  rw [← h] at hspread'
  exact (hspread hs).trans hspread'.symm

end Document

end Licensing.Text

namespace Licensing.Matching

open Licensing.Text

/-- ASCII texts that differ in nothing but white space compare the same with every template. -/
theorem respaced_agree [Engine] (m : Matcher) (template text text' : List Char)
    (h : (m.compile template).isOk) (hascii : ∀ c ∈ text, isAscii c)
    (hascii' : ∀ c ∈ text', isAscii c) (hstrip : stripComments text = text)
    (hstrip' : stripComments text' = text')
    (hcollapse : collapseWhitespace text = collapseWhitespace text') :
    (∃ difference difference', m.compare template text = .ok difference ∧
      m.compare template text' = .ok difference' ∧ difference'.found = difference.found ∧
        difference'.regions = difference.regions) ∧
    ∃ occurs, m.isWithin template text = .ok occurs ∧
      m.isWithin template text' = .ok occurs := by
  obtain ⟨body, -, -, hcompile⟩ := Matcher.compile_isOk h
  have hwords : words text = words text' := by
    rw [← words_collapseWhitespace text, hcollapse, words_collapseWhitespace]
  have halike : (m.prepare text).Alike (m.prepare text') := by
    simp only [Matcher.prepare, Document.ofText_eq, hstrip, hstrip']
    exact Document.alike_of_words_eq hwords hascii hascii'
  simp only [Matcher.compare, Matcher.isWithin, hcompile, occursIn_of_alike halike]
  exact ⟨⟨_, _, rfl, rfl, compareWith_of_alike halike _⟩, _, rfl, rfl⟩

theorem respaced_agree_several_lines :
    let m : Matcher := {}
    let template := "a b <<var;name=v;match=....>> c".toList
    let text := "A b x, y c".toList
    let text' := "\r\n A\n\tb x,\r\n\n  y\tc\n".toList
    (m.compile template).isOk ∧ text.all isAscii ∧ text'.all isAscii ∧
      stripComments text = text ∧ stripComments text' = text' ∧
      collapseWhitespace text = collapseWhitespace text' ∧
      (∃ difference, m.compare template text' = .ok difference ∧ difference.found = false ∧
        difference.regions = some [(0, 2), (4, 5)]) ∧
      m.isWithin template text' = .ok true := by
  intro m template text text'
  have hok : (m.compile template).isOk := by decide +kernel
  have hascii : text.all isAscii := by decide +kernel
  have hascii' : text'.all isAscii := by decide +kernel
  have hstrip : stripComments text = text := by decide +kernel
  have hstrip' : stripComments text' = text' := by decide +kernel
  have hcollapse : collapseWhitespace text = collapseWhitespace text' := by decide +kernel
  have hcompare : m.compare template text = .ok (.noDifference [(0, 2), (4, 5)]) := by
    decide +kernel
  have hwithin : m.isWithin template text = .ok true := by decide +kernel
  obtain ⟨⟨difference, difference', hdifference, hdifference', hfound, hregions⟩, occurs, hoccurs,
    hoccurs'⟩ := respaced_agree m template text text' hok (List.all_eq_true.1 hascii)
      (List.all_eq_true.1 hascii') hstrip hstrip' hcollapse
  obtain rfl := Except.ok.inj (hdifference.symm.trans hcompare)
  obtain rfl := Except.ok.inj (hoccurs.symm.trans hwithin)
  exact ⟨hok, hascii, hascii', hstrip, hstrip', hcollapse,
    ⟨difference', hdifference', hfound, hregions⟩, hoccurs'⟩

end Licensing.Matching
