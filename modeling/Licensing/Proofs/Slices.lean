import Licensing.Proofs.Blank
import Licensing.Proofs.Joints

namespace Licensing.Text

section

variable {u v w s : List Char} {start stop n : Nat}

theorem byteLength_append (u v : List Char) :
    byteLength (u ++ v) = byteLength u + byteLength v := by
  induction u with
  | nil => rw [List.nil_append, byteLength, Nat.zero_add]
  | cons c cs ih => rw [List.cons_append, byteLength, byteLength, ih, Nat.add_assoc]

theorem dropBytes?_cons {c : Char} (h : c.utf8Size ≤ n) :
    dropBytes? n (c :: s) = dropBytes? (n - c.utf8Size) s := by
  have hpos := c.utf8Size_pos
  cases n with
  | zero => omega
  | succ n => rw [dropBytes?, if_pos h]

theorem takeBytes?_cons {c : Char} (h : c.utf8Size ≤ n) :
    takeBytes? n (c :: s) = (takeBytes? (n - c.utf8Size) s).map (c :: ·) := by
  have hpos := c.utf8Size_pos
  cases n with
  | zero => omega
  | succ n => rw [takeBytes?, if_pos h]

theorem dropBytes?_append_right (u v : List Char) (n : Nat) :
    dropBytes? (byteLength u + n) (u ++ v) = dropBytes? n v := by
  induction u with
  | nil => rw [byteLength, Nat.zero_add, List.nil_append]
  | cons c cs ih =>
    rw [List.cons_append, dropBytes?_cons (by rw [byteLength]; omega), byteLength, ← ih]
    congr 1
    omega

theorem takeBytes?_append_right (u v : List Char) (n : Nat) :
    takeBytes? (byteLength u + n) (u ++ v) = (takeBytes? n v).map (u ++ ·) := by
  induction u with
  | nil => simp [byteLength]
  | cons c cs ih =>
    have hrest : byteLength (c :: cs) + n - c.utf8Size = byteLength cs + n := by
      rw [byteLength]
      omega
    rw [List.cons_append, takeBytes?_cons (by rw [byteLength]; omega), hrest, ih, Option.map_map]
    rfl

theorem dropBytes?_append_left (h : n ≤ byteLength u) :
    dropBytes? n (u ++ v) = (dropBytes? n u).map (· ++ v) := by
  induction u generalizing n with
  | nil =>
    obtain rfl : n = 0 := Nat.le_zero.1 h
    simp [dropBytes?]
  | cons c cs ih =>
    cases n with
    | zero => simp [dropBytes?]
    | succ n =>
      rw [byteLength] at h
      rw [List.cons_append, dropBytes?, dropBytes?]
      split
      · exact ih (by omega)
      · rfl

theorem takeBytes?_append_left (h : n ≤ byteLength u) :
    takeBytes? n (u ++ v) = takeBytes? n u := by
  induction u generalizing n with
  | nil =>
    obtain rfl : n = 0 := Nat.le_zero.1 h
    simp [takeBytes?]
  | cons c cs ih =>
    cases n with
    | zero => simp [takeBytes?]
    | succ n =>
      rw [byteLength] at h
      rw [List.cons_append, takeBytes?, takeBytes?]
      split
      · rw [ih (by omega)]
      · rfl

theorem append_of_dropBytes? (h : dropBytes? n u = some w) :
    ∃ before, u = before ++ w ∧ byteLength before = n := by
  induction u generalizing n with
  | nil =>
    cases n with
    | zero =>
      cases h
      exact ⟨[], rfl, rfl⟩
    | succ n => cases h
  | cons c cs ih =>
    cases n with
    | zero =>
      cases h
      exact ⟨[], rfl, rfl⟩
    | succ n =>
      rw [dropBytes?] at h
      split at h
      · obtain ⟨before, rfl, hlength⟩ := ih h
        refine ⟨c :: before, rfl, ?_⟩
        rw [byteLength]
        omega
      · cases h

theorem append_of_takeBytes? (h : takeBytes? n u = some w) : ∃ after, u = w ++ after := by
  induction u generalizing n w with
  | nil =>
    cases n with
    | zero =>
      cases h
      exact ⟨[], rfl⟩
    | succ n => cases h
  | cons c cs ih =>
    cases n with
    | zero =>
      cases h
      exact ⟨c :: cs, rfl⟩
    | succ n =>
      rw [takeBytes?] at h
      split at h
      · obtain ⟨rest, hrest, rfl⟩ := Option.map_eq_some_iff.1 h
        obtain ⟨after, rfl⟩ := ih hrest
        exact ⟨after, rfl⟩
      · cases h

theorem slice?_append_right (u v : List Char) (start stop : Nat) :
    slice? (u ++ v) (byteLength u + start) (byteLength u + stop) = slice? v start stop := by
  unfold slice?
  rw [dropBytes?_append_right, Nat.add_sub_add_left]
  by_cases h : start ≤ stop
  · rw [if_pos h, if_pos (Nat.add_le_add_left h _)]
  · rw [if_neg h, if_neg fun hle => h (Nat.le_of_add_le_add_left hle)]

theorem slice?_append_left (h : stop ≤ byteLength u) :
    slice? (u ++ v) start stop = slice? u start stop := by
  unfold slice?
  split
  · rename_i hle
    rw [dropBytes?_append_left (Nat.le_trans hle h)]
    cases hdrop : dropBytes? start u with
    | none => rfl
    | some w =>
      obtain ⟨before, rfl, rfl⟩ := append_of_dropBytes? hdrop
      rw [byteLength_append] at h
      exact takeBytes?_append_left (by omega)
  · rfl

theorem slice?_between (before source behind : List Char) :
    slice? (before ++ (source ++ behind)) (byteLength before)
      (byteLength before + byteLength source) = some source := by
  have hslice := slice?_append_right before (source ++ behind) 0 (byteLength source)
  have htake := takeBytes?_append_right source behind 0
  rw [Nat.add_zero] at hslice htake
  rw [hslice, slice?, if_pos (Nat.zero_le _), dropBytes?, Nat.sub_zero, Option.bind_some, htake,
    takeBytes?, Option.map_some, List.append_nil]

theorem slice?_append_across (h : start ≤ byteLength u) :
    slice? (u ++ v) start (byteLength u + stop) =
      (dropBytes? start u).bind fun w => (takeBytes? stop v).map (w ++ ·) := by
  unfold slice?
  rw [if_pos (Nat.le_trans h (Nat.le_add_right _ _)), dropBytes?_append_left h]
  cases hdrop : dropBytes? start u with
  | none => rfl
  | some w =>
    obtain ⟨before, rfl, rfl⟩ := append_of_dropBytes? hdrop
    have hlength : byteLength (before ++ w) + stop - byteLength before = byteLength w + stop := by
      rw [byteLength_append]
      omega
    rw [hlength]
    exact takeBytes?_append_right w v stop

end

section

variable {u v w word : List Char} {c : Char}

theorem wordsFrom_append_of_head? (h : ∀ d ∈ v.head?, isWhitespace d) :
    wordsFrom word (u ++ v) = wordsFrom word u ++ words v := by
  induction u generalizing word with
  | nil =>
    cases v with
    | nil => simp [wordsFrom, words]
    | cons d ds =>
      have hd : isWhitespace d := h d rfl
      cases word <;> simp [wordsFrom, words, hd]
  | cons c cs ih =>
    simp only [List.cons_append, wordsFrom, ih]
    split
    · split <;> simp
    · rfl

theorem words_append (h : Apart u v) : words (u ++ v) = words u ++ words v := by
  rcases List.eq_nil_or_concat u with rfl | ⟨u, c, rfl⟩
  · rfl
  · cases v with
    | nil => exact wordsFrom_append_of_head? (by simp)
    | cons d ds =>
      have hblank : isWhitespace c ∨ isWhitespace d := by simpa [Apart] using h
      rcases hblank with hc | hd
      · have hsplit (rest : List Char) :
            words (u ++ c :: rest) = words u ++ words (c :: rest) :=
          wordsFrom_append_of_head? (by simpa using hc)
        have hskip (rest : List Char) : words (c :: rest) = words rest := by
          simp [words, wordsFrom, hc]
        rw [List.concat_append, List.concat_eq_append, hsplit, hsplit, hskip, hskip]
        simp [words, wordsFrom]
      · exact wordsFrom_append_of_head? (by simpa using hd)

theorem words_insert (hc : isWhitespace c) (h : Apart u v) :
    words (u ++ c :: v) = words (u ++ v) := by
  have hskip : words (c :: v) = words v := by simp [words, wordsFrom, hc]
  rw [words_append h, ← hskip]
  exact wordsFrom_append_of_head? (by simpa using hc)

theorem Apart.of_suffix_of_prefix {a b : List Char} (h : Apart (a ++ u) (v ++ b)) : Apart u v := by
  cases u with
  | nil => rfl
  | cons d ds =>
    cases v with
    | nil => exact apart_nil_right _
    | cons e es =>
      rwa [apart_append_right (List.cons_ne_nil _ _), apart_append_left (List.cons_ne_nil _ _)] at h

theorem words_slice?_insert {start stop : Nat} (hc : isWhitespace c) (h : Apart u v)
    (hstart : start ≤ byteLength u) :
    words ((slice? (u ++ c :: v) start (byteLength u + c.utf8Size + stop)).getD []) =
      words ((slice? (u ++ v) start (byteLength u + stop)).getD []) := by
  have hlength : byteLength u + c.utf8Size = byteLength (u ++ [c]) :=
    (byteLength_append u [c]).symm
  rw [List.append_cons, hlength, slice?_append_across (by omega), slice?_append_across hstart,
    dropBytes?_append_left hstart]
  cases hdrop : dropBytes? start u with
  | none => rfl
  | some w =>
    cases htake : takeBytes? stop v with
    | none => rfl
    | some z =>
      obtain ⟨before, rfl, -⟩ := append_of_dropBytes? hdrop
      obtain ⟨after, rfl⟩ := append_of_takeBytes? htake
      simpa using words_insert hc h.of_suffix_of_prefix

end

end Licensing.Text
