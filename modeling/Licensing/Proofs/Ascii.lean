import Licensing.Text.Document

namespace Licensing.Text

open Licensing.Unicode

theorem of_isAscii {P : Char → Prop} (h : ∀ n < 128, P (Char.ofNat n)) {c : Char}
    (hc : isAscii c) : P c := by
  rw [← Char.ofNat_toNat c]
  exact h c.toNat (by simpa [isAscii] using hc)

def foldAscii (c : Char) : Char :=
  if c = '"' ∨ c = '`' then '\'' else lowercaseAscii c

section

variable {c : Char}

theorem foldChar_of_isAscii (hc : isAscii c) : foldChar c = [foldAscii c] :=
  of_isAscii (P := fun c => foldChar c = [foldAscii c]) (by decide +kernel) hc

theorem isWhitespace_foldAscii (hc : isAscii c) : isWhitespace (foldAscii c) = isWhitespace c :=
  of_isAscii (P := fun c => isWhitespace (foldAscii c) = isWhitespace c) (by decide +kernel) hc

theorem foldAscii_of_isWhitespace (hc : isAscii c) (h : isWhitespace c) : foldAscii c = c :=
  of_isAscii (P := fun c => isWhitespace c → foldAscii c = c) (by decide +kernel) hc h

theorem utf8Size_of_isAscii (hc : isAscii c) : c.utf8Size = 1 :=
  of_isAscii (P := fun c => c.utf8Size = 1) (by decide +kernel) hc

theorem foldCluster_of_isAscii (f : Folding) (hc : isAscii c) :
    foldCluster f [c] = [foldAscii c] := by
  cases hspace : isWhitespace c with
  | true => simp [foldCluster, isBlank, hspace, foldAscii_of_isWhitespace hc hspace]
  | false => simp [foldCluster, isBlank, hspace, hc, foldChar_of_isAscii hc]

def IsSimple (k : GraphemeClass) : Prop :=
  k = .carriageReturn ∨ k = .control ∨ k = .other

instance (k : GraphemeClass) : Decidable (IsSimple k) :=
  inferInstanceAs (Decidable (_ ∨ _))

theorem isSimple_of_isAscii (hc : isAscii c) (hline : c ≠ '\n') : IsSimple (graphemeClass c) :=
  of_isAscii (P := fun c => c ≠ '\n' → IsSimple (graphemeClass c)) (by decide +kernel) hc hline

theorem conjunctRole_of_isAscii (hc : isAscii c) : conjunctRole c = .outsider :=
  of_isAscii (P := fun c => conjunctRole c = .outsider) (by decide +kernel) hc

theorem breaksBefore_of_isAscii {s : ClusterState} (hs : IsSimple s.last) (hc : isAscii c)
    (hline : c ≠ '\n') : s.breaksBefore c = true := by
  have hclass := isSimple_of_isAscii hc hline
  have hrole := conjunctRole_of_isAscii hc
  unfold ClusterState.breaksBefore
  rcases hs with hs | hs | hs <;> rcases hclass with hclass | hclass | hclass <;>
    simp [hs, hclass, hrole]

end

section

variable {u : List Char} {s : ClusterState}

theorem clustersAfter_of_isAscii (hs : IsSimple s.last) (hu : ∀ c ∈ u, isAscii c)
    (hline : '\n' ∉ u) : clustersAfter s u = ([], u.map ([·])) := by
  induction u generalizing s with
  | nil => rfl
  | cons c cs ih =>
    have hc := hu c List.mem_cons_self
    have hne : c ≠ '\n' := fun heq => hline (heq ▸ List.mem_cons_self)
    have hrest := ih (s := s.step c) (isSimple_of_isAscii hc hne)
      (fun d hd => hu d (List.mem_cons_of_mem c hd)) (fun h => hline (List.mem_cons_of_mem c h))
    simp [clustersAfter, hrest, breaksBefore_of_isAscii hs hc hne]

theorem clusters_of_isAscii (hu : ∀ c ∈ u, isAscii c) (hline : '\n' ∉ u) :
    clusters u = u.map ([·]) := by
  cases u with
  | nil => rfl
  | cons c cs =>
    have hne : c ≠ '\n' := fun heq => hline (heq ▸ List.mem_cons_self)
    have hrest := clustersAfter_of_isAscii (u := cs) (s := ClusterState.start.step c)
      (isSimple_of_isAscii (hu c List.mem_cons_self) hne)
      (fun d hd => hu d (List.mem_cons_of_mem c hd)) (fun h => hline (List.mem_cons_of_mem c h))
    simp [clusters, hrest]

end

/-- The text of a token with the bytes that it covers. -/
structure Stretch where
  text : String
  start : Nat
  stop : Nat

def Token.stretch (t : Token) : Stretch :=
  ⟨t.text, t.start, t.stop⟩

theorem map_text_stretch (tokens : List Token) :
    (tokens.map Token.stretch).map (·.text) = tokens.map (·.text) :=
  List.map_map

def wordStretch (word : List Char) (stop : Nat) : List Stretch :=
  if word.isEmpty then [] else [⟨String.ofList word.reverse, stop - word.length, stop⟩]

/-- The raw tokens of an ASCII text from byte `start` on, behind the reversed word `word`. -/
def stretches (word : List Char) (start : Nat) : List Char → List Stretch
  | [] => wordStretch word start
  | c :: cs =>
    if isWhitespace c then wordStretch word start ++ stretches [] (start + 1) cs
    else if isBoundaryMark (foldAscii c) then
      wordStretch word start ++
        ⟨String.singleton (foldAscii c), start, start + 1⟩ :: stretches [] (start + 1) cs
    else stretches (foldAscii c :: word) (start + 1) cs

/-- The glyphs of a reversed word of ASCII text that ends at a byte. -/
structure IsWordOf (word : List Char) (stop : Nat) (gs : List Glyph) : Prop where
  chars : gs.map (·.char) = word
  first : ∀ g ∈ gs.getLast?, g.start + gs.length = stop
  last : ∀ g ∈ gs.head?, g.stop = stop

namespace IsWordOf

variable {word : List Char} {start line : Nat} {gs : List Glyph}

theorem nil : IsWordOf [] start [] :=
  ⟨rfl, by simp, by simp⟩

theorem cons (h : IsWordOf word start gs) (c : Char) (column width : Nat) :
    IsWordOf (c :: word) (start + 1) (⟨c, column, width, start, start + 1⟩ :: gs) := by
  obtain ⟨hchars, hfirst, hlast⟩ := h
  refine ⟨by rw [List.map_cons, hchars], ?_, by simp⟩
  cases gs with
  | nil => simp
  | cons g gs =>
    intro first hmem
    rw [List.getLast?_cons_cons] at hmem
    have hstart := hfirst first hmem
    rw [List.length_cons]
    omega

theorem map_stretch (h : IsWordOf word start gs) :
    (wordToken? line gs).toList.map Token.stretch = wordStretch word start := by
  obtain ⟨rfl, hfirst, hlast⟩ := h
  cases gs with
  | nil => rfl
  | cons g gs =>
    have hstart : (gs.getLastD g).start + (gs.length + 1) = start := by
      refine hfirst (gs.getLastD g) ?_
      rw [List.getLast?_cons, List.getLastD_eq_getLast?]
      rfl
    have hstop : g.stop = start := hlast g rfl
    have hwidth : start - (gs.length + 1) = (gs.getLastD g).start := by omega
    simp [wordToken?, wordStretch, Token.stretch, hstop, hwidth]

end IsWordOf

section

variable {f : Folding} {u v word : List Char} {start column line : Nat}

theorem glyphs_of_isAscii {c : Char} (hc : isAscii c) (rest : List (List Char)) :
    glyphs f column start ([c] :: rest) =
      ⟨foldAscii c, column, 1, start, start + 1⟩ :: glyphs f (column + 1) (start + 1) rest := by
  simp [glyphs, foldCluster_of_isAscii f hc, byteLength, utf8Size_of_isAscii hc]

theorem lineTokensFrom_of_isAscii {gs : List Glyph} (hu : ∀ c ∈ u, isAscii c)
    (hgs : IsWordOf word start gs) :
    (lineTokensFrom line gs (glyphs f column start (u.map ([·])))).map Token.stretch =
      stretches word start u := by
  induction u generalizing word column start gs with
  | nil => exact hgs.map_stretch
  | cons c cs ih =>
    have hc := hu c List.mem_cons_self
    have hcs : ∀ d ∈ cs, isAscii d := fun d hd => hu d (List.mem_cons_of_mem c hd)
    rw [List.map_cons, glyphs_of_isAscii hc]
    simp only [lineTokensFrom, stretches, isWhitespace_foldAscii hc]
    split
    · rw [List.map_append, hgs.map_stretch, ih hcs .nil]
    · split
      · rw [List.map_append, hgs.map_stretch, List.map_cons, ih hcs .nil]
        rfl
      · exact ih hcs (hgs.cons (foldAscii c) column 1)

theorem byteLength_of_isAscii (hu : ∀ c ∈ u, isAscii c) : byteLength u = u.length := by
  induction u with
  | nil => rfl
  | cons c cs ih =>
    rw [byteLength, utf8Size_of_isAscii (hu c List.mem_cons_self),
      ih fun d hd => hu d (List.mem_cons_of_mem c hd), List.length_cons, Nat.add_comm]

/-- One of the texts is empty, or white space stands on one side of the cut. -/
def Apart (u v : List Char) : Prop :=
  u.getLast?.all fun c => v.head?.all fun d => isWhitespace c || isWhitespace d

instance (u v : List Char) : Decidable (Apart u v) :=
  inferInstanceAs (Decidable (_ = true))

@[simp] theorem wordStretch_nil : wordStretch [] start = [] := rfl

theorem stretches_append_of_head? (h : ∀ d ∈ v.head?, isWhitespace d) :
    stretches word start (u ++ v) =
      stretches word start u ++ stretches [] (start + u.length) v := by
  induction u generalizing word start with
  | nil =>
    cases v with
    | nil => simp [stretches]
    | cons d ds => simp [stretches, h d rfl]
  | cons c cs ih =>
    have hlength : start + 1 + cs.length = start + (c :: cs).length := by
      rw [List.length_cons]
      omega
    simp only [List.cons_append, stretches, ih, hlength]
    split
    · rw [List.append_assoc]
    · split
      · rw [List.append_assoc, List.cons_append]
      · rfl

theorem stretches_append (h : Apart u v) :
    stretches [] start (u ++ v) = stretches [] start u ++ stretches [] (start + u.length) v := by
  rcases List.eq_nil_or_concat u with rfl | ⟨u, c, rfl⟩
  · rfl
  · cases v with
    | nil => exact stretches_append_of_head? (by simp)
    | cons d ds =>
      have hblank : isWhitespace c ∨ isWhitespace d := by simpa [Apart] using h
      rcases hblank with hc | hd
      · have hsplit (rest : List Char) : stretches [] start (u ++ c :: rest) =
            stretches [] start u ++ stretches [] (start + u.length) (c :: rest) :=
          stretches_append_of_head? (by simpa using hc)
        rw [List.concat_append, List.concat_eq_append, hsplit, hsplit]
        simp [stretches, hc, Nat.add_assoc]
      · exact stretches_append_of_head? (by simpa using hd)

theorem stretches_text (start start' : Nat) :
    (stretches word start u).map (·.text) = (stretches word start' u).map (·.text) := by
  have hword (word : List Char) (start start' : Nat) :
      (wordStretch word start).map (·.text) = (wordStretch word start').map (·.text) := by
    unfold wordStretch
    split <;> rfl
  induction u generalizing word start start' with
  | nil => exact hword word start start'
  | cons c cs ih =>
    simp only [stretches]
    split
    · rw [List.map_append, List.map_append, hword word start start', ih (start + 1) (start' + 1)]
    · split
      · rw [List.map_append, List.map_append, List.map_cons, List.map_cons,
          hword word start start', ih (start + 1) (start' + 1)]
      · exact ih (start + 1) (start' + 1)

theorem wordStretch_bounds (hword : word.length ≤ start) {t : Stretch}
    (ht : t ∈ wordStretch word start) :
    start ≤ t.start + word.length ∧ t.start < t.stop ∧ t.stop ≤ start := by
  unfold wordStretch at ht
  split at ht
  · cases ht
  · rename_i hne
    obtain rfl := List.mem_singleton.1 ht
    have hpos : 0 < word.length := List.length_pos_iff.2 (by simpa using hne)
    dsimp only
    omega

theorem stretches_bounds (hword : word.length ≤ start) {t : Stretch}
    (ht : t ∈ stretches word start u) :
    start ≤ t.start + word.length ∧ t.start < t.stop ∧ t.stop ≤ start + u.length := by
  induction u generalizing word start with
  | nil => exact wordStretch_bounds hword ht
  | cons c cs ih =>
    rw [List.length_cons]
    simp only [stretches] at ht
    split at ht
    · rcases List.mem_append.1 ht with ht | ht
      · have hbounds := wordStretch_bounds hword ht
        omega
      · have hbounds := ih (Nat.zero_le _) ht
        rw [List.length_nil] at hbounds
        omega
    · split at ht
      · rcases List.mem_append.1 ht with ht | ht
        · have hbounds := wordStretch_bounds hword ht
          omega
        · rcases List.mem_cons.1 ht with rfl | ht
          · dsimp only
            omega
          · have hbounds := ih (Nat.zero_le _) ht
            rw [List.length_nil] at hbounds
            omega
      · have hbounds := ih (by rw [List.length_cons]; omega) ht
        rw [List.length_cons] at hbounds
        omega

theorem lineTokens_of_isAscii (hu : ∀ c ∈ u, isAscii c) (hline : '\n' ∉ u) :
    (lineTokensFrom line [] (glyphs f 0 start (clusters u.reverse))).map Token.stretch =
      stretches [] start u.reverse := by
  have hreverse : ∀ c ∈ u.reverse, isAscii c := fun c hc => hu c (List.mem_reverse.1 hc)
  rw [clusters_of_isAscii hreverse (by rwa [List.mem_reverse])]
  exact lineTokensFrom_of_isAscii hreverse .nil

theorem tokensOfLines_of_isAscii {before : List Char} (hbefore : ∀ c ∈ before, isAscii c)
    (hline : '\n' ∉ before) (hu : ∀ c ∈ u, isAscii c) :
    (tokensOfLines f line start (linesFrom before u)).map Token.stretch =
      stretches [] start (before.reverse ++ u) := by
  induction u generalizing before line start with
  | nil => simp [linesFrom, tokensOfLines, lineTokens_of_isAscii hbefore hline]
  | cons c cs ih =>
    have hcs : ∀ d ∈ cs, isAscii d := fun d hd => hu d (List.mem_cons_of_mem c hd)
    simp only [linesFrom]
    split
    · rename_i hc
      subst hc
      have hblank : isWhitespace '\n' = true := rfl
      have hsplit : stretches [] start (before.reverse ++ '\n' :: cs) =
          stretches [] start before.reverse ++
            stretches [] (start + before.reverse.length) ('\n' :: cs) :=
        stretches_append_of_head? (by simpa using hblank)
      have hlength : byteLength before.reverse = before.reverse.length :=
        byteLength_of_isAscii fun c hc => hbefore c (List.mem_reverse.1 hc)
      rw [tokensOfLines, List.map_append, lineTokens_of_isAscii hbefore hline, hlength,
        ih (List.forall_mem_nil _) List.not_mem_nil hcs, hsplit]
      simp [stretches, hblank]
    · rename_i hc
      have hmem : ∀ d ∈ c :: before, isAscii d :=
        List.forall_mem_cons.2 ⟨hu c List.mem_cons_self, hbefore⟩
      have hfeed : '\n' ∉ c :: before := by
        rw [List.mem_cons, not_or]
        exact ⟨Ne.symm hc, hline⟩
      rw [ih hmem hfeed hcs, List.reverse_cons, List.append_assoc, List.singleton_append]

theorem rawTokens_of_isAscii (f : Folding) (hu : ∀ c ∈ u, isAscii c) :
    (rawTokens f u).map Token.stretch = stretches [] 0 u :=
  tokensOfLines_of_isAscii (List.forall_mem_nil _) List.not_mem_nil hu

end

end Licensing.Text
