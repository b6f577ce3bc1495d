import Licensing.Proofs.Slices
import Licensing.Proofs.Stripping

namespace Licensing.Text

section

variable {α β : Type} {turn : α → Option α} {a b c : α}

/-- A loop that takes turns as long as there is one ends at the second state. -/
inductive Leaves (turn : α → Option α) : α → α → Prop where
  | done {a : α} (h : turn a = none) : Leaves turn a a
  | next {a b c : α} (h : turn a = some b) (hrest : Leaves turn b c) : Leaves turn a c

theorem Leaves.unique (h : Leaves turn a b) (h' : Leaves turn a c) : b = c := by
  induction h with
  | done h =>
    cases h' with
    | done => rfl
    | next h' => cases h.symm.trans h'
  | next h _ ih =>
    cases h' with
    | done h' => cases h.symm.trans h'
    | next h' hrest =>
      obtain rfl := Option.some.inj (h.symm.trans h')
      exact ih hrest

theorem Leaves.map {turn' : β → Option β} {g : α → β}
    (hturn : ∀ a, turn' (g a) = (turn a).map g) (h : Leaves turn a b) :
    Leaves turn' (g a) (g b) := by
  induction h with
  | done h => exact .done (by rw [hturn, h, Option.map_none])
  | next h _ ih => exact .next (by rw [hturn, h, Option.map_some]) ih

end

def blankFirst? (length? : List Char → Option Nat) (s : List Char) : Option (List Char) :=
  let rest := s.dropWhile isWhitespace
  (length? rest).map fun n => s.takeWhile isWhitespace ++ (List.replicate n ' ' ++ rest.drop n)

def blankOpener? (line : List Char) : Option (List Char) :=
  blankFirst? openerLength? line

def blankCloser? (line : List Char) : Option (List Char) :=
  (blankFirst? closerLength? line.reverse).map List.reverse

def blankOpenerAfterOptional? (line : List Char) : Option (List Char) :=
  (cutOptional? line).bind fun (front, behind) => (blankOpener? behind).map (front ++ ·)

/-- Markers are blanked at the end of a line, at its start and behind the rule there. -/
def StripsTo (line result : List Char) : Prop :=
  ∃ closed opened, Leaves blankCloser? line closed ∧ Leaves blankOpener? closed opened ∧
    Leaves blankOpenerAfterOptional? opened result

section

variable {markers : List (List Char)} {length? : List Char → Option Nat} {line result : List Char}

theorem FindsMarkers.leaves (h : FindsMarkers markers length?) (s : List Char) :
    Leaves (blankFirst? length?) s (blankMarkersAfter length? 0 s) := by
  -- Each turn starts at the front again, where white space has been met before.
  refine h.induction (P := fun s s' => ∀ space, isBlank space →
    Leaves (blankFirst? length?) (space ++ s) (space ++ s')) ?_ ?_ ?_ s [] rfl
  · intro s hlength hhead space hspace
    apply Leaves.done
    rw [blankFirst?, dropWhile_append_of_isBlank hspace, dropWhile_of_head? hhead, hlength,
      Option.map_none]
  · intro c s s' hc ih space hspace
    rw [List.append_cons space c s, List.append_cons space c s']
    exact ih (space ++ [c]) (isBlank_append.2 ⟨hspace, isBlank_cons.2 ⟨hc, rfl⟩⟩)
  · intro u v s' hne hhead hlength ih space hspace
    have hstart : ∀ c ∈ (u ++ v).head?, isWhitespace c = false := by
      rwa [List.head?_append_of_ne_nil _ hne]
    have hturn : blankFirst? length? (space ++ (u ++ v)) =
        some (space ++ (List.replicate u.length ' ' ++ v)) := by
      rw [blankFirst?, dropWhile_append_of_isBlank hspace, dropWhile_of_head? hstart, hlength,
        Option.map_some, List.drop_left, List.takeWhile_append_of_pos (isBlank_iff.1 hspace),
        takeWhile_of_head? hstart, List.append_nil]
    apply Leaves.next hturn
    rw [← List.append_assoc, ← List.append_assoc]
    exact ih _ (isBlank_append.2 ⟨hspace, isBlank_replicate _⟩)

theorem leaves_blankOpeners (line : List Char) : Leaves blankOpener? line (blankOpeners line) :=
  findsMarkers_openerLength?.leaves line

theorem leaves_blankClosers (line : List Char) : Leaves blankCloser? line (blankClosers line) := by
  have h : Leaves blankCloser? line.reverse.reverse (blankClosers line) :=
    (findsMarkers_closerLength?.leaves line.reverse).map fun s => by
      rw [blankCloser?, List.reverse_reverse]
  rwa [List.reverse_reverse] at h

theorem leaves_blankAfterOptional (line : List Char) :
    Leaves blankOpenerAfterOptional? line (blankAfterOptional line) := by
  rw [blankAfterOptional_eq]
  cases hcut : cutOptional? line with
  | none => exact .done (by rw [blankOpenerAfterOptional?, hcut, Option.bind_none])
  | some parts =>
    obtain ⟨front, behind⟩ := parts
    obtain ⟨rfl, hfront⟩ := eq_of_cutOptional? hcut
    exact (leaves_blankOpeners behind).map fun s => by
      rw [blankOpenerAfterOptional?, hfront.cutOptional?_append, Option.bind_some]

/-- The loops come to an end, and there is one end that they can come to. -/
theorem stripsTo_iff : StripsTo line result ↔ result = blankLine line := by
  constructor
  · rintro ⟨closed, opened, hclosed, hopened, hresult⟩
    obtain rfl := hclosed.unique (leaves_blankClosers line)
    obtain rfl := hopened.unique (leaves_blankOpeners _)
    exact hresult.unique (leaves_blankAfterOptional _)
  · rintro rfl
    exact ⟨_, _, leaves_blankClosers line, leaves_blankOpeners _, leaves_blankAfterOptional _⟩

end

/-- The second character is the first one, or a blank in the place of a character of a marker. -/
def BlankedTo (c d : Char) : Prop :=
  d = c ∨ isAscii c ∧ isWhitespace c = false ∧ d = ' '

section

variable {c d : Char} {s s' m : List Char}

theorem BlankedTo.utf8Size_eq (h : BlankedTo c d) : d.utf8Size = c.utf8Size := by
  rcases h with rfl | ⟨hc, -, rfl⟩
  · rfl
  · rw [utf8Size_of_isAscii hc]
    rfl

theorem BlankedTo.eq_iff {e : Char} (h : BlankedTo c d) (he : isWhitespace e) (hne : e ≠ ' ') :
    d = e ↔ c = e := by
  rcases h with rfl | ⟨-, hc, rfl⟩
  · rfl
  · constructor
    · intro heq
      exact absurd heq.symm hne
    · rintro rfl
      rw [hc] at he
      cases he

theorem isAscii_of_mem_marks (hm : m ∈ marks) : ∀ c ∈ m, isAscii c ∧ isWhitespace c = false := by
  have hall : ∀ m ∈ marks, m.all fun c => isAscii c && !isWhitespace c := by decide
  intro c hc
  have hmark := List.all_eq_true.1 (hall m hm) c hc
  rwa [Bool.and_eq_true, Bool.not_eq_true'] at hmark

theorem forall₂_blankedTo_replicate (h : ∀ c ∈ m, isAscii c ∧ isWhitespace c = false) :
    List.Forall₂ BlankedTo m (List.replicate m.length ' ') := by
  induction m with
  | nil => exact .nil
  | cons c m ih =>
    rw [List.forall_mem_cons] at h
    exact .cons (.inr ⟨h.1.1, h.1.2, rfl⟩) (ih h.2)

theorem Overwritten.forall₂_blankedTo (h : Overwritten marks s s') :
    List.Forall₂ BlankedTo s s' := by
  induction h with
  | nil => exact .nil
  | keep c _ ih => exact .cons (.inl rfl) ih
  | marker hm _ ih =>
    exact List.rel_append (forall₂_blankedTo_replicate (isAscii_of_mem_marks hm)) ih

theorem forall₂_blankedTo_stripComments (s : List Char) :
    List.Forall₂ BlankedTo s (stripComments s) :=
  (overwritten_stripComments s).forall₂_blankedTo

theorem byteLength_of_forall₂ (h : List.Forall₂ BlankedTo s s') :
    byteLength s' = byteLength s := by
  induction h with
  | nil => rfl
  | cons h _ ih => rw [byteLength, byteLength, h.utf8Size_eq, ih]

theorem getElem?_iff_of_forall₂ {e : Char} (h : List.Forall₂ BlankedTo s s')
    (he : isWhitespace e) (hne : e ≠ ' ') (k : Nat) : s'[k]? = some e ↔ s[k]? = some e := by
  induction h generalizing k with
  | nil => rfl
  | cons h _ ih =>
    cases k with
    | zero =>
      rw [List.getElem?_cons_zero, List.getElem?_cons_zero, Option.some_inj, Option.some_inj,
        h.eq_iff he hne]
    | succ k => exact ih k

end

/-- The second line differs from the first by blanks at its ends only. -/
def BlankedAtEnds (line stripped : List Char) : Prop :=
  ∃ front middle back front' back', line = front ++ (middle ++ back) ∧
    stripped = front' ++ (middle ++ back') ∧ front'.length = front.length ∧
    back'.length = back.length ∧ isBlank front' ∧ isBlank back'

def SameWithin (s stripped : List Char) : Prop :=
  ∀ (i j k : Nat) (c d : Char), i ≤ j → j ≤ k → stripped[i]? = some c → isWhitespace c = false →
    stripped[k]? = some d → isWhitespace d = false → stripped[j]? = s[j]?

/-- The start of an optional region is the first thing on a line, markers aside. -/
def BeginsWithOptional (line : List Char) : Prop :=
  optionalKeyword <+: (blankOpeners line).dropWhile isWhitespace

instance (line : List Char) : Decidable (BeginsWithOptional line) :=
  inferInstanceAs (Decidable (_ <+: _))

section

variable {line stripped front behind : List Char}

theorem BlankedAtEnds.sameWithin (h : BlankedAtEnds line stripped) : SameWithin line stripped := by
  obtain ⟨front, middle, back, front', back', rfl, rfl, hfront, hback, hblank, hblank'⟩ := h
  intro i j k c d hij hjk hi hc hk hd
  have hi' : front'.length ≤ i := by
    by_contra hlt
    rw [List.getElem?_append_left (by omega)] at hi
    rw [isBlank_iff.1 hblank c (List.mem_of_getElem? hi)] at hc
    cases hc
  have hk' : k < front'.length + middle.length := by
    by_contra hle
    rw [List.getElem?_append_right (by omega), List.getElem?_append_right (by omega)] at hk
    rw [isBlank_iff.1 hblank' d (List.mem_of_getElem? hk)] at hd
    cases hd
  rw [List.getElem?_append_right (by omega), List.getElem?_append_left (by omega),
    List.getElem?_append_right (by omega), List.getElem?_append_left (by omega), hfront]

theorem exists_eq_append_cons_of_isBlank {rest blanks u v : List Char} {c : Char}
    (h : rest ++ blanks = u ++ c :: v) (hblanks : isBlank blanks) (hc : isWhitespace c = false) :
    ∃ v', rest = u ++ c :: v' := by
  have hmem : c ∉ blanks := by
    intro hmem
    rw [isBlank_iff.1 hblanks c hmem] at hc
    cases hc
  rcases List.append_eq_append_iff.1 h with ⟨w, rfl, rfl⟩ | ⟨w, rfl, hw⟩
  · exact absurd (List.mem_append_right w List.mem_cons_self) hmem
  · cases w with
    | nil =>
      rw [List.nil_append] at hw
      exact absurd (hw ▸ List.mem_cons_self) hmem
    | cons d w =>
      obtain rfl : c = d := (List.cons.inj hw).1
      exact ⟨w, rfl⟩

theorem beginsWithOptional_of_cutOptional?
    (h : cutOptional? (blankOpeners (blankClosers line)) = some (front, behind)) :
    BeginsWithOptional line := by
  -- No marker holds the last character of the keyword: the markers in front of it do not depend on
  -- what stands behind it.
  have hmarkers : ∀ m ∈ openers, 'l' ∉ m := by decide
  have hkeyword : optionalKeyword = "<<beginOptiona".toList ++ ['l'] := by decide
  have hcut (u v : List Char) : blankOpeners (u ++ 'l' :: v) = blankOpeners u ++ 'l' :: v :=
    blankOpeners_append_cons hmarkers rfl u
  obtain ⟨hline, space, rule, hspace, -, rfl⟩ := eq_of_cutOptional? h
  obtain ⟨rest, back, blanks, rfl, hclosers, -, hblanks, -⟩ := exists_blankClosers line
  have hopened : blankOpeners (rest ++ blanks) =
      (space ++ "<<beginOptiona".toList) ++ 'l' :: (rule ++ ['>', '>'] ++ behind) := by
    rw [← hclosers, hline, hkeyword]
    simp
  have hover := overwritten_blankOpeners (rest ++ blanks)
  rw [hopened] at hover
  obtain ⟨u, v, hrest, hu, -⟩ := hover.exists_eq_append_cons (by decide)
  obtain ⟨v', rfl⟩ := exists_eq_append_cons_of_isBlank hrest hblanks rfl
  have hfront : blankOpeners u = space ++ "<<beginOptiona".toList := by
    rw [List.append_assoc, List.cons_append, hcut] at hopened
    refine (List.append_inj hopened ?_).1
    rw [(overwritten_blankOpeners u).length_eq, hu.length_eq]
  rw [BeginsWithOptional, List.append_assoc, List.cons_append, hcut, hfront, List.append_assoc,
    dropWhile_append_of_isBlank hspace, hkeyword]
  exact ⟨v' ++ back, rfl⟩

theorem blankedAtEnds_blankLine (h : ¬ BeginsWithOptional line) :
    BlankedAtEnds line (blankLine line) := by
  have hcut : cutOptional? (blankOpeners (blankClosers line)) = none := by
    cases hcut : cutOptional? (blankOpeners (blankClosers line)) with
    | none => rfl
    | some parts => exact absurd (beginsWithOptional_of_cutOptional? hcut) h
  rw [blankLine, blankAfterOptional_eq, hcut, Option.elim_none]
  obtain ⟨rest, back, blanks, rfl, hclosers, hsize, hblanks, -⟩ := exists_blankClosers line
  obtain ⟨front, blanks', rest', -, hopened, hopeners, hsize', hblanks', -⟩ :=
    exists_blankOpeners (rest ++ blanks)
  rw [hclosers, hopeners]
  rcases List.append_eq_append_iff.1 hopened with ⟨middle, rfl, rfl⟩ | ⟨middle, rfl, rfl⟩
  · -- The markers at the start reach into the blanks behind the line.
    refine ⟨rest ++ back, [], [], blanks' ++ rest', [], by simp, by simp, ?_, rfl, ?_, rfl⟩
    · simp only [List.length_append] at hsize hsize' ⊢
      omega
    · exact isBlank_append.2 ⟨hblanks', (isBlank_append.1 hblanks).2⟩
  · exact ⟨front, middle, back, blanks', blanks, by simp, rfl, hsize', hsize, hblanks', hblanks⟩

end

/-- Only markers are blanked, at the ends of a line unless an optional region starts on it. -/
theorem stripComments_in_place (s : List Char) :
    (∀ line result, StripsTo line result ↔ result = blankLine line) ∧
      List.Forall₂ BlankedTo s (stripComments s) ∧
      (∀ k, byteLength ((stripComments s).take k) = byteLength (s.take k)) ∧
      (∀ c, isWhitespace c → c ≠ ' ' → ∀ k : Nat, (stripComments s)[k]? = some c ↔ s[k]? = some c) ∧
      List.Forall₂ (fun line stripped => stripped.length = line.length ∧
        (¬ BeginsWithOptional line → BlankedAtEnds line stripped ∧ SameWithin line stripped))
        (lines s) (lines (stripComments s)) := by
  have hplaces := forall₂_blankedTo_stripComments s
  refine ⟨fun line result => stripsTo_iff, hplaces, ?_, ?_, ?_⟩
  · intro k
    exact byteLength_of_forall₂ (List.forall₂_take k hplaces)
  · intro c hc hne k
    exact getElem?_iff_of_forall₂ hplaces hc hne k
  · rw [lines_stripComments, List.forall₂_map_right_iff, List.forall₂_same]
    intro line _
    constructor
    · exact (overwritten_blankLine line).length_eq
    · intro hline
      have hends := blankedAtEnds_blankLine hline
      exact ⟨hends, hends.sameWithin⟩

theorem stripComments_in_place_stacked :
    stripComments "/* # é // *) */\r\n# b".toList = "     é //      \r\n  b".toList ∧
      (stripComments "/* # é // *) */\r\n# b".toList)[15]? = some '\r' ∧
      BlankedAtEnds "/* # é // *) */\r".toList "     é //      \r".toList := by
  have hstrip : stripComments "/* # é // *) */\r\n# b".toList =
      "     é //      \r\n  b".toList := by decide
  obtain ⟨-, -, -, hspaces, hlines⟩ := stripComments_in_place "/* # é // *) */\r\n# b".toList
  have hreturn := (hspaces '\r' rfl (by decide) 15).2 (by decide)
  have hbefore : lines "/* # é // *) */\r\n# b".toList =
      ["/* # é // *) */\r".toList, "# b".toList] := by decide
  have hafter : lines "     é //      \r\n  b".toList =
      ["     é //      \r".toList, "  b".toList] := by decide
  rw [hstrip, hbefore, hafter] at hlines
  cases hlines with
  | cons hfirst _ => exact ⟨hstrip, hreturn, (hfirst.2 (by decide)).1⟩

end Licensing.Text
