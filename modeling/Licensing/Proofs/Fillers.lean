import Licensing.Proofs.Ascii
import Licensing.Proofs.CharacterTables
import Licensing.Proofs.Composition

namespace Licensing.Unicode

open Licensing.Text

section

variable {a c : Char} {n : Nat} {image : List Nat}

theorem of_isFiller {P : Char → Prop} (h : ∀ n ∈ fillerPoints, P (Char.ofNat n))
    (hc : isFiller c) : P c := by
  rw [← Char.ofNat_toNat c]
  exact h c.toNat (isFiller_iff.1 hc)

theorem foldChar_of_isFiller (h : isFiller c) : ∃ x ∈ [' ', '\'', '-'], foldChar c = [x] := by
  have hfold : foldChar c ∈ [' ', '\'', '-'].map ([·]) :=
    of_isFiller (P := fun c => foldChar c ∈ [' ', '\'', '-'].map ([·])) (by decide +kernel) h
  obtain ⟨x, hx, heq⟩ := List.mem_map.1 hfold
  exact ⟨x, hx, heq.symm⟩

theorem graphemeClass_of_isFiller (h : isFiller c) : graphemeClass c = .other := by
  have hpoint := isFiller_iff.1 h
  have hbounds : ∀ n ∈ fillerPoints, 0x20 ≤ n ∧ n ≠ 0x7F ∧ n ≠ 0x200D ∧ n < 0x1F1E6 ∧
      ¬ (0xAC00 ≤ n ∧ n ≤ 0xD7A3) := by decide
  obtain ⟨hlow, hdelete, hjoiner, hregional, hhangul⟩ := hbounds _ hpoint
  have hreturn : c ≠ '\r' := by
    rintro rfl
    exact absurd hlow (by decide)
  have hfeed : c ≠ '\n' := by
    rintro rfl
    exact absurd hlow (by decide)
  have htable {table : String} (hmem : table ∈ classTables) :
      (Ranges.parse table).contains c = false :=
    SpelledBy.contains_eq_false classTables_clear hmem hpoint
  unfold graphemeClass
  rw [if_neg hreturn, if_neg hfeed]
  by_cases hascii : c.toNat < 0x80
  · rw [if_pos hascii, if_neg (by omega)]
  · rw [if_neg hascii, if_neg hjoiner, GraphemeTables.controls, htable (by simp [classTables]),
      GraphemeTables.extenders, htable (by simp [classTables]),
      GraphemeTables.spacingMarks, htable (by simp [classTables]),
      GraphemeTables.leadingJamo, htable (by simp [classTables]),
      GraphemeTables.vowelJamo, htable (by simp [classTables]),
      GraphemeTables.trailingJamo, htable (by simp [classTables]),
      GraphemeTables.pictographs, htable (by simp [classTables]),
      GraphemeTables.prependers, htable (by simp [classTables])]
    simp only [Bool.false_eq_true, if_false]
    rw [if_neg (by omega), if_neg hhangul]

theorem conjunctRole_of_isFiller (h : isFiller c) : conjunctRole c = .outsider := by
  have hpoint := isFiller_iff.1 h
  have hbounds : ∀ n ∈ fillerPoints, n ≠ 0x200D := by decide
  have htable {table : String} (hmem : table ∈ classTables) :
      (Ranges.parse table).contains c = false :=
    SpelledBy.contains_eq_false classTables_clear hmem hpoint
  unfold conjunctRole
  split
  · rfl
  · rw [if_neg (hbounds _ hpoint), GraphemeTables.conjunctConsonants,
      htable (by simp [classTables]), GraphemeTables.conjunctLinkers,
      htable (by simp [classTables]), GraphemeTables.conjunctExtenders,
      htable (by simp [classTables])]
    rfl

theorem combiningClass_of_isFiller (h : isFiller c) : combiningClass c = 0 := by
  have hpoint := isFillerPoint_iff.2 (isFiller_iff.1 h)
  obtain ⟨texts, hspelled, -, hfilter⟩ := combiningClasses_spelled
  unfold combiningClass
  split
  · rfl
  · rw [combiningClassTable, Mapping.get?_map]
    cases himage : (Mapping.parse Data.combiningClasses).get? c with
    | none => rfl
    | some image =>
      have hentry : (c.toNat, image) ∈ [(0x301, [0xE6])] := by
        rw [← hfilter]
        exact List.mem_filter.2 ⟨hspelled.mem_of_get? himage, Bool.or_eq_true_iff.2 (.inr hpoint)⟩
      rw [List.mem_singleton] at hentry
      rw [(Prod.mk.inj hentry).1] at hpoint
      exact absurd hpoint (by decide)

theorem alternatingLookup_eq_none (h : n ∉ image) : alternatingLookup n image = none := by
  fun_induction alternatingLookup n image with
  | case1 => exact absurd List.mem_cons_self h
  | case2 a b rest _ ih =>
    exact ih fun hmem => h (List.mem_cons_of_mem _ (List.mem_cons_of_mem _ hmem))
  | case3 => rfl

theorem not_mem_of_composition (h : compositionTable.get? a = some image) (hc : isFiller c) :
    c.toNat ∉ a.toNat :: image := by
  obtain ⟨texts, hspelled, hall⟩ := compositions_spelled
  intro hmem
  have hentry := List.all_eq_true.1 (List.all_eq_true.1 hall _ (hspelled.mem_of_get? h)) _ hmem
  rw [isFillerPoint_iff.2 (isFiller_iff.1 hc)] at hentry
  cases hentry

theorem inert_of_isFiller (h : isFiller c) : Inert c := by
  have hbounds : ∀ n ∈ fillerPoints, ¬ (0x1100 ≤ n ∧ n < 0x1113) ∧ ¬ (0x1161 ≤ n ∧ n < 0x1176) ∧
      ¬ (0x11A8 ≤ n ∧ n < 0x11C3) ∧ ¬ (0xAC00 ≤ n ∧ n ≤ 0xD7A3) := by decide
  obtain ⟨hleading, hvowel, htrailing, hsyllable⟩ := hbounds _ (isFiller_iff.1 h)
  have hhangul : isHangulSyllable c = false := by
    rw [Bool.eq_false_iff]
    simpa [isHangulSyllable] using hsyllable
  refine ⟨combiningClass_of_isFiller h, fun d => ?_, fun d => ?_⟩
  · rw [composePair, if_neg (by omega), if_neg (by simp [hhangul])]
    cases himage : compositionTable.get? c with
    | none => rfl
    | some image => exact absurd List.mem_cons_self (not_mem_of_composition himage h)
  · rw [composePair, if_neg (by omega), if_neg (by omega)]
    cases himage : compositionTable.get? d with
    | none => rfl
    | some image =>
      have hnone : c.toNat ∉ image := fun hmem =>
        not_mem_of_composition himage h (List.mem_cons_of_mem _ hmem)
      rw [Option.bind_some, alternatingLookup_eq_none hnone]
      rfl

theorem decompose_of_isFiller (h : isFiller c) : decompose c = [c] ∨
    ∃ image, (c.toNat, image) ∈ fillerDecompositions ∧ decompose c = image.map Char.ofNat := by
  have hpoint := isFillerPoint_iff.2 (isFiller_iff.1 h)
  have hbounds : ∀ n ∈ fillerPoints, ¬ (0xAC00 ≤ n ∧ n ≤ 0xD7A3) := by decide
  have hsyllable : isHangulSyllable c = false := by
    rw [Bool.eq_false_iff]
    simpa [isHangulSyllable] using hbounds _ (isFiller_iff.1 h)
  obtain ⟨texts, hspelled, -, hfilter⟩ := decompositions_spelled
  unfold decompose
  split
  · exact .inl rfl
  · rw [hsyllable, decompositionTable, Mapping.get?_map]
    cases himage : (Mapping.parse Data.decompositions).get? c with
    | none => exact .inl rfl
    | some image =>
      refine .inr ⟨image, ?_, rfl⟩
      rw [← hfilter]
      exact List.mem_filter.2 ⟨hspelled.mem_of_get? himage, hpoint⟩

theorem isFiller_of_mem_decompose (h : isFiller c) (hne : c ≠ '\u00B4') (ha : a ∈ decompose c) :
    isFiller a := by
  have himages : ∀ entry ∈ fillerDecompositions,
      entry.1 = 0xB4 ∨ ∀ n ∈ entry.2, isFiller (Char.ofNat n) := by decide
  rcases decompose_of_isFiller h with heq | ⟨image, hmem, heq⟩
  · rw [heq, List.mem_singleton] at ha
    rwa [ha]
  · rw [heq] at ha
    obtain ⟨n, hn, rfl⟩ := List.mem_map.1 ha
    rcases himages _ hmem with hacute | hfillers
    · exact absurd (Char.toNat_inj.1 hacute) hne
    · exact hfillers n hn

theorem exists_decompose_cons (h : isFiller c) :
    ∃ a rest, decompose c = a :: rest ∧ isFiller a := by
  have himages : ∀ entry ∈ fillerDecompositions,
      ∀ n ∈ entry.2.head?, isFiller (Char.ofNat n) := by decide
  have hnonempty : ∀ entry ∈ fillerDecompositions, entry.2 ≠ [] := by decide
  rcases decompose_of_isFiller h with heq | ⟨image, hmem, heq⟩
  · exact ⟨c, [], heq, h⟩
  · obtain ⟨n, rest, himage⟩ := List.exists_cons_of_ne_nil (hnonempty _ hmem)
    have himage : image = n :: rest := himage
    refine ⟨Char.ofNat n, rest.map Char.ofNat, ?_, himages _ hmem n (by rw [himage]; rfl)⟩
    rw [heq, himage, List.map_cons]

theorem compatibilityForm_append_filler (h : isFiller c) (u v : List Char) :
    compatibilityForm (u ++ c :: v) = compatibilityForm u ++ compatibilityForm (c :: v) := by
  obtain ⟨a, rest, hdecompose, ha⟩ := exists_decompose_cons h
  have hinert := inert_of_isFiller ha
  rw [compatibilityForm_cons hinert hdecompose, compatibilityForm, List.flatMap_append,
    List.flatMap_cons, hdecompose, List.cons_append]
  exact composed_append_inert hinert _ _

theorem compatibilityForm_filler_cons (h : isFiller c) (hne : c ≠ '\u00B4') (v : List Char) :
    compatibilityForm (c :: v) = decompose c ++ compatibilityForm v := by
  rw [compatibilityForm, List.flatMap_cons]
  exact composed_inert_append (fun a ha => inert_of_isFiller (isFiller_of_mem_decompose h hne ha)) _

theorem decompose_acute : decompose '\u00B4' = [' ', '\u0301'] := by
  obtain ⟨texts, hspelled, hascends, hfilter⟩ := decompositions_spelled
  have hentry : ('\u00B4'.toNat, [0x20, 0x301]) ∈ texts.flatMap Mapping.written := by
    refine List.mem_of_mem_filter (p := (isFillerPoint ·.1)) ?_
    rw [hfilter]
    exact List.mem_cons_self
  have hget : decompositionTable.get? '\u00B4' = some [' ', '\u0301'] := by
    rw [decompositionTable, Mapping.get?_map, hspelled.get?_eq_some hascends hentry]
    rfl
  rw [decompose, if_neg (by decide), if_neg (by decide), hget]
  rfl

theorem compatibilityForm_acute_cons (v : List Char) :
    compatibilityForm ('\u00B4' :: v) = ' ' :: composed ('\u0301' :: v.flatMap decompose) :=
  compatibilityForm_cons (inert_of_isFiller rfl) decompose_acute v

theorem combiningClass_acute : combiningClass '\u0301' ≠ 0 := by
  obtain ⟨texts, hspelled, hascends, hfilter⟩ := combiningClasses_spelled
  have hentry : ('\u0301'.toNat, [0xE6]) ∈ texts.flatMap Mapping.written := by
    refine List.mem_of_mem_filter
      (p := fun entry => entry.1 = 0x301 || isFillerPoint entry.1) ?_
    rw [hfilter]
    exact List.mem_cons_self
  have hget : combiningClassTable.get? '\u0301' = some 0xE6 := by
    rw [combiningClassTable, Mapping.get?_map, hspelled.get?_eq_some hascends hentry]
    rfl
  rw [combiningClass, if_neg (by decide), hget]
  decide

theorem lowercaseTable_get? {image : List Char} (h : lowercaseTable.get? c = some image) :
    c ≠ '\u0301' ∧ '\u0301' ∉ image := by
  obtain ⟨texts, hspelled, hall⟩ := lowercase_spelled
  rw [lowercaseTable, Mapping.get?_map] at h
  obtain ⟨points, hget, rfl⟩ := Option.map_eq_some_iff.1 h
  have hentry : ∀ n ∈ c.toNat :: points, n ≠ 0x301 := by
    simpa using List.all_eq_true.1 hall _ (hspelled.mem_of_get? hget)
  refine ⟨?_, fun hmem => ?_⟩
  · rintro rfl
    exact hentry _ List.mem_cons_self rfl
  · obtain ⟨n, hn, hchar⟩ := List.mem_map.1 hmem
    by_cases hvalid : n.isValidChar
    · rw [Char.ofNat, dif_pos hvalid] at hchar
      exact hentry n (List.mem_cons_of_mem _ hn) (congrArg Char.toNat hchar)
    · rw [Char.ofNat, dif_neg hvalid] at hchar
      exact absurd hchar (by decide)

theorem lowercase_acute : lowercase '\u0301' = ['\u0301'] := by
  rw [lowercase, if_neg (by decide)]
  cases himage : lowercaseTable.get? '\u0301' with
  | none => rfl
  | some image => exact absurd rfl (lowercaseTable_get? himage).1

theorem acute_not_mem_lowercase (hne : c ≠ '\u0301') : '\u0301' ∉ lowercase c := by
  unfold lowercase
  split
  · rename_i hascii
    have hne : lowercaseAscii c ≠ '\u0301' :=
      of_isAscii (P := fun c => lowercaseAscii c ≠ '\u0301') (by decide +kernel)
        (decide_eq_true hascii)
    simpa using Ne.symm hne
  · cases himage : lowercaseTable.get? c with
    | none => simpa using Ne.symm hne
    | some image => exact (lowercaseTable_get? himage).2

end

end Licensing.Unicode
