import Licensing.Text.Document

namespace Licensing.Text

namespace Document

def texts (d : Document) : List String :=
  d.tokens.toList.map (·.text)

theorem getElem?_texts (d : Document) (i : Nat) : d.texts[i]? = d.text? i := by
  rw [texts, List.getElem?_map, Array.getElem?_toList]
  rfl

@[simp] theorem length_texts (d : Document) : d.texts.length = d.size := by
  rw [texts, List.length_map]
  rfl

def rangeTexts (d : Document) (start stop : Nat) : List String :=
  (d.tokens.extract start stop).toList.map (·.text)

section

variable {d : Document} {i j k : Nat}

theorem getElem?_rangeTexts :
    (d.rangeTexts i j)[k]? = if k < j - i then d.text? (i + k) else none := by
  rw [rangeTexts, Array.toList_extract, List.extract_eq_take_drop, List.getElem?_map,
    List.getElem?_take]
  split
  · rw [List.getElem?_drop, Array.getElem?_toList]
    rfl
  · rfl

theorem rangeTexts_eq_nil (h : j ≤ i) : d.rangeTexts i j = [] := by
  have hempty : j - i = 0 := by omega
  rw [rangeTexts, Array.toList_extract, List.extract_eq_take_drop, hempty, List.take_zero,
    List.map_nil]

theorem rangeTexts_append (hij : i ≤ j) (hjk : j ≤ k) :
    d.rangeTexts i j ++ d.rangeTexts j k = d.rangeTexts i k := by
  rw [rangeTexts, rangeTexts, ← List.map_append, ← Array.toList_append,
    Array.extract_append_extract, Nat.min_eq_left hij, Nat.max_eq_right hjk]
  rfl

end

end Document

end Licensing.Text
