import Licensing.Proofs.Excerpts

namespace Licensing.Text

section

variable (f : Folding) (u v : List Char)

theorem byteLength_stripComments : byteLength (stripComments u) = byteLength u :=
  byteLength_of_forall₂ (forall₂_blankedTo_stripComments u)

theorem length_lines_stripComments : (lines (stripComments u)).length = (lines u).length := by
  rw [lines_stripComments, List.length_map]

theorem strippedTokens_behind_lineFeed : strippedTokens f (u ++ '\n' :: v) =
    strippedTokens f u ++
      (strippedTokens f v).map (·.moved (lines u).length 0 (byteLength u + 1)) := by
  rw [strippedTokens, stripComments_append_lineFeed, tokenize_behind_lineFeed,
    length_lines_stripComments, byteLength_stripComments]
  rfl

end

/-- The tokens of two texts around a line feed are those of each, the second ones moved. -/
theorem tokens_ofText_line_by_line (f : Folding) (u v : List Char) :
    (Document.ofText f (u ++ '\n' :: v)).tokens.toList =
        (Document.ofText f u).tokens.toList ++ (Document.ofText f v).tokens.toList.map
          (·.moved (lines u).length 0 (byteLength u + 1)) ∧
      ∀ line, (Document.ofText f (u ++ '\n' :: (line ++ '\n' :: v))).tokens.toList =
        (Document.ofText f u).tokens.toList ++
          ((Document.ofText f line).tokens.toList.map
              (·.moved (lines u).length 0 (byteLength u + 1)) ++
            (Document.ofText f v).tokens.toList.map (·.moved
              ((lines line).length + (lines u).length) 0
              (byteLength line + 1 + (byteLength u + 1)))) := by
  have htokens (s : List Char) : (Document.ofText f s).tokens.toList = strippedTokens f s := rfl
  simp only [htokens, strippedTokens_behind_lineFeed]
  refine ⟨trivial, fun line => ?_⟩
  rw [List.map_append, List.map_map]
  exact congrArg _ (congrArg _ (List.map_congr_left fun t _ => t.moved_moved _ _ _ _ _ _))

end Licensing.Text
