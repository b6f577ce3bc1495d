import Licensing.Text.Token
import Licensing.Text.Whitespace
import Licensing.Unicode.Lowercase
import Licensing.Unicode.Property

namespace Licensing.Template

open Licensing.Text Licensing.Unicode

/-- A place in a template: the line, counted from one, and the column, counted from zero. -/
structure Cursor where
  line : Nat := 1
  column : Nat := 0
  deriving DecidableEq, Repr

def Cursor.advance (cursor : Cursor) : List Char → Cursor
  | [] => cursor
  | c :: cs =>
    Cursor.advance (if c = '\n' then ⟨cursor.line + 1, 0⟩ else ⟨cursor.line, cursor.column + 1⟩) cs

/-- A stretch of fixed text with its place, or the body of a rule with the line it starts on. -/
inductive Piece where
  | text (content : List Char) (position : Position)
  | rule (body : List Char) (line : Nat)
  deriving DecidableEq, Repr

def ruleNames : List (List Char) :=
  ["var".toList, "beginOptional".toList, "endOptional".toList]

/-- The name may be in any case and behind white space, and the word must end with it. -/
def opensRule : List Char → Bool
  | '<' :: '<' :: cs =>
    let rest := cs.dropWhile isWhitespace
    ruleNames.any fun name =>
      eqIgnoringAsciiCase (rest.take name.length) name && !(rest.drop name.length).head?.any isWord
  | _ => false

/-- The text in front of the first rule, and the rest from that rule on. -/
def beforeRule : List Char → List Char × List Char
  | [] => ([], [])
  | c :: cs =>
    if opensRule (c :: cs) then ([], c :: cs)
    else
      let (text, rest) := beforeRule cs
      (c :: text, rest)

/-- The body of a rule behind its `<<`, and what follows its `>>`, if the rule ends. -/
def takeBody (inQuote escaped : Bool) : List Char → Option (List Char × List Char)
  | [] => none
  | c :: cs =>
    let go (inQuote escaped : Bool) :=
      (takeBody inQuote escaped cs).map fun (body, rest) => (c :: body, rest)
    if escaped then go inQuote false
    else if c = '\\' ∧ inQuote then go inQuote true
    else if c = '"' then go (!inQuote) false
    else if c = '>' ∧ !inQuote ∧ cs.head? = some '>' then some ([], cs.tail)
    else go inQuote false

theorem beforeRule_append (s : List Char) : (beforeRule s).1 ++ (beforeRule s).2 = s := by
  induction s with
  | nil => rfl
  | cons c cs ih => simp only [beforeRule]; split <;> simp [ih]

theorem takeBody_length {inQuote escaped : Bool} {s body rest : List Char}
    (h : takeBody inQuote escaped s = some (body, rest)) : rest.length < s.length := by
  induction s generalizing inQuote escaped body with
  | nil => simp [takeBody] at h
  | cons c cs ih =>
    have step {q e : Bool} {body : List Char}
        (h : (takeBody q e cs).map (fun (body, rest) => (c :: body, rest)) = some (body, rest)) :
        rest.length < (c :: cs).length := by
      obtain ⟨⟨b, r⟩, hb, heq⟩ := Option.map_eq_some_iff.1 h
      cases heq
      exact Nat.lt_succ_of_lt (ih hb)
    simp only [takeBody] at h
    split at h
    · exact step h
    · split at h
      · exact step h
      · split at h
        · exact step h
        · split at h
          · cases h
            simp only [List.length_tail, List.length_cons]
            omega
          · exact step h

def textPiece (cursor : Cursor) (content : List Char) : List Piece :=
  if content.isEmpty then [] else [.text content ⟨cursor.line, cursor.column, content.length⟩]

/-- The pieces of the rest of a template, and the line of a rule that does not end. -/
def piecesFrom (cursor : Cursor) (s : List Char) : List Piece × Option Nat :=
  let text := (beforeRule s).1
  let start := cursor.advance text
  match _hs : (beforeRule s).2 with
  | [] => (textPiece cursor text, none)
  | _ :: rest =>
    match _hb : takeBody false false rest.tail with
    | none => (textPiece cursor text, some start.line)
    | some (body, rest') =>
      let (pieces, open?) := piecesFrom (start.advance ('<' :: '<' :: body ++ ['>', '>'])) rest'
      (textPiece cursor text ++ .rule body start.line :: pieces, open?)
termination_by s.length
decreasing_by
  have hlt := takeBody_length _hb
  have := congrArg List.length (beforeRule_append s)
  simp only [_hs, List.length_append, List.length_cons, List.length_tail] at this hlt
  omega

/-- The pieces of a template up to the first rule that does not end, and the line of that rule. -/
def pieces (template : List Char) : List Piece × Option Nat :=
  piecesFrom {} template

end Licensing.Template
