import Licensing.Template.Node
import Mathlib.Data.List.Infix

namespace Licensing.Template

open Licensing.Text Licensing.Pattern

variable [Engine]

def escapeQuotes : List Char → List Char
  | [] => []
  | c :: cs => if c = '"' then '\\' :: '"' :: escapeQuotes cs else c :: escapeQuotes cs

def writeField (field : List Char × List Char) : List Char :=
  field.1 ++ '=' :: '"' :: escapeQuotes field.2 ++ ['"']

def writeBody (kind : List Char) (fields : List (List Char × List Char)) : List Char :=
  kind ++ fields.flatMap fun field => ';' :: writeField field

def writeRule (kind : List Char) (fields : List (List Char × List Char)) : List Char :=
  '<' :: '<' :: writeBody kind fields ++ ['>', '>']

def optionalFields (name : Option (List Char)) : List (List Char × List Char) :=
  name.toList.map ("name".toList, ·)

def variableFields (name pattern defaultText : List Char) (sample : Option (List Char)) :
    List (List Char × List Char) :=
  [("name".toList, name), ("original".toList, defaultText), ("match".toList, pattern)] ++
    sample.toList.map ("example".toList, ·)

/-- A text that stands for a list of nodes. The fields of a variable may have any order. -/
inductive Written : List Node → List Char → Prop where
  | nil : Written [] []
  | text {content : List Char} {nodes : List Node} {s : List Char} (h : Written nodes s) :
      Written (.text content :: nodes) (content ++ s)
  | optional {name : Option (List Char)} {children nodes : List Node} {inner s : List Char}
      (hchildren : Written children inner) (h : Written nodes s) :
      Written (.optional name children :: nodes)
        (writeRule "beginOptional".toList (optionalFields name) ++ inner ++
          writeRule "endOptional".toList [] ++ s)
  | «variable» {name pattern defaultText : List Char} {sample : Option (List Char)}
      {nodes : List Node} {s : List Char} {fields : List (List Char × List Char)}
      (hfields : fields.Perm (variableFields name pattern defaultText sample))
      (h : Written nodes s) :
      Written (.variable name pattern defaultText sample :: nodes)
        (writeRule "var".toList fields ++ s)

/-- Runs of backslashes in front of a quote or at the end of a value have even lengths. -/
def BackslashesPaired (value : List Char) : Prop :=
  ∀ i ≤ value.length, value[i]?.all (· = '"') →
    VariableRule.endsWithEscape (value.take i) = false

instance (value : List Char) : Decidable (BackslashesPaired value) :=
  inferInstanceAs (Decidable (∀ i ≤ value.length, _ → _))

/-- No rule starts in a text. -/
def HasNoRule (content : List Char) : Prop :=
  ∀ rest, rest <:+ content → opensRule rest = false

instance (content : List Char) : Decidable (HasNoRule content) :=
  decidable_of_iff (∀ rest ∈ content.tails, opensRule rest = false) <| by
    simp only [HasNoRule, List.mem_tails]

def Node.isText : Node → Bool
  | .text _ => true
  | _ => false

/-- A list of nodes that can be written down and read back. -/
inductive Writable : List Node → Prop where
  | nil : Writable []
  | text {content : List Char} {nodes : List Node} (hcontent : content ≠ [])
      (hrules : HasNoRule content) (hnext : nodes.head?.all (!·.isText)) (h : Writable nodes) :
      Writable (.text content :: nodes)
  | optional {name : Option (List Char)} {children nodes : List Node}
      (hfields : ∀ field ∈ optionalFields name, BackslashesPaired field.2)
      (hchildren : Writable children) (h : Writable nodes) :
      Writable (.optional name children :: nodes)
  | «variable» {name pattern defaultText : List Char} {sample : Option (List Char)}
      {nodes : List Node} (hname : isBlank name = false)
      (hfields : ∀ field ∈ variableFields name pattern defaultText sample,
        BackslashesPaired field.2)
      (hpattern : (Engine.compile? pattern).isSome) (hlong : VariableRule.shorthand? pattern = none)
      (h : Writable nodes) :
      Writable (.variable name pattern defaultText sample :: nodes)

end Licensing.Template
