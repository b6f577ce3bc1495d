import Licensing.Pattern.Engine
import Licensing.Unicode.Lowercase

namespace Licensing.Template

open Licensing.Text Licensing.Unicode Licensing.Pattern

variable [Engine]

/-- What can be wrong with the form of a rule. -/
inductive Fault where
  | fieldWithoutEquals (field : List Char)
  | openQuote
  | missingClosingQuote (value : List Char)
  | refused (reason : String)
  deriving DecidableEq, Repr

def Fault.message : Fault → String
  | .fieldWithoutEquals field => "field '" ++ String.ofList field ++ "' has no '='"
  | .openQuote => "unterminated quoted value"
  | .missingClosingQuote value => "value " ++ String.ofList value ++ " is missing its closing quote"
  | .refused reason => reason

/-- What the engine says of a pattern that does not compile, and the line of its rule. -/
structure Refusal where
  line : Nat
  diagnosis : String
  deriving DecidableEq, Repr

/-- Why a template cannot be read, with the line of the rule that is at fault. -/
inductive TemplateError where
  | unterminatedRule (line : Nat)
  | unknownRule (kind : List Char) (line : Nat)
  | malformedRule (fault : Fault) (line : Nat)
  | missingVariableName (line : Nat)
  | invalidPattern (name pattern : List Char) (refusal : Refusal)
  | unexpectedEnd (line : Nat)
  | unterminatedOptional (line : Nat)
  deriving DecidableEq, Repr

namespace TemplateError

def line : TemplateError → Nat
  | unterminatedRule line | unknownRule _ line | malformedRule _ line | missingVariableName line
  | unexpectedEnd line | unterminatedOptional line => line
  | invalidPattern _ _ refusal => refusal.line

def message : TemplateError → String
  | unterminatedRule line => s!"rule starting at line {line} is missing its closing '>>'"
  | unknownRule kind line => "unknown rule type '" ++ String.ofList kind ++ s!"' at line {line}"
  | malformedRule fault line => s!"malformed rule at line {line}: " ++ fault.message
  | missingVariableName line => s!"variable rule at line {line} has no name"
  | invalidPattern name pattern refusal =>
    "variable '" ++ String.ofList name ++ s!"' at line {refusal.line}" ++
      " has an invalid match pattern '" ++ String.ofList pattern ++ "': " ++ refusal.diagnosis
  | unexpectedEnd line => s!"<<endOptional>> at line {line} has no matching <<beginOptional>>"
  | unterminatedOptional line =>
    s!"<<beginOptional>> at line {line} is never closed by <<endOptional>>"

end TemplateError

/-- Bounds on a number of characters. -/
structure LengthLimit where
  min : Nat
  max : Option Nat
  deriving DecidableEq, Repr

def LengthLimit.allows (l : LengthLimit) (count : Nat) : Bool :=
  l.min ≤ count && l.max.all (count ≤ ·)

/-- The rule that opens an optional region. -/
structure OptionalRule where
  name : Option (List Char)
  line : Nat
  deriving DecidableEq, Repr

/-- A rule for a variable part of a text, with its text in the template's own license. -/
structure VariableRule where
  name : List Char
  defaultText : List Char
  sample : Option (List Char)
  pattern : List Char
  regex : Regex Atom
  limit : Option LengthLimit
  line : Nat
  parses : parseWhole pattern = some regex

namespace VariableRule

def accepts (r : VariableRule) (s : List Char) : Bool :=
  match r.limit with
  | some limit => limit.allows s.length
  | none => Engine.matchesIn r.regex s

def anyText : List Char :=
  "(?s:.*)".toList

def charsPattern (min max : Nat) : List Char :=
  "(?s:.)\x7b".toList ++ (toString min).toList ++ ',' :: (toString max).toList ++ ['\x7d']

/-- The largest number that is read as a count in the short form. -/
def maxCount : Nat := UInt64.size - 1

/-- Digits of other scripts and numbers too large stand for none. -/
def count? (digits : List Char) : Option Nat :=
  if !digits.isEmpty && digits.all isAsciiDigit && decimalValue digits ≤ maxCount then
    some (decimalValue digits)
  else none

/-- Whether a text ends in an odd number of backslashes, so that the next character is escaped. -/
def endsWithEscape (s : List Char) : Bool :=
  (s.reverse.takeWhile (· = '\\')).length % 2 = 1

/-- What stands before a final dot with two counts in braces, and the counts. -/
def shorthand? (pattern : List Char) : Option (List Char × Nat × Nat) :=
  match pattern.reverse with
  | '\x7d' :: rest =>
    match rest.dropWhile isDigit with
    | ',' :: rest' =>
      match rest'.dropWhile isDigit with
      | '\x7b' :: '.' :: before =>
        if endsWithEscape before.reverse then none
        else do
          let min ← count? (rest'.takeWhile isDigit).reverse
          let max ← count? (rest.takeWhile isDigit).reverse
          return (before.reverse, min, max)
      | _ => none
    | _ => none
  | _ => none

/-- A pattern with its final dot written out, and the limit if it is nothing else. -/
def expand (pattern : List Char) : List Char × Option LengthLimit :=
  match shorthand? pattern with
  | some (before, min, max) =>
    (before ++ charsPattern min max, if before.isEmpty then some ⟨min, some max⟩ else none)
  | none => (pattern, none)

/-- Builds the rule of a variable. Without a pattern it accepts any text. -/
def build (name defaultText : List Char) (pattern? : Option (List Char)) (line : Nat)
    (sample : Option (List Char) := none) : Except TemplateError VariableRule :=
  if isBlank name then .error (.missingVariableName line)
  else
    let (pattern, limit) := match pattern? with
      | none => (anyText, some ⟨0, none⟩)
      | some pattern => expand pattern
    match h : Engine.compile? pattern with
    | some regex =>
      .ok {
        name, defaultText, sample, pattern, regex, limit, line,
        parses := Engine.parseWhole_of_compile? h }
    | none => .error (.invalidPattern name pattern ⟨line, Engine.diagnosis pattern⟩)

end VariableRule

inductive Rule where
  | variable (rule : VariableRule)
  | beginOptional (rule : OptionalRule)
  | endOptional

/-- Splits at the semicolons outside quotes; there is no result if a quote stays open. -/
def fieldsFrom (field : List Char) (inQuote escaped : Bool) : List Char → Option (List (List Char))
  | [] => if inQuote then none else some [field.reverse]
  | c :: cs =>
    if escaped then fieldsFrom (c :: field) inQuote false cs
    else if c = '\\' ∧ inQuote then fieldsFrom (c :: field) inQuote true cs
    else if c = '"' then fieldsFrom (c :: field) (!inQuote) false cs
    else if c = ';' ∧ !inQuote then (fieldsFrom [] false false cs).map (field.reverse :: ·)
    else fieldsFrom (c :: field) inQuote false cs

def fields? (body : List Char) : Option (List (List Char)) :=
  fieldsFrom [] false false body

def unescapeQuotes : List Char → List Char
  | '\\' :: '"' :: cs => '"' :: unescapeQuotes cs
  | c :: cs => c :: unescapeQuotes cs
  | [] => []

def unquote (value : List Char) : Except Fault (List Char) :=
  match value with
  | '"' :: inner =>
    if inner.getLast? = some '"' then .ok (unescapeQuotes inner.dropLast)
    else .error (.missingClosingQuote value)
  | value => .ok value

def parseField (field : List Char) : Except Fault (List Char × List Char) :=
  match field.dropWhile (· ≠ '=') with
  | [] => .error (.fieldWithoutEquals field)
  | _ :: value =>
    (unquote (trim value)).map fun v => ((trim (field.takeWhile (· ≠ '='))).map lowercaseAscii, v)

/-- The attributes that the fields of a rule give, blank fields aside. -/
def parseFields : List (List Char) → Except Fault (List (List Char × List Char))
  | [] => .ok []
  | field :: rest => do
    if isBlank field then parseFields rest
    else
      let first ← parseField (trim field)
      return first :: (← parseFields rest)

def Rule.parse (body : List Char) (line : Nat) : Except TemplateError Rule :=
  match fields? body with
  | none => .error (.malformedRule .openQuote line)
  | some fields =>
    match parseFields fields.tail with
    | .error fault => .error (.malformedRule fault line)
    | .ok attributes =>
      let kind := trim (fields.headD [])
      if eqIgnoringAsciiCase kind "var".toList then
        match attributes.lookup "name".toList with
        | none => .error (.missingVariableName line)
        | some name =>
          let defaultText := (attributes.lookup "original".toList).getD []
          let pattern? := attributes.lookup "match".toList
          let sample := attributes.lookup "example".toList
          (VariableRule.build name defaultText pattern? line sample).map .variable
      else if eqIgnoringAsciiCase kind "beginOptional".toList then
        .ok (.beginOptional ⟨attributes.lookup "name".toList, line⟩)
      else if eqIgnoringAsciiCase kind "endOptional".toList then .ok .endOptional
      else .error (.unknownRule kind line)

end Licensing.Template
