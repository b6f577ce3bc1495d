import Licensing.Configuration.Basic
import Licensing.Yaml.Value

namespace Licensing.Configuration

open Text Matching Yaml

def scalarText? : Value → Option (List Char)
  | .scalar text _ _ => some text
  | _ => none

/-- The entries of a section. The keys must be scalars, and the known ones must differ. -/
def entries? (known : List String) (v : Value) : Option (List (String × Value)) :=
  match v with
  | .mapping pairs => do
    let entries ← pairs.mapM fun (key, value) => do
      return (String.ofList (← scalarText? key), value)
    let used := (entries.map (·.1)).filter known.contains
    if used.Nodup then return entries else none
  | .scalar [] .plain _ => some []
  | _ => none

def bool? : Value → Option Bool
  | .scalar text .plain _ =>
    let text := String.ofList text
    if ["true", "True", "TRUE"].contains text then some true
    else if ["false", "False", "FALSE"].contains text then some false
    else none
  | _ => none

def digitValue? (c : Char) : Option Nat :=
  Scanner.hexDigitValue? c

def numberInBase? (base : Nat) (digits : List Char) : Option Nat :=
  if digits.isEmpty then none
  else digits.foldlM (fun n c => do
    let d ← digitValue? c
    if d < base then return base * n + d else none) 0

/-- Decimal without needless zeros, or hexadecimal, octal or binary behind its mark. -/
def natural? (text : List Char) : Option Nat :=
  let digits := match text with
    | '+' :: rest => rest
    | text => text
  match digits with
  | '0' :: 'x' :: rest => numberInBase? 16 rest
  | '0' :: 'o' :: rest => numberInBase? 8 rest
  | '0' :: 'b' :: rest => numberInBase? 2 rest
  | '0' :: _ :: _ => none
  | digits => numberInBase? 10 digits

def naturalBelow? (bound : Nat) : Value → Option Nat
  | .scalar text .plain _ => do
    let n ← natural? text
    if n < bound then return n else none
  | _ => none

/-- Nothing, a tilde and `null` stand for no text. -/
def optionalText? : Value → Option (Option String)
  | .scalar text style tagged =>
    let text := String.ofList text
    if style = .plain ∧ !tagged ∧ ["", "~", "null", "Null", "NULL"].contains text then some none
    else some (some text)
  | _ => none

def entryOr {α : Type} (entries : List (String × Value)) (key : String) (default : α)
    (decode : Value → Option α) : Option α :=
  match entries.lookup key with
  | some v => decode v
  | none => some default

def folding? (v : Value) : Option Folding := do
  let entries ← entries? ["version", "normalize_unicode", "fold_equivalent_words"] v
  let version ← entryOr entries "version" 1 (naturalBelow? UInt32.size)
  let unicode ← entryOr entries "normalize_unicode" true bool?
  let words ← entryOr entries "fold_equivalent_words" true bool?
  return { version, unicode, words }

def matcherSection? (v : Value) : Option MatcherSection := do
  let entries ← entries? ["version", "context_tokens"] v
  let version ← entryOr entries "version" 1 (naturalBelow? UInt32.size)
  let contextTokens ← entryOr entries "context_tokens" 6 fun v =>
    (naturalBelow? UInt64.size v).map Nat.toUInt64
  return { version, contextTokens }

def scanSettings? (v : Value) : Option ScanSettings := do
  let entries ← entries? ["parallel", "include_deprecated"] v
  let parallel ← entryOr entries "parallel" true bool?
  let includeDeprecated ← entryOr entries "include_deprecated" true bool?
  return { parallel, includeDeprecated }

/-- Reads a configuration from a value. Only the version of the format must be given. -/
def ofValue? (v : Value) : Option Configuration := do
  let entries ← entries? ["version", "name", "text", "matcher", "scan"] v
  let version ← (entries.lookup "version").bind scalarText?
  let name ← entryOr entries "name" none optionalText?
  let text ← entryOr entries "text" {} folding?
  let matcher ← entryOr entries "matcher" {} matcherSection?
  let scan ← entryOr entries "scan" {} scanSettings?
  return { version := String.ofList version, name, text, matcher, scan }

def ofYaml (text : List Char) : Except ConfigurationError Configuration := do
  let some c := (parse text).bind ofValue? | .error .malformed
  c.check
  return c

end Licensing.Configuration
