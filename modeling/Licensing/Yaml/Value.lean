import Licensing.Yaml.Scanner

namespace Licensing.Yaml

/-- A value of a document. Scalars are kept as they are written, tags are not. -/
inductive Value where
  | scalar (text : List Char) (style : Style) (tagged : Bool)
  | sequence (items : List Value)
  | mapping (pairs : List (Value × Value))
  deriving Inhabited

def Value.missing : Value :=
  .scalar [] .plain false

abbrev Anchors : Type := List (List Char × Value)

/-- The properties in front of a value: an anchor and whether there is a tag, in any order. -/
def properties (handles : List (List Char)) :
    List Token → Option (Option (List Char) × Bool × List Token)
  | .anchor a :: .tag h _ :: rest => if handles.contains h then some (some a, true, rest) else none
  | .tag h _ :: .anchor a :: rest => if handles.contains h then some (some a, true, rest) else none
  | .anchor a :: rest => some (some a, false, rest)
  | .tag h _ :: rest => if handles.contains h then some (none, true, rest) else none
  | rest => some (none, false, rest)

/-- In a block, in a block as the value of a key, or in a flow collection. -/
inductive Place where
  | block | blockValue | flow
  deriving DecidableEq

mutual

def parseValue (handles : List (List Char)) : (fuel : Nat) → Place → Anchors → List Token →
    Option (Value × Anchors × List Token)
  | 0, _, _, _ => none
  | fuel + 1, place, anchors, tokens =>
    match tokens with
    | .alias name :: rest => (anchors.lookup name).map (·, anchors, rest)
    | tokens => do
      let (anchor, tagged, tokens) ← properties handles tokens
      let (value, anchors, rest) ← match tokens, place with
        | .blockEntry :: _, .blockValue => parseIndentless handles fuel anchors tokens
        | .scalar text style :: rest, _ => some (.scalar text style tagged, anchors, rest)
        | .flowSequenceStart :: rest, _ => parseFlowSequence handles fuel true anchors rest
        | .flowMappingStart :: rest, _ => parseFlowMapping handles fuel true anchors rest
        | .blockSequenceStart :: rest, .block | .blockSequenceStart :: rest, .blockValue =>
          parseBlockSequence handles fuel anchors rest
        | .blockMappingStart :: rest, .block | .blockMappingStart :: rest, .blockValue =>
          parseBlockMapping handles fuel anchors rest
        | rest, _ =>
          if anchor.isSome ∨ tagged then some (.scalar [] .plain tagged, anchors, rest) else none
      match anchor with
      | some name => return (value, (name, value) :: anchors, rest)
      | none => return (value, anchors, rest)

def parseUnless (handles : List (List Char)) : (fuel : Nat) → (stops : List Token) → Place →
    Anchors → List Token → Option (Value × Anchors × List Token)
  | 0, _, _, _, _ => none
  | fuel + 1, stops, place, anchors, tokens =>
    if tokens.head?.all stops.contains then some (.missing, anchors, tokens)
    else parseValue handles fuel place anchors tokens

def parseBlockSequence (handles : List (List Char)) : (fuel : Nat) → Anchors → List Token →
    Option (Value × Anchors × List Token)
  | 0, _, _ => none
  | fuel + 1, anchors, tokens =>
    match tokens with
    | .blockEntry :: rest => do
      let (item, anchors, rest) ←
        parseUnless handles fuel [.blockEntry, .blockEnd] .block anchors rest
      match ← parseBlockSequence handles fuel anchors rest with
      | (.sequence items, anchors, rest) => return (.sequence (item :: items), anchors, rest)
      | _ => none
    | .blockEnd :: rest => some (.sequence [], anchors, rest)
    | _ => none

def parseIndentless (handles : List (List Char)) : (fuel : Nat) → Anchors → List Token →
    Option (Value × Anchors × List Token)
  | 0, _, _ => none
  | fuel + 1, anchors, tokens =>
    match tokens with
    | .blockEntry :: rest => do
      let (item, anchors, rest) ←
        parseUnless handles fuel [.blockEntry, .key, .value, .blockEnd] .block anchors rest
      match ← parseIndentless handles fuel anchors rest with
      | (.sequence items, anchors, rest) => return (.sequence (item :: items), anchors, rest)
      | _ => none
    | rest => some (.sequence [], anchors, rest)

def parseBlockMapping (handles : List (List Char)) : (fuel : Nat) → Anchors → List Token →
    Option (Value × Anchors × List Token)
  | 0, _, _ => none
  | fuel + 1, anchors, tokens => do
    if tokens.head? = some .blockEnd then return (.mapping [], anchors, tokens.tail)
    let stops : List Token := [.key, .value, .blockEnd]
    let (key, anchors, tokens) ← match tokens with
      | .key :: rest => parseUnless handles fuel stops .blockValue anchors rest
      | .value :: _ => some (.missing, anchors, tokens)
      | _ => none
    let (value, anchors, tokens) ← match tokens with
      | .value :: rest => parseUnless handles fuel stops .blockValue anchors rest
      | _ => some (.missing, anchors, tokens)
    match ← parseBlockMapping handles fuel anchors tokens with
    | (.mapping pairs, anchors, rest) => return (.mapping ((key, value) :: pairs), anchors, rest)
    | _ => none

def parseFlowPair (handles : List (List Char)) : (fuel : Nat) → Token → Anchors → List Token →
    Option ((Value × Value) × Anchors × List Token)
  | 0, _, _, _ => none
  | fuel + 1, close, anchors, tokens => do
    let (key, anchors, tokens) ←
      parseUnless handles fuel [.value, .flowEntry, close] .flow anchors tokens
    match tokens with
    | .value :: rest =>
      let (value, anchors, rest) ← parseUnless handles fuel [.flowEntry, close] .flow anchors rest
      return ((key, value), anchors, rest)
    | rest => return ((key, .missing), anchors, rest)

def parseFlowSequence (handles : List (List Char)) : (fuel : Nat) → (first : Bool) → Anchors →
    List Token → Option (Value × Anchors × List Token)
  | 0, _, _, _ => none
  | fuel + 1, first, anchors, tokens => do
    if tokens.head? = some .flowSequenceEnd then return (.sequence [], anchors, tokens.tail)
    let tokens ← if first then some tokens else match tokens with
      | .flowEntry :: rest => some rest
      | _ => none
    if tokens.head? = some .flowSequenceEnd then return (.sequence [], anchors, tokens.tail)
    let (item, anchors, tokens) ← match tokens with
      | .key :: rest =>
        (parseFlowPair handles fuel .flowSequenceEnd anchors rest).map
          fun (pair, anchors, rest) => (Value.mapping [pair], anchors, rest)
      | tokens => parseValue handles fuel .flow anchors tokens
    match ← parseFlowSequence handles fuel false anchors tokens with
    | (.sequence items, anchors, rest) => return (.sequence (item :: items), anchors, rest)
    | _ => none

def parseFlowMapping (handles : List (List Char)) : (fuel : Nat) → (first : Bool) → Anchors →
    List Token → Option (Value × Anchors × List Token)
  | 0, _, _, _ => none
  | fuel + 1, first, anchors, tokens => do
    if tokens.head? = some .flowMappingEnd then return (.mapping [], anchors, tokens.tail)
    let tokens ← if first then some tokens else match tokens with
      | .flowEntry :: rest => some rest
      | _ => none
    if tokens.head? = some .flowMappingEnd then return (.mapping [], anchors, tokens.tail)
    let (pair, anchors, tokens) ← match tokens with
      | .key :: rest => parseFlowPair handles fuel .flowMappingEnd anchors rest
      | tokens =>
        (parseValue handles fuel .flow anchors tokens).map
          fun (key, anchors, rest) => ((key, Value.missing), anchors, rest)
    match ← parseFlowMapping handles fuel false anchors tokens with
    | (.mapping pairs, anchors, rest) => return (.mapping (pair :: pairs), anchors, rest)
    | _ => none

end

def directives : List Token → Option (List (List Char)) × List Token
  | .versionDirective :: rest =>
    let (handles, rest) := directives rest
    (some (handles.getD []), rest)
  | .tagDirective handle :: rest =>
    let (handles, rest) := directives rest
    (some (handle :: handles.getD []), rest)
  | rest => (none, rest)

def defaultHandles : List (List Char) := [[], ['!'], ['!', '!']]

def parse (text : List Char) : Option Value := do
  let (declared, tokens) := directives (← scan text).toList
  let tokens ← match tokens, declared with
    | .documentStart :: rest, _ => some rest
    | [], _ => none
    | tokens, none => some tokens
    | _, some _ => none
  let stops : List Token := [.documentStart, .documentEnd, .versionDirective]
  let fuel := 3 * tokens.length + 3
  let (value, _, rest) ←
    parseUnless (declared.getD [] ++ defaultHandles) fuel stops .block [] tokens
  if (rest.dropWhile (· = .documentEnd)).isEmpty then return value else none

end Licensing.Yaml
