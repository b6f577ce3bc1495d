import Licensing.Yaml.Token

namespace Licensing.Yaml

namespace Scanner

/-- Forgets the keys that can no more be one, because their line has ended or they are too long. -/
def dropStaleKeys (s : Scanner) : Option Scanner := do
  let keys ← s.keys.mapM fun
    | none => some none
    | some key =>
      if s.line ≤ key.line ∧ s.index ≤ key.index + 1024 then some (some key)
      else if key.required then none
      else some none
  return { s with keys }

def removeKey (s : Scanner) : Option Scanner :=
  match s.keys with
  | some key :: rest => if key.required then none else some { s with keys := none :: rest }
  | _ => some s

def saveKey (s : Scanner) : Option Scanner :=
  if s.keyAllowed then do
    let required := s.flow = 0 && s.indent = s.column
    let s ← s.removeKey
    let key : SimpleKey := ⟨s.tokens.size, s.index, s.line, s.column, required⟩
    return { s with keys := some key :: s.keys.tail }
  else some s

/-- Opens a block collection if the column is further right than the one around it. -/
def roll (s : Scanner) (column place : Nat) (start : Token) : Scanner :=
  if s.flow = 0 ∧ s.indent < column then
    { s with
      indents := s.indent :: s.indents
      indent := column
      tokens := s.tokens.insertIdxIfInBounds place start }
  else s

def unrollList (column indent : Int) (tokens : Array Token) :
    List Int → Int × List Int × Array Token
  | [] => (indent, [], tokens)
  | outer :: rest =>
    if column < indent then unrollList column outer (tokens.push .blockEnd) rest
    else (indent, outer :: rest, tokens)

def unroll (s : Scanner) (column : Int) : Scanner :=
  if s.flow ≠ 0 then s
  else
    let (indent, indents, tokens) := unrollList column s.indent s.tokens s.indents
    { s with indent, indents, tokens }

def toNextToken : (fuel : Nat) → Scanner → Scanner
  | 0, s => s
  | fuel + 1, s =>
    match s.rest with
    | '\uFEFF' :: _ => if s.column = 0 then toNextToken fuel s.skip else s
    | ' ' :: _ => toNextToken fuel s.skip
    | '\t' :: _ => if s.flow ≠ 0 ∨ !s.keyAllowed then toNextToken fuel s.skip else s
    | '#' :: _ =>
      let comment := s.rest.takeWhile (!isBreak ·)
      toNextToken fuel (s.skipMany comment.length)
    | c :: _ =>
      if isBreak c then
        let s := s.skipBreak
        toNextToken fuel (if s.flow = 0 then { s with keyAllowed := true } else s)
      else s
    | [] => s

/-- Blanks if there is no line break, one blank for a single break, or the further breaks. -/
structure Gap where
  blanks : List Char := []
  firstBreak : List Char := []
  moreBreaks : List Char := []
  hasBreak : Bool := false

def Gap.text (g : Gap) : List Char :=
  if g.hasBreak then
    if g.firstBreak = ['\n'] then if g.moreBreaks.isEmpty then [' '] else g.moreBreaks
    else g.firstBreak ++ g.moreBreaks
  else g.blanks

/-- A tab further left than `indent` after a line break is an error. -/
def readGap (indent : Int) : (fuel : Nat) → Gap → Scanner → Option (Gap × Scanner)
  | 0, _, _ => none
  | fuel + 1, g, s =>
    match s.rest with
    | [] => some (g, s)
    | c :: _ =>
      if isBlank c then
        if g.hasBreak then
          if c = '\t' ∧ (s.column : Int) < indent then none else readGap indent fuel g s.skip
        else readGap indent fuel { g with blanks := g.blanks ++ [c] } s.skip
      else if isBreak c then
        let text := s.breakText
        let g := if g.hasBreak then { g with moreBreaks := g.moreBreaks ++ text }
          else { g with blanks := [], firstBreak := text, hasBreak := true }
        readGap indent fuel g s.skipBreak
      else some (g, s)

def endsPlain (flow : Nat) (rest : List Char) : Bool :=
  match rest with
  | [] => true
  | c :: after =>
    c = ':' && atBlank after || flow ≠ 0 && [',', '[', ']', '\x7b', '\x7d'].contains c

/-- A colon in front of an indicator of a flow collection is an error. -/
def plainRun (flow : Nat) : List Char → Option (List Char)
  | [] => some []
  | c :: rest =>
    if isBlank c || isBreak c then some []
    else if flow ≠ 0 ∧ c = ':' ∧ rest.head?.any [',', '?', '[', ']', '\x7b', '\x7d'].contains then
      none
    else if endsPlain flow (c :: rest) then some []
    else (plainRun flow rest).map (c :: ·)

def readPlain (indent : Int) : (fuel : Nat) → List Char → Gap → Scanner →
    Option (List Char × Bool × Scanner)
  | 0, _, _, _ => none
  | fuel + 1, text, g, s =>
    if s.atDocumentMarker ∨ s.rest.head? = some '#' then some (text, g.hasBreak, s)
    else do
      let run ← plainRun s.flow s.rest
      let (text, g) := if run.isEmpty then (text, g) else (text ++ g.text ++ run, {})
      let s := s.skipMany run.length
      if s.rest.isEmpty ∨ !atBlank s.rest then return (text, g.hasBreak, s)
      let (g, s) ← readGap indent (s.rest.length + 1) g s
      if s.flow = 0 ∧ (s.column : Int) < indent then return (text, g.hasBreak, s)
      readPlain indent fuel text g s

def hexDigitValue? (c : Char) : Option Nat :=
  if '0' ≤ c ∧ c ≤ '9' then some (c.toNat - 48)
  else if 'a' ≤ c ∧ c ≤ 'f' then some (c.toNat - 87)
  else if 'A' ≤ c ∧ c ≤ 'F' then some (c.toNat - 55)
  else none

def codeEscape (count : Nat) (digits : List Char) : Option (Char × Nat) := do
  let values ← (digits.take count).mapM hexDigitValue?
  let n := values.foldl (fun n d => 16 * n + d) 0
  if values.length = count ∧ n.isValidChar then return (Char.ofNat n, count + 2) else none

/-- What a backslash and the characters behind it stand for, and how many characters these are. -/
def escape? : List Char → Option (Char × Nat)
  | [] => none
  | c :: rest =>
    match c with
    | '0' => some ('\x00', 2)
    | 'a' => some ('\x07', 2)
    | 'b' => some ('\x08', 2)
    | 't' | '\t' => some ('\t', 2)
    | 'n' => some ('\n', 2)
    | 'v' => some ('\x0b', 2)
    | 'f' => some ('\x0c', 2)
    | 'r' => some ('\r', 2)
    | 'e' => some ('\x1b', 2)
    | ' ' => some (' ', 2)
    | '"' => some ('"', 2)
    | '/' => some ('/', 2)
    | '\\' => some ('\\', 2)
    | 'N' => some ('\u0085', 2)
    | '_' => some ('\u00a0', 2)
    | 'L' => some ('\u2028', 2)
    | 'P' => some ('\u2029', 2)
    | 'x' => codeEscape 2 rest
    | 'u' => codeEscape 4 rest
    | 'U' => codeEscape 8 rest
    | _ => none

def readQuoted (single : Bool) :
    (fuel : Nat) → List Char → Gap → Scanner → Option (List Char × Scanner)
  | 0, _, _, _ => none
  | fuel + 1, text, g, s =>
    if s.atDocumentMarker then none
    else
      let go (c : Char) (count : Nat) :=
        readQuoted single fuel (text ++ g.text ++ [c]) {} (s.skipMany count)
      match s.rest with
      | [] => none
      | c :: rest =>
        if single && c = '\'' && rest.head? = some '\'' then go '\'' 2
        else if c = (if single then '\'' else '"') then some (text ++ g.text, s.skip)
        else if !single && c = '\\' then
          if rest.head?.any isBreak then
            let s := s.skip.skipBreak
            match readGap 0 (s.rest.length + 1) { hasBreak := true } s with
            | some (gap, s) =>
              readQuoted single fuel (text ++ g.text) { gap with firstBreak := [] } s
            | none => none
          else match escape? rest with
            | some (c, count) => go c count
            | none => none
        else if isBlank c || isBreak c then
          match readGap 0 (s.rest.length + 1) {} s with
          | some (gap, s) => readQuoted single fuel (text ++ g.text) gap s
          | none => none
        else go c 1

/-- An indentation of zero is one that is not known yet. -/
def blockBreaks (indent : Nat) : (fuel : Nat) → (widest : Nat) → List Char → Scanner →
    Option (Nat × List Char × Scanner)
  | 0, _, _, _ => none
  | fuel + 1, widest, breaks, s =>
    let spaces := (s.rest.takeWhile (· = ' ')).length
    let spaces := if indent = 0 then spaces else min spaces (indent - s.column)
    let s := s.skipMany spaces
    let widest := max widest s.column
    if (indent = 0 ∨ s.column < indent) ∧ s.rest.head? = some '\t' then none
    else if s.rest.head?.any isBreak then
      blockBreaks indent fuel widest (breaks ++ s.breakText) s.skipBreak
    else some (widest, breaks, s)

/-- The breaks are the one behind the last line and those of the empty lines since. -/
def blockLines (literal : Bool) (indent : Nat) : (fuel : Nat) → List Char → (lastBlank : Bool) →
    List Char → List Char → Scanner → Option (List Char × List Char × List Char × Scanner)
  | 0, _, _, _, _, _ => none
  | fuel + 1, text, lastBlank, lineBreak, more, s =>
    if s.column = indent ∧ !s.rest.isEmpty then do
      let blank := s.rest.head?.any isBlank
      let gap :=
        if !literal && lineBreak = ['\n'] && !lastBlank && !blank then
          if more.isEmpty then [' '] else more
        else lineBreak ++ more
      let line := s.rest.takeWhile (!isBreak ·)
      let s := s.skipMany line.length
      let (_, breaks, s') ← blockBreaks indent (s.rest.length + 1) 0 [] s.skipBreak
      blockLines literal indent fuel (text ++ gap ++ line) blank s.breakText breaks s'
    else some (text, lineBreak, more, s)

def blockHeader : List Char → Option (Option Bool × Nat × List Char)
  | c :: rest =>
    let chomp? (c : Char) : Option Bool :=
      if c = '+' then some true else if c = '-' then some false else none
    let isDigit (c : Char) : Bool := '0' ≤ c && c ≤ '9'
    if (chomp? c).isSome then
      match rest with
      | d :: rest' =>
        if d = '0' then none
        else if isDigit d then some (chomp? c, d.toNat - 48, rest') else some (chomp? c, 0, rest)
      | [] => some (chomp? c, 0, [])
    else if c = '0' then none
    else if isDigit c then
      match rest with
      | d :: rest' =>
        if (chomp? d).isSome then some (chomp? d, c.toNat - 48, rest')
        else some (none, c.toNat - 48, rest)
      | [] => some (none, c.toNat - 48, [])
    else some (none, 0, c :: rest)
  | [] => some (none, 0, [])

def readBlock (literal : Bool) (s : Scanner) : Option (List Char × Scanner) := do
  let s := s.skip
  let (chomp, increment, rest) ← blockHeader s.rest
  let s := s.skipMany (s.rest.length - rest.length)
  let s := s.skipMany (s.rest.takeWhile isBlank).length
  let s := if s.rest.head? = some '#' then s.skipMany (s.rest.takeWhile (!isBreak ·)).length else s
  if s.rest.head?.any (!isBreak ·) then none
  let s := s.skipBreak
  let given := if increment = 0 then 0
    else if 0 ≤ s.indent then s.indent.toNat + increment else increment
  let (widest, breaks, s) ← blockBreaks given (s.rest.length + 1) 0 [] s
  let indent := if given = 0 then max widest (max (s.indent + 1).toNat 1) else given
  let (text, lineBreak, more, s) ←
    blockLines literal indent (s.rest.length + 1) [] false [] breaks s
  let ending := match chomp with
    | some false => []
    | none => lineBreak
    | some true => lineBreak ++ more
  return (text ++ ending, s)

def isNameChar (c : Char) : Bool :=
  'a' ≤ c && c ≤ 'z' || 'A' ≤ c && c ≤ 'Z' || '0' ≤ c && c ≤ '9' || c = '_' || c = '-'

def readName (s : Scanner) : Option (List Char × Scanner) :=
  let s := s.skip
  let name := s.rest.takeWhile isNameChar
  let s := s.skipMany name.length
  if name.isEmpty then none
  else if atBlank s.rest ∨
      s.rest.head?.any ['?', ':', ',', ']', '\x7d', '%', '@', '\x60'].contains then
    some (name, s)
  else none

def isTagChar (flow : Nat) (c : Char) : Bool :=
  isNameChar c || ";/?:@&=+$.%*'()~#".toList.contains c || flow = 0 && [',', '[', ']'].contains c

def readTag (s : Scanner) : Option (Token × Scanner) := do
  let s := s.skip
  let (handle, suffix, s) ← match s.rest with
    | '<' :: rest =>
      let uri := rest.takeWhile (· ≠ '>')
      if uri.isEmpty ∨ rest.length = uri.length then none
      else some (([] : List Char), uri, s.skipMany (uri.length + 2))
    | rest =>
      let name := rest.takeWhile isNameChar
      match rest.drop name.length with
      | '!' :: behind =>
        let suffix := behind.takeWhile (isTagChar s.flow)
        if suffix.isEmpty then none
        else some ('!' :: name ++ ['!'], suffix, s.skipMany (name.length + 1 + suffix.length))
      | _ =>
        let suffix := rest.takeWhile (isTagChar s.flow)
        some (['!'], suffix, s.skipMany suffix.length)
  if atBlank s.rest ∨ s.flow ≠ 0 ∧ s.rest.head? = some ',' then
    return (.tag handle suffix, s)
  else none

def readDirective (s : Scanner) : Option (Token × Scanner) := do
  let line := s.rest.takeWhile (!isBreak ·)
  let parts := ((String.ofList (line.takeWhile (· ≠ '#'))).splitOn " ").filter (· ≠ "")
  let s := s.skipMany line.length
  match parts with
  | ["%YAML", version] =>
    if version = "1.1" ∨ version = "1.2" then return (.versionDirective, s) else none
  | ["%TAG", handle, _] =>
    if handle.startsWith "!" then return (.tagDirective handle.toList, s) else none
  | _ => none

def documentMarker (s : Scanner) (t : Token) : Option Scanner := do
  let s ← (s.unroll (-1)).removeKey
  return ({ s with keyAllowed := false }.skipMany 3).emit t

def flowStart (s : Scanner) (t : Token) : Option Scanner := do
  let s ← s.saveKey
  return { s with keys := none :: s.keys, flow := s.flow + 1, keyAllowed := true }.skip.emit t

def flowEnd (s : Scanner) (t : Token) : Option Scanner := do
  let s ← s.removeKey
  let s := if s.flow = 0 then s else { s with keys := s.keys.tail, flow := s.flow - 1 }
  return { s with keyAllowed := false }.skip.emit t

def entry (s : Scanner) : Option Scanner := do
  if s.flow = 0 ∧ !s.keyAllowed then none
  let s ← (s.roll s.column s.tokens.size .blockSequenceStart).removeKey
  return { s with keyAllowed := true }.skip.emit .blockEntry

def explicitKey (s : Scanner) : Option Scanner := do
  if s.flow = 0 ∧ !s.keyAllowed then none
  let s ← (s.roll s.column s.tokens.size .blockMappingStart).removeKey
  return { s with keyAllowed := s.flow = 0 }.skip.emit .key

def mappingValue (s : Scanner) : Option Scanner :=
  match s.keys with
  | some key :: rest =>
    let s := { s with tokens := s.tokens.insertIdxIfInBounds key.tokens .key }
    let s := s.roll key.column key.tokens .blockMappingStart
    some ({ s with keys := none :: rest, keyAllowed := false }.skip.emit .value)
  | _ =>
    if s.flow = 0 ∧ !s.keyAllowed then none
    else
      let s := s.roll s.column s.tokens.size .blockMappingStart
      some ({ s with keyAllowed := s.flow = 0 }.skip.emit .value)

def token (s : Scanner) (c : Char) (rest : List Char) : Option Scanner := do
  let blankNext := atBlank rest
  let inFlow := s.flow ≠ 0
  if s.column = 0 ∧ c = '%' then
    let s ← (s.unroll (-1)).removeKey
    let (t, s) ← readDirective s
    return { s with keyAllowed := false }.emit t
  if s.atMarker ['-', '-', '-'] then return ← s.documentMarker .documentStart
  if s.atMarker ['.', '.', '.'] then return ← s.documentMarker .documentEnd
  if c = '[' then return ← s.flowStart .flowSequenceStart
  if c = '\x7b' then return ← s.flowStart .flowMappingStart
  if c = ']' then return ← s.flowEnd .flowSequenceEnd
  if c = '\x7d' then return ← s.flowEnd .flowMappingEnd
  if c = ',' then
    let s ← s.removeKey
    return { s with keyAllowed := true }.skip.emit .flowEntry
  if c = '-' ∧ blankNext then return ← s.entry
  if c = '?' ∧ (inFlow ∨ blankNext) then return ← s.explicitKey
  if c = ':' ∧ (inFlow ∨ blankNext) then return ← s.mappingValue
  if c = '*' ∨ c = '&' then
    let s ← s.saveKey
    let (name, s) ← readName s
    return { s with keyAllowed := false }.emit (if c = '*' then .alias name else .anchor name)
  if c = '!' then
    let s ← s.saveKey
    let (t, s) ← readTag s
    return { s with keyAllowed := false }.emit t
  if !inFlow ∧ (c = '|' ∨ c = '>') then
    let s ← s.removeKey
    let (text, s) ← readBlock (c = '|') s
    return { s with keyAllowed := true }.emit (.scalar text (if c = '|' then .literal else .folded))
  if c = '\'' ∨ c = '"' then
    let s ← s.saveKey
    let (text, s) ← readQuoted (c = '\'') (s.rest.length + 1) [] {} s.skip
    return { s with keyAllowed := false }.emit (.scalar text .quoted)
  let indicator := "-?:,[]\x7b\x7d#&*!|>'\"%@".toList.contains c || c = '\x60'
  if !indicator ∨ c = '-' ∧ !rest.head?.any isBlank ∨
      !inFlow ∧ (c = '?' ∨ c = ':') ∧ !blankNext then
    let s ← s.saveKey
    let (text, broken, s) ← readPlain (s.indent + 1) (s.rest.length + 1) [] {} s
    return { s with keyAllowed := broken }.emit (.scalar text .plain)
  none

def run : (fuel : Nat) → Scanner → Option (Array Token)
  | 0, _ => none
  | fuel + 1, s => do
    let s ← (toNextToken (s.rest.length + 1) s).dropStaleKeys
    let s := s.unroll s.column
    match s.rest with
    | [] =>
      let s ← (s.unroll (-1)).removeKey
      return s.tokens
    | c :: rest => run fuel (← s.token c rest)

end Scanner

def scan (text : List Char) : Option (Array Token) :=
  if text.all isAllowed then Scanner.run (2 * text.length + 2) { rest := text } else none

end Licensing.Yaml
