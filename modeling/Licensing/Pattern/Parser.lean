import Licensing.Pattern.Regex

namespace Licensing.Pattern

open Licensing.Unicode

/-- The flags that hold at a place of a pattern. -/
structure Flags where
  ignoreCase : Bool := false
  multiLine : Bool := false
  dotAll : Bool := false
  unicode : Bool := true
  returns : Bool := false
  ignoreSpace : Bool := false

def Flags.set (f : Flags) (letter : Char) (value : Bool) : Option Flags :=
  match letter with
  | 'i' => some { f with ignoreCase := value }
  | 'm' => some { f with multiLine := value }
  | 's' => some { f with dotAll := value }
  | 'u' => some { f with unicode := value }
  | 'R' => some { f with returns := value }
  | 'x' => some { f with ignoreSpace := value }
  | 'U' => some f
  | _ => none

def skipBlank : (inComment : Bool) → List Char → List Char
  | _, [] => []
  | true, c :: cs => skipBlank (c ≠ '\n') cs
  | false, c :: cs =>
    if Text.isWhitespace c then skipBlank false cs
    else if c = '#' then skipBlank true cs
    else c :: cs

def Flags.skip (f : Flags) (s : List Char) : List Char :=
  if f.ignoreSpace then skipBlank false s else s

def hexValue? (c : Char) : Option Nat :=
  if 'A' ≤ c ∧ c ≤ 'F' then some (c.toNat - 55) else hexDigit? c

def decimalValue (digits : List Char) : Nat :=
  digits.foldl (fun n c => 10 * n + (c.toNat - 48)) 0

def scalar? (n : Nat) : Option Char :=
  if n.isValidChar then some (Char.ofNat n) else none

/-- What a backslash and the characters after it stand for. -/
inductive Escape where
  | literal (c : Char) (byte : Bool)
  | look (l : Look)
  | set (s : CharSet)

def isMeta (c : Char) : Bool :=
  "\\.+*?()|[]\x7b\x7d^$#&-~".toList.contains c

def isEscapable (c : Char) : Bool :=
  isMeta c || c.toNat < 128 && !isAsciiLetter c && !isAsciiDigit c && c ≠ '<' && c ≠ '>'

/-- Without Unicode, a set must not hold bytes that are no characters. -/
def Flags.close (f : Flags) (complemented : Bool) (s : CharSet) : Option CharSet :=
  if f.unicode then
    let s := if f.ignoreCase then .caseClosed s else s
    some (if complemented then .complement s else s)
  else if complemented then none
  else some (if f.ignoreCase then .asciiCaseClosed s else s)

def Flags.letterClass? (f : Flags) (letter : Char) : Option CharSet :=
  let ascii (name : String) := (CharSet.asciiClass? name).getD .nothing
  match letter with
  | 'd' => some (if f.unicode then .digit else ascii "digit")
  | 's' => some (if f.unicode then .space else ascii "space")
  | 'w' => some (if f.unicode then .word else ascii "word")
  | 'D' => if f.unicode then some (.complement .digit) else none
  | 'S' => if f.unicode then some (.complement .space) else none
  | 'W' => if f.unicode then some (.complement .word) else none
  | _ => none

def bracedDigits (f : Flags) : (fuel : Nat) → List Char → Option (List Nat × List Char)
  | 0, _ => none
  | fuel + 1, s =>
    match f.skip s with
    | [] => none
    | '\x7d' :: rest => some ([], rest)
    | c :: rest => do
      let d ← hexValue? c
      let (ds, rest) ← bracedDigits f fuel rest
      return (d :: ds, rest)

def fixedDigits (f : Flags) : (count : Nat) → List Char → Option (List Nat × List Char)
  | 0, s => some ([], s)
  | n + 1, s =>
    match f.skip s with
    | [] => none
    | c :: rest => do
      let d ← hexValue? c
      let (ds, rest) ← fixedDigits f n rest
      return (d :: ds, rest)

def hexEscape (f : Flags) (letter : Char) (s : List Char) : Option (Escape × List Char) :=
  match f.skip s with
  | '\x7b' :: rest => do
    let (ds, rest) ← bracedDigits f (rest.length + 1) rest
    if ds.isEmpty then none else
      let c ← scalar? (ds.foldl (fun n d => 16 * n + d) 0)
      return (.literal c false, f.skip rest)
  | s => do
    let count := if letter = 'x' then 2 else if letter = 'u' then 4 else 8
    let (ds, rest) ← fixedDigits f count s
    let c ← scalar? (ds.foldl (fun n d => 16 * n + d) 0)
    return (.literal c (letter = 'x'), f.skip rest)

def bracedName (f : Flags) : (fuel : Nat) → List Char → Option (List Char × List Char)
  | 0, _ => none
  | fuel + 1, s =>
    match f.skip s with
    | [] => none
    | '\x7d' :: rest => some ([], rest)
    | c :: rest => do
      let (name, rest) ← bracedName f fuel rest
      return (c :: name, rest)

def splitAt? (mark : List Char) : List Char → Option (List Char × List Char)
  | [] => none
  | c :: cs =>
    if mark.isPrefixOf (c :: cs) then some ([], (c :: cs).drop mark.length)
    else (splitAt? mark cs).map fun (first, second) => (c :: first, second)

def namedProperty? (name : List Char) : Option PropertySet :=
  match splitAt? ['!', '='] name <|> splitAt? [':'] name <|> splitAt? ['='] name with
  | some (key, value) => propertyValue? key value
  | none => property? name

def propertyName (f : Flags) (s : List Char) : Option (PropertySet × List Char) :=
  match f.skip s with
  | [] => none
  | '\x7b' :: rest => do
    let (name, rest) ← bracedName f (rest.length + 1) rest
    return (← namedProperty? name, rest)
  | '\\' :: _ => none
  | c :: rest => do return (← property? [c], f.skip rest)

def propertyEscape (f : Flags) (complemented : Bool) (s : List Char) :
    Option (Escape × List Char) := do
  let (set, rest) ← propertyName f s
  if f.unicode then
    return (.set (← f.close complemented (.property set)), rest)
  else none

def isBoundaryNameChar (c : Char) : Bool :=
  isAsciiLetter c || c = '-'

def boundaryName (f : Flags) : (fuel : Nat) → List Char → Option (List Char × List Char)
  | 0, _ => none
  | fuel + 1, s =>
    match f.skip s with
    | [] => none
    | '\x7d' :: rest => some ([], rest)
    | c :: rest =>
      if isBoundaryNameChar c then do
        let (name, rest) ← boundaryName f fuel rest
        return (c :: name, rest)
      else none

def boundaryEscape (f : Flags) (s : List Char) : Option (Escape × List Char) :=
  match s with
  | '\x7b' :: rest =>
    match f.skip rest with
    | [] => none
    | c :: _ =>
      if isBoundaryNameChar c then do
        let (name, rest) ← boundaryName f (rest.length + 1) rest
        match String.ofList name with
        | "start" => return (.look (.wordStart f.unicode), rest)
        | "end" => return (.look (.wordEnd f.unicode), rest)
        | "start-half" => return (.look (.wordStartHalf f.unicode), rest)
        | "end-half" => return (.look (.wordEndHalf f.unicode), rest)
        | _ => none
      else some (.look (.wordBoundary f.unicode), s)
  | _ => some (.look (.wordBoundary f.unicode), s)

def escape (f : Flags) : List Char → Option (Escape × List Char)
  | [] => none
  | c :: rest =>
    match c with
    | 'x' | 'u' | 'U' => hexEscape f c rest
    | 'p' => propertyEscape f false rest
    | 'P' => propertyEscape f true rest
    | 'a' => some (.literal '\x07' false, rest)
    | 'f' => some (.literal '\x0c' false, rest)
    | 't' => some (.literal '\t' false, rest)
    | 'n' => some (.literal '\n' false, rest)
    | 'r' => some (.literal '\r' false, rest)
    | 'v' => some (.literal '\x0b' false, rest)
    | 'A' => some (.look .textStart, rest)
    | 'z' => some (.look .textEnd, rest)
    | 'b' => boundaryEscape f rest
    | 'B' => some (.look (.notWordBoundary f.unicode), rest)
    | '<' => some (.look (.wordStart f.unicode), rest)
    | '>' => some (.look (.wordEnd f.unicode), rest)
    | _ =>
      if isEscapable c then some (.literal c false, rest)
      else (f.letterClass? c).map fun s => (.set s, rest)

/-- A part of a class that has been read, and how deeply sets are nested in it. -/
structure ClassPart where
  set : CharSet
  depth : Nat

inductive SetOperation where
  | inter | diff | symmDiff

def SetOperation.apply : SetOperation → CharSet → CharSet → CharSet
  | .inter => .inter
  | .diff => .diff
  | .symmDiff => .symmDiff

/-- A bracket with the parts before it, or an operation with its left operand. -/
inductive ClassFrame where
  | bracket (complemented : Bool) (before : List ClassPart)
  | operation (op : SetOperation) (left : ClassPart)

def maxDepth (depths : List Nat) : Nat :=
  depths.foldl max 0

def ClassPart.union : List ClassPart → ClassPart
  | [] => ⟨.nothing, 0⟩
  | [part] => part
  | parts => ⟨.unions (parts.map (·.set)), 1 + maxDepth (parts.map (·.depth))⟩

/-- Both sides of an operation are closed under case first. -/
def applyPending (f : Flags) (frames : List ClassFrame) (right : ClassPart) :
    ClassPart × List ClassFrame :=
  match frames with
  | .operation op left :: rest =>
    let close (s : CharSet) := (f.close false s).getD s
    (⟨op.apply (close left.set) (close right.set), 1 + max left.depth right.depth⟩, rest)
  | frames => (right, frames)

/-- The literal hyphens, or the literal bracket, at the start of a class. -/
def leadingHyphens (f : Flags) : (fuel : Nat) → List Char → Nat × List Char
  | 0, s => (0, s)
  | fuel + 1, s =>
    match s with
    | '-' :: rest =>
      let (n, rest) := leadingHyphens f fuel (f.skip rest)
      (n + 1, rest)
    | s => (0, s)

def openBracket (f : Flags) (s : List Char) : Bool × List ClassPart × List Char :=
  let s := f.skip s
  let (complemented, s) := match s with
    | '^' :: rest => (true, f.skip rest)
    | s => (false, s)
  let (hyphens, s) := leadingHyphens f s.length s
  let parts := List.replicate hyphens (⟨.singleton '-', 0⟩ : ClassPart)
  match hyphens, s with
  | 0, ']' :: rest => (complemented, [⟨.singleton ']', 0⟩], f.skip rest)
  | _, s => (complemented, parts, s)

def Flags.classLiteral? (f : Flags) (c : Char) : Option Char :=
  if f.unicode || c.toNat < 128 then some c else none

def asciiClassAt? (f : Flags) (s : List Char) : Option (Option CharSet × List Char) := do
  let s ← match s with | ':' :: rest => some rest | _ => none
  let (complemented, s) := match s with | '^' :: rest => (true, rest) | s => (false, s)
  let (name, rest) := (s.takeWhile (· ≠ ':'), s.dropWhile (· ≠ ':'))
  let rest ← match rest with | ':' :: ']' :: rest => some rest | _ => none
  let set ← CharSet.asciiClass? (String.ofList name)
  return (f.close complemented set, rest)

def Flags.peek? (f : Flags) (s : List Char) : Option Char :=
  if f.ignoreSpace then
    match s.dropWhile Text.isWhitespace with
    | '#' :: rest => (rest.dropWhile Text.isWhitespace).head?
    | rest => rest.head?
  else s.head?

def classItem (f : Flags) : List Char → Option (Escape × List Char)
  | [] => none
  | '\\' :: rest => escape f rest
  | c :: rest => some (.literal c false, rest)

def classRange (f : Flags) (s : List Char) : Option (CharSet × List Char) := do
  let (first, rest) ← classItem f s
  let rest := f.skip rest
  let single : Option (CharSet × List Char) :=
    match first with
    | .literal c _ => (f.classLiteral? c).map (.singleton ·, rest)
    | .set s => some (s, rest)
    | .look _ => none
  match rest with
  | [] => none
  | '-' :: behind =>
    if f.peek? behind = some ']' ∨ f.peek? behind = some '-' then single
    else do
      let (second, rest) ← classItem f (f.skip behind)
      match first, second with
      | .literal a _, .literal b _ =>
        let a ← f.classLiteral? a
        let b ← f.classLiteral? b
        if a ≤ b then some (.range a b, rest) else none
      | _, _ => none
  | _ => single

def classParts (f : Flags) : (fuel : Nat) → List ClassFrame → List ClassPart → List Char →
    Option (ClassPart × List Char)
  | 0, _, _, _ => none
  | fuel + 1, frames, parts, s =>
    let operation (op : SetOperation) (rest : List Char) :=
      let (left, frames) := applyPending f frames (ClassPart.union parts)
      classParts f fuel (.operation op left :: frames) [] rest
    match f.skip s with
    | [] => none
    | '[' :: rest =>
      match asciiClassAt? f rest with
      | some (set, rest) => do classParts f fuel frames (⟨← set, 0⟩ :: parts) rest
      | none =>
        let (complemented, first, rest) := openBracket f rest
        classParts f fuel (.bracket complemented parts :: frames) first rest
    | ']' :: rest =>
      let (whole, frames) := applyPending f frames (ClassPart.union parts)
      match frames with
      | .bracket complemented before :: frames => do
        let part : ClassPart := ⟨← f.close complemented whole.set, whole.depth + 1⟩
        if frames.isEmpty then some (part, rest)
        else classParts f fuel frames (part :: before) rest
      | _ => none
    | '&' :: '&' :: rest => operation .inter rest
    | '-' :: '-' :: rest => operation .diff rest
    | '~' :: '~' :: rest => operation .symmDiff rest
    | s => do
      let (set, rest) ← classRange f s
      classParts f fuel frames (⟨set, 0⟩ :: parts) rest

def bracketClass (f : Flags) (s : List Char) : Option (ClassPart × List Char) :=
  let (complemented, first, rest) := openBracket f s
  classParts f (s.length + 1) [.bracket complemented []] first rest

/-- A part that has been read, with how deeply expressions are nested in it. -/
structure Part where
  regex : Regex Atom
  depth : Nat
  repeatable : Bool := true

/-- What stands around an open group, and the flags that hold again behind it. -/
structure GroupFrame where
  parts : List Part
  alternatives : List Part
  flags : Flags

/-- The parts since the last bar, the alternatives before it, and the open groups. -/
structure Reader where
  parts : List Part := []
  alternatives : List Part := []
  groups : List GroupFrame := []
  flags : Flags
  names : List (List Char) := []

namespace Reader

def push (r : Reader) (regex : Regex Atom) (depth : Nat := 0) : Reader :=
  { r with parts := ⟨regex, depth, true⟩ :: r.parts }

def sequence (r : Reader) : Part :=
  match r.parts with
  | [] => ⟨.empty, 0, true⟩
  | [part] => part
  | parts =>
    ⟨parts.foldl (fun regex part => .concat part.regex regex) .empty,
      1 + maxDepth (parts.map (·.depth)), true⟩

def content (r : Reader) : Part :=
  match r.alternatives with
  | [] => r.sequence
  | alternatives =>
    let last := r.sequence
    ⟨alternatives.foldl (fun regex part => .alt part.regex regex) last.regex,
      1 + maxDepth (last.depth :: alternatives.map (·.depth)), true⟩

def openGroup (r : Reader) (inside : Flags) : Reader :=
  { r with
    parts := []
    alternatives := []
    groups := ⟨r.parts, r.alternatives, r.flags⟩ :: r.groups
    flags := inside }

def closeGroup (r : Reader) : Option Reader :=
  match r.groups with
  | [] => none
  | outer :: groups =>
    let content := r.content
    some { r with
      parts := ⟨content.regex, content.depth + 1, true⟩ :: outer.parts
      alternatives := outer.alternatives
      groups
      flags := outer.flags }

def repeatLast (r : Reader) (min : Nat) (max : Option Nat) : Option Reader :=
  match r.parts with
  | part :: parts =>
    if part.repeatable then
      some { r with parts := ⟨.repetition part.regex min max, part.depth + 1, true⟩ :: parts }
    else none
  | [] => none

end Reader

def isNameChar (first : Bool) (c : Char) : Bool :=
  if first then c = '_' || isAlphabetic c
  else c = '_' || c = '.' || c = '[' || c = ']' || isAlphanumeric c

def groupName (s : List Char) : Option (List Char × List Char) :=
  let name := s.takeWhile (· ≠ '>')
  match name, s.dropWhile (· ≠ '>') with
  | c :: cs, _ :: rest =>
    if isNameChar true c && cs.all (isNameChar false) then some (name, rest) else none
  | _, _ => none

/-- The flags, whether any letter was given, the character behind them, and the rest. -/
def groupFlags (negated afterMinus : Bool) (seen : List Char) (f : Flags) :
    List Char → Option (Flags × Bool × Char × List Char)
  | [] => none
  | c :: cs =>
    if c = ':' ∨ c = ')' then
      if afterMinus then none else some (f, !seen.isEmpty, c, cs)
    else if c = '-' then
      if negated then none else groupFlags true true seen f cs
    else if seen.contains c then none
    else match f.set c !negated with
      | some f => groupFlags negated false (c :: seen) f cs
      | none => none

def openParenthesis (r : Reader) (s : List Char) : Option (Reader × List Char) :=
  let named (rest : List Char) : Option (Reader × List Char) := do
    let (name, rest) ← groupName rest
    if r.names.contains name then none
    else some ({ r.openGroup r.flags with names := name :: r.names }, rest)
  match r.flags.skip s with
  | '?' :: '=' :: _ | '?' :: '!' :: _ | '?' :: '<' :: '=' :: _ | '?' :: '<' :: '!' :: _ => none
  | '?' :: 'P' :: '<' :: rest => named rest
  | '?' :: '<' :: rest => named rest
  | '?' :: rest => do
    let (flags, given, close, rest) ← groupFlags false false [] r.flags rest
    if close = ':' then some (r.openGroup flags, rest)
    else if given then
      some ({ r with parts := ⟨.empty, 0, false⟩ :: r.parts, flags }, rest)
    else none
  | s => some (r.openGroup r.flags, s)

def digitsFrom (f : Flags) (inComment : Bool) (digits : List Char) :
    List Char → List Char × List Char
  | [] => (digits.reverse, [])
  | c :: cs =>
    if inComment then digitsFrom f (c ≠ '\n') digits cs
    else if isAsciiDigit c then digitsFrom f false (c :: digits) cs
    else if !f.ignoreSpace || digits.isEmpty then (digits.reverse, c :: cs)
    else if Text.isWhitespace c then digitsFrom f false digits cs
    else if c = '#' then digitsFrom f true digits cs
    else (digits.reverse, c :: cs)

/-- Missing if there are no digits, and `none` inside if the number is too large. -/
def count (f : Flags) (s : List Char) : Option (Option Nat) × List Char :=
  let (digits, rest) := digitsFrom f false [] (s.dropWhile Text.isWhitespace)
  let rest := rest.dropWhile Text.isWhitespace
  if digits.isEmpty then (none, rest)
  else
    let n := decimalValue digits
    (some (if n < UInt32.size then some n else none), rest)

def skipLazy : List Char → List Char
  | '?' :: rest => rest
  | s => s

def bounds (f : Flags) (s : List Char) : Option ((Nat × Option Nat) × List Char) :=
  let (min, s) := count f s
  match s with
  | ',' :: rest =>
    match f.skip rest with
    | '\x7d' :: rest => do return ((← min.join, none), '\x7d' :: rest)
    | rest => do
      let (max, rest) := count f rest
      return ((← min.join, some (← max.join)), rest)
  | s => do
    let n ← min.join
    return ((n, some n), s)

def counts (f : Flags) (s : List Char) : Option ((Nat × Option Nat) × List Char) := do
  let ((min, max), s) ← bounds f (f.skip s)
  match s with
  | '\x7d' :: rest =>
    if max.all (min ≤ ·) then some ((min, max), skipLazy (f.skip rest)) else none
  | _ => none

/-- Without Unicode, a byte beyond ASCII is no character, and only ASCII letters have two cases. -/
def Flags.literal? (f : Flags) (c : Char) (byte : Bool) : Option CharSet :=
  if f.unicode then some (if f.ignoreCase then .caseClosed (.singleton c) else .singleton c)
  else if byte && 128 ≤ c.toNat then none
  else some (if f.ignoreCase then .asciiCaseClosed (.singleton c) else .singleton c)

def Flags.dot? (f : Flags) : Option CharSet :=
  if !f.unicode then none
  else if f.dotAll then some .all
  else if f.returns then some (.complement (.union (.singleton '\n') (.singleton '\r')))
  else some (.complement (.singleton '\n'))

def Flags.lineStart (f : Flags) : Look :=
  if !f.multiLine then .textStart else if f.returns then .returnLineStart else .lineStart

def Flags.lineEnd (f : Flags) : Look :=
  if !f.multiLine then .textEnd else if f.returns then .returnLineEnd else .lineEnd

def readPart (r : Reader) (c : Char) (s : List Char) : Option (Reader × List Char) :=
  let f := r.flags
  match c with
  | '(' => openParenthesis r s
  | ')' => r.closeGroup.map (·, s)
  | '|' => some ({ r with parts := [], alternatives := r.sequence :: r.alternatives }, s)
  | '[' => do
    let (part, rest) ← bracketClass f s
    return (r.push (.atom (.char part.set)) part.depth, rest)
  | '?' => (r.repeatLast 0 (some 1)).map (·, skipLazy s)
  | '*' => (r.repeatLast 0 none).map (·, skipLazy s)
  | '+' => (r.repeatLast 1 none).map (·, skipLazy s)
  | '\x7b' => do
    let ((min, max), rest) ← counts f s
    return (← r.repeatLast min max, rest)
  | '\\' => do
    let (e, rest) ← escape f s
    match e with
    | .literal c byte => return (r.push (.atom (.char (← f.literal? c byte))), rest)
    | .look l => return (r.push (.atom (.look l)), rest)
    | .set set => return (r.push (.atom (.char set)), rest)
  | '.' => do return (r.push (.atom (.char (← f.dot?))), s)
  | '^' => some (r.push (.atom (.look f.lineStart)), s)
  | '$' => some (r.push (.atom (.look f.lineEnd)), s)
  | c => do return (r.push (.atom (.char (← f.literal? c false))), s)

def readParts : (fuel : Nat) → Reader → List Char → Option Part
  | 0, _, _ => none
  | fuel + 1, r, s =>
    match r.flags.skip s with
    | [] => if r.groups.isEmpty then some r.content else none
    | c :: rest => do
      let (r, rest) ← readPart r c rest
      readParts fuel r rest

/-- Expressions may be nested to this depth. -/
def nestingLimit : Nat := 250

def parse (f : Flags) (s : List Char) : Option (Regex Atom) :=
  match readParts (s.length + 1) { flags := f } s with
  | some part => if part.depth ≤ nestingLimit then some part.regex else none
  | none => none

/-- A closing parenthesis too many ends the part that is bound to the ends of the text. -/
def parseWhole (pattern : List Char) : Option (Regex Atom) :=
  parse { ignoreCase := true } (['^', '(', '?', ':'] ++ pattern ++ [')', '$'])

end Licensing.Pattern
