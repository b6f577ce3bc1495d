import Licensing.Catalog.Entry

namespace Licensing

open Text Template Matching

variable [Engine]

/-- The standard licenses and exceptions, in the order in which they were added. -/
structure Catalog where
  licenses : List Catalog.Entry := []
  exceptions : List Catalog.Entry := []

namespace Catalog

inductive Kind where
  | license
  | exception
  deriving DecidableEq, Repr

def entries (c : Catalog) : Kind → List Entry
  | .license => c.licenses
  | .exception => c.exceptions

def withEntries (c : Catalog) (kind : Kind) (entries : List Entry) : Catalog :=
  match kind with
  | .license => { c with licenses := entries }
  | .exception => { c with exceptions := entries }

def add (c : Catalog) (kind : Kind) (e : Entry) : Catalog :=
  c.withEntries kind (c.entries kind ++ [e])

def find? (c : Catalog) (kind : Kind) (id : String) : Option Entry :=
  (c.entries kind).find? (Entry.sameId ·.id id)

def replaceFirst (id : String) (new : Entry) : List Entry → List Entry
  | [] => []
  | e :: rest => if Entry.sameId e.id id then new :: rest else e :: replaceFirst id new rest

def replace (c : Catalog) (kind : Kind) (id : String) (new : Entry) : Catalog :=
  c.withEntries kind (replaceFirst id new (c.entries kind))

/-- Whether the settings and the targets of a scan let an entry take part. -/
def selects (scan : ScanSettings) (targets : Option (List String)) (e : Entry) : Bool :=
  (scan.includeDeprecated || !e.deprecated) && targets.all fun ids => ids.any (Entry.sameId e.id ·)

/-- Whether a program cannot match a whole document because their first tokens differ. -/
def startsOtherwise (p : Program) (d : Document) : Bool :=
  match p.leadingToken? p.entry, d.text? 0 with
  | some token, some first => first ≠ token
  | _, _ => false

/-- An entry with a malformed template is in no text. -/
def check (m : Matcher) (mode : Mode) (d : Document) (e : Entry) : Bool × Entry :=
  match e.compiled m with
  | (.error _, e) => (false, e)
  | (.ok p, e) =>
    match mode with
    | .exact => (!startsOtherwise p d && !(m.comparePrepared p d).found, e)
    | .contains => (occursIn p d, e)

theorem check_snd (m : Matcher) (mode : Mode) (d : Document) (e : Entry) :
    (check m mode d e).2 = (e.compiled m).2 := by
  rw [check]
  split
  · rename_i hcompiled
    rw [hcompiled]
  · rename_i hcompiled
    rw [hcompiled]
    cases mode <;> rfl

def scanEntries (m : Matcher) (scan : ScanSettings) (mode : Mode) (targets : Option (List String))
    (d : Document) : List Entry → List String × List Entry
  | [] => ([], [])
  | e :: rest =>
    let (ids, rest) := scanEntries m scan mode targets d rest
    if selects scan targets e then
      let (found, e) := check m mode d e
      (if found then e.id :: ids else ids, e :: rest)
    else (ids, e :: rest)

/-- One worker takes all entries, or they are cut behind the first `size` of them. -/
inductive Division where
  | whole
  | cut (size : Nat) (first second : Division)
  deriving Repr

def Division.halves : (depth size : Nat) → Division
  | 0, _ => .whole
  | depth + 1, size => .cut (size / 2) (halves depth (size / 2)) (halves depth (size - size / 2))

def scanParts (m : Matcher) (scan : ScanSettings) (mode : Mode) (targets : Option (List String))
    (d : Document) : Division → List Entry → List String × List Entry
  | .whole, entries => scanEntries m scan mode targets d entries
  | .cut size first second, entries =>
    let (ids, before) := scanParts m scan mode targets d first (entries.take size)
    let (ids', behind) := scanParts m scan mode targets d second (entries.drop size)
    (ids ++ ids', before ++ behind)

/-- The division of so many entries. Scans in parallel have eight workers. -/
def ScanSettings.division (scan : ScanSettings) (size : Nat) : Division :=
  if scan.parallel then .halves 3 size else .whole

def scan (c : Catalog) (m : Matcher) (scan : ScanSettings) (kind : Kind) (mode : Mode)
    (targets : Option (List String)) (text : List Char) : List String × Catalog :=
  let division := ScanSettings.division scan (c.entries kind).length
  let (ids, entries) := scanParts m scan mode targets (m.prepare text) division (c.entries kind)
  (ids, c.withEntries kind entries)

def matchingIds (c : Catalog) (m : Matcher) (scan : ScanSettings) (kind : Kind)
    (text : List Char) : List String × Catalog :=
  c.scan m scan kind .exact none text

def idsWithin (c : Catalog) (m : Matcher) (scan : ScanSettings) (kind : Kind)
    (text : List Char) (targets : Option (List String)) : List String × Catalog :=
  c.scan m scan kind .contains targets text

def licenseNamespaces : List (List Char) :=
  ["http://spdx.org/licenses/".toList, "https://spdx.org/licenses/".toList]

/-- The identifier behind the namespace of the license list; any other text is its own. -/
def idOfUri (uri : List Char) : List Char :=
  match licenseNamespaces.find? (·.isPrefixOf uri) with
  | some namespaceOfList => uri.drop namespaceOfList.length
  | none => uri

end Catalog

end Licensing
