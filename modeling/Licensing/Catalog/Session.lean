import Licensing.Comparer

namespace Licensing.Catalog

open Text Template Matching

variable [Engine]

/-- Entries that are held by themselves, and catalogs with entries of their own. -/
structure Session where
  entries : List Entry := []
  catalogs : List Catalog := []

/-- Where an entry is held. -/
inductive Place where
  | single (i : Nat)
  | listed (catalog : Nat) (kind : Kind) (i : Nat)
  deriving DecidableEq, Repr

inductive Request where
  | create (id : String) (text : List Char) (template : Option (List Char)) (deprecated : Bool)
  | withTemplate (i : Nat) (template : List Char)
  | withDeprecated (i : Nat) (deprecated : Bool)
  | clone (place : Place)
  | createCatalog
  | cloneCatalog (catalog : Nat)
  | add (catalog : Nat) (kind : Kind) (i : Nat)
  | compile (m : Matcher) (place : Place)
  | compare (c : Comparer) (place : Place) (text : List Char)
  | within (c : Comparer) (place : Place) (text : List Char)
  | scan (c : Comparer) (catalog : Nat) (kind : Kind) (mode : Mode)
      (targets : Option (List String)) (text : List Char)

inductive Answer where
  | compiled (result : Except TemplateError Program)
  | difference (result : Except ComparerError Difference)
  | occurs (found : Bool)
  | found (ids : List String)

namespace Session

def get? (s : Session) : Place → Option Entry
  | .single i => s.entries[i]?
  | .listed catalog kind i => s.catalogs[catalog]?.bind fun c => (c.entries kind)[i]?

def put (s : Session) (e : Entry) : Place → Session
  | .single i => { s with entries := s.entries.set i e }
  | .listed catalog kind i =>
    { s with
      catalogs := s.catalogs.modify catalog fun c =>
        c.withEntries kind ((c.entries kind).set i e) }

/-- Asks something of the entry in a place, which stays there with what it keeps for the answer. -/
def ask (s : Session) (place : Place) (question : Entry → Answer × Entry) :
    Option Answer × Session :=
  match s.get? place with
  | none => (none, s)
  | some e => (some (question e).1, s.put (question e).2 place)

def serve (s : Session) : Request → Option Answer × Session
  | .create id text template deprecated =>
    (none, { s with entries := s.entries ++ [{ id, text, template, deprecated }] })
  | .withTemplate i template =>
    (none, { s with entries := s.entries.modify i (·.withTemplate template) })
  | .withDeprecated i deprecated =>
    (none, { s with entries := s.entries.modify i (·.withDeprecated deprecated) })
  | .clone place => (none, { s with entries := s.entries ++ (s.get? place).toList })
  | .createCatalog => (none, { s with catalogs := s.catalogs ++ [{}] })
  | .cloneCatalog catalog =>
    (none, { s with catalogs := s.catalogs ++ s.catalogs[catalog]?.toList })
  | .add catalog kind i =>
    match s.entries[i]? with
    | none => (none, s)
    | some e =>
      (none, {
        entries := s.entries.eraseIdx i
        catalogs := s.catalogs.modify catalog (·.add kind e) })
  | .compile m place =>
    s.ask place fun e => ((e.compiled m).map .compiled id)
  | .compare c place text => s.ask place fun e => (c.compareEntry e text).map .difference id
  | .within c place text => s.ask place fun e => (c.entryWithin e text).map .occurs id
  | .scan c catalog kind mode targets text =>
    match s.catalogs[catalog]? with
    | none => (none, s)
    | some catalog' =>
      let (ids, scanned) := catalog'.scan c.matcher c.scan kind mode targets text
      (some (.found ids), { s with catalogs := s.catalogs.set catalog scanned })

def run (s : Session) : List Request → List (Option Answer) × Session
  | [] => ([], s)
  | request :: rest =>
    let (answer, s) := s.serve request
    let (answers, s) := s.run rest
    (answer :: answers, s)

end Session

end Licensing.Catalog
