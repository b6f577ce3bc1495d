import Licensing.Catalog.Scan
import Licensing.Configuration.Basic

namespace Licensing

open Text Matching Catalog

variable [Engine]

inductive ComparerError where
  | configuration (e : ConfigurationError)
  | matching (e : MatchError)
  deriving DecidableEq, Repr

def ComparerError.message : ComparerError → String
  | .configuration e => "configuration failure: " ++ e.message
  | .matching e => "matching failure: " ++ e.message

structure Comparer where
  matcher : Matcher := {}
  scan : ScanSettings := {}

namespace Comparer

def ofSettings (s : Settings) (scan : ScanSettings) : Except ComparerError Comparer :=
  match Matcher.ofSettings s with
  | .ok matcher => .ok { matcher, scan }
  | .error e => .error (.matching (.settings e))

def ofConfiguration (c : Configuration) : Except ComparerError Comparer :=
  match c.check with
  | .ok () => ofSettings c.settings c.scan
  | .error e => .error (.configuration e)

def compare (c : Comparer) (template text : List Char) : Except ComparerError Difference :=
  (c.matcher.compare template text).mapError .matching

def isWithin (c : Comparer) (template text : List Char) : Except ComparerError Bool :=
  (c.matcher.isWithin template text).mapError .matching

def compareEntry (c : Comparer) (e : Entry) (text : List Char) :
    Except ComparerError Difference × Entry :=
  match e.compiled c.matcher with
  | (.ok p, e) => (.ok (c.matcher.comparePrepared p (c.matcher.prepare text)), e)
  | (.error err, e) => (.error (.matching (.template err)), e)

/-- An entry with a malformed template is in no text, and nothing is in a blank one. -/
def entryWithin (c : Comparer) (e : Entry) (text : List Char) : Bool × Entry :=
  if isBlank text then (false, e)
  else match e.compiled c.matcher with
    | (.ok p, e) => (occursIn p (c.matcher.prepare text), e)
    | (.error _, e) => (false, e)

end Comparer

end Licensing
