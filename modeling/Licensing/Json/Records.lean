import Licensing.Catalog.Scan
import Licensing.Configuration.Basic
import Licensing.Json.Basic

namespace Licensing

open Json

namespace Text

def Folding.toJson (f : Folding) : Json :=
  object [("version", nat f.version), ("normalize_unicode", bool f.unicode),
    ("fold_equivalent_words", bool f.words)]

def Folding.ofRecord? (r : Record) : Option Folding := do
  let version ← r.withDefault "version" 1 version?
  let unicode ← r.withDefault "normalize_unicode" true bool?
  let words ← r.withDefault "fold_equivalent_words" true bool?
  return { version, unicode, words }

def Folding.ofJson? (j : Json) : Option Folding :=
  j.object?.bind ofRecord?

def Position.toJson (p : Position) : Json :=
  object [("line", nat p.line), ("column", nat p.column), ("length", nat p.length)]

def Position.ofJson? (j : Json) : Option Position := do
  let r ← j.record? ["line", "column", "length"]
  return ⟨← r.required "line" size?, ← r.required "column" size?, ← r.required "length" size?⟩

def Token.toJson (t : Token) : Json :=
  object [("text", string t.text), ("line", nat t.position.line), ("column", nat t.position.column),
    ("length", nat t.position.length), ("start", nat t.start), ("end", nat t.stop)]

def Token.ofJson? (j : Json) : Option Token := do
  let r ← j.record? ["text", "line", "column", "length", "start", "end"]
  let text ← r.required "text" string?
  let line ← r.required "line" size?
  let column ← r.required "column" size?
  let length ← r.required "length" size?
  return ⟨text, ⟨line, column, length⟩, ← r.required "start" size?, ← r.required "end" size?⟩

end Text

namespace Matching

open Text

def Settings.toJson (s : Settings) : Json :=
  object [("version", nat s.version), ("context_tokens", nat s.contextTokens.toNat),
    ("normalize", s.folding.toJson)]

def Settings.ofJson? (j : Json) : Option Settings := do
  let r ← j.object?
  let version ← r.withDefault "version" 1 version?
  let contextTokens ← r.withDefault "context_tokens" 6 (·.size?.map Nat.toUInt64)
  let folding ← r.withDefault "normalize" {} Folding.ofJson?
  return { version, contextTokens, folding }

def ScanSettings.toJson (s : ScanSettings) : Json :=
  object [("parallel", bool s.parallel), ("include_deprecated", bool s.includeDeprecated)]

def ScanSettings.ofRecord? (r : Record) : Option ScanSettings := do
  let parallel ← r.withDefault "parallel" true bool?
  let includeDeprecated ← r.withDefault "include_deprecated" true bool?
  return { parallel, includeDeprecated }

def ScanSettings.ofJson? (j : Json) : Option ScanSettings :=
  j.object?.bind ofRecord?

def regionToJson (r : Region) : Json :=
  array [nat r.1, nat r.2]

def regionOfJson? : Json → Option Region
  | array [start, stop] => do return (← start.size?, ← stop.size?)
  | _ => none

def Difference.toJson (d : Difference) : Json :=
  object [("difference_found", bool d.found), ("message", string d.message),
    ("differences", array (d.places.map (·.toJson))),
    ("matching_non_optional_regions", ofOption (fun rs => array (rs.map regionToJson)) d.regions)]

def Difference.ofJson? (j : Json) : Option Difference := do
  let r ← j.record? ["difference_found", "message", "differences", "matching_non_optional_regions"]
  let found ← r.required "difference_found" bool?
  let message ← r.required "message" string?
  let places ← r.required "differences" (·.list? Position.ofJson?)
  let regions ← r.optional "matching_non_optional_regions" (·.list? regionOfJson?)
  return { found, message, places, regions }

end Matching

namespace Catalog

def Entry.toJson (e : Entry) : Json :=
  object [("id", string e.id), ("text", chars e.text), ("template", ofOption chars e.template),
    ("deprecated", bool e.deprecated)]

def Entry.ofJson? (j : Json) : Option Entry := do
  let r ← j.record? ["id", "text", "template", "deprecated"]
  let id ← r.required "id" string?
  let text ← r.required "text" chars?
  let template ← r.withDefault "template" none (·.nullable? chars?)
  let deprecated ← r.withDefault "deprecated" false bool?
  return { id, text, template, deprecated }

def toJson (c : Catalog) : Json :=
  object [("licenses", array (c.licenses.map (·.toJson))),
    ("exceptions", array (c.exceptions.map (·.toJson)))]

def ofJson? (j : Json) : Option Catalog := do
  let r ← j.record? ["licenses", "exceptions"]
  let licenses ← r.withDefault "licenses" [] (·.list? Entry.ofJson?)
  let exceptions ← r.withDefault "exceptions" [] (·.list? Entry.ofJson?)
  return { licenses, exceptions }

end Catalog

namespace Configuration

open Text Matching

def MatcherSection.toJson (s : MatcherSection) : Json :=
  object [("version", nat s.version), ("context_tokens", nat s.contextTokens.toNat)]

def MatcherSection.ofJson? (j : Json) : Option MatcherSection := do
  let r ← j.record? ["version", "context_tokens"]
  let version ← r.withDefault "version" 1 version?
  let contextTokens ← r.withDefault "context_tokens" 6 (·.size?.map Nat.toUInt64)
  return { version, contextTokens }

def toJson (c : Configuration) : Json :=
  object [("version", string c.version), ("name", ofOption string c.name), ("text", c.text.toJson),
    ("matcher", c.matcher.toJson), ("scan", c.scan.toJson)]

def ofJson? (j : Json) : Option Configuration := do
  let r ← j.record? ["version", "name", "text", "matcher", "scan"]
  let version ← r.required "version" string?
  let name ← r.withDefault "name" none (·.nullable? string?)
  let text ← r.withDefault "text" {} fun j =>
    (j.record? ["version", "normalize_unicode", "fold_equivalent_words"]).bind Folding.ofRecord?
  let matcher ← r.withDefault "matcher" {} MatcherSection.ofJson?
  let scan ← r.withDefault "scan" {} fun j =>
    (j.record? ["parallel", "include_deprecated"]).bind ScanSettings.ofRecord?
  return { version, name, text, matcher, scan }

end Configuration

end Licensing
