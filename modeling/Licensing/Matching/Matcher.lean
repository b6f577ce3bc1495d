import Licensing.Matching.Report
import Licensing.Matching.Settings
import Licensing.Text.Utf8

namespace Licensing.Matching

open Licensing.Text Licensing.Template

variable [Engine]

inductive MatchError where
  | settings (e : SettingsError)
  | template (e : TemplateError)
  deriving DecidableEq, Repr

def MatchError.message : MatchError → String
  | .settings e => e.message
  | .template e => "template error: " ++ e.message

/-- A matcher has valid settings. -/
structure Matcher where
  settings : Settings := {}
  valid : settings.check = .ok () := by rfl

/-- What a source of bytes does when it is asked for more. No bytes at all mean its end. -/
inductive ReadEvent where
  | data (bytes : List UInt8)
  | interrupted
  | failed
  deriving DecidableEq, Repr

/-- What has been read from a source, and whether a failure was the end of it. -/
structure ReadResult where
  bytes : List UInt8
  failed : Bool
  deriving DecidableEq, Repr

/-- An interrupted read is tried again, and the bytes read before a failure are kept. -/
def readToEnd (buffer : List UInt8) : List ReadEvent → ReadResult
  | [] => ⟨buffer, false⟩
  | .data bytes :: rest =>
    if bytes.isEmpty then ⟨buffer, false⟩ else readToEnd (buffer ++ bytes) rest
  | .interrupted :: rest => readToEnd buffer rest
  | .failed :: _ => ⟨buffer, true⟩

/-- The text of the bytes that can be read. A failure is passed over. -/
def readLossy (source : List ReadEvent) : List Char :=
  decodeLossy (readToEnd [] source).bytes

namespace Matcher

def ofSettings (s : Settings) : Except SettingsError Matcher :=
  match h : s.check with
  | .ok () => .ok ⟨s, h⟩
  | .error e => .error e

def compile (m : Matcher) (template : List Char) : Except TemplateError Program :=
  Program.compile m.settings.folding template

def prepare (m : Matcher) (text : List Char) : Document :=
  Document.ofText m.settings.folding text

def comparePrepared (m : Matcher) (p : Program) (d : Document) : Difference :=
  compareWith p d m.settings.contextTokens

def compare (m : Matcher) (template text : List Char) : Except MatchError Difference :=
  match m.compile template with
  | .ok p => .ok (m.comparePrepared p (m.prepare text))
  | .error e => .error (.template e)

def isWithin (m : Matcher) (template text : List Char) : Except MatchError Bool :=
  match m.compile template with
  | .ok p => .ok (occursIn p (m.prepare text))
  | .error e => .error (.template e)

/-- The template comes first: if it is malformed, nothing is read. -/
def compareRead (m : Matcher) (template : List Char) (source : List ReadEvent) :
    Except MatchError Difference :=
  match m.compile template with
  | .ok p => .ok (m.comparePrepared p (m.prepare (readLossy source)))
  | .error e => .error (.template e)

end Matcher

end Licensing.Matching
