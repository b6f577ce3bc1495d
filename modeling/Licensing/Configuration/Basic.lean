import Licensing.Matching.Settings

namespace Licensing

open Text Matching

namespace Configuration

/-- The part of a configuration that is about matching. -/
structure MatcherSection where
  version : Nat := 1
  contextTokens : UInt64 := 6
  deriving DecidableEq, Repr, Inhabited

end Configuration

structure Configuration where
  version : String := "1.0"
  name : Option String := none
  text : Folding := {}
  matcher : Configuration.MatcherSection := {}
  scan : ScanSettings := {}
  deriving DecidableEq, Repr, Inhabited

/-- A value that a section of a configuration must not have. -/
inductive SectionFault where
  | textVersion
  | matcherVersion
  | matcherContext
  deriving DecidableEq, Repr

def SectionFault.message : SectionFault → String
  | .textVersion => "text.version must be >= 1"
  | .matcherVersion => "matcher.version must be >= 1"
  | .matcherContext => "matcher.context_tokens must be >= 1"

inductive ConfigurationError where
  | unreadable
  | malformed
  | unsupportedVersion (version : String)
  | invalid (fault : SectionFault)
  deriving DecidableEq, Repr

def ConfigurationError.message : ConfigurationError → String
  | .unreadable => "failed to read config file"
  | .malformed => "failed to parse YAML"
  | .unsupportedVersion version => "unsupported config version: " ++ version
  | .invalid fault => "validation error: " ++ fault.message

namespace Configuration

def supportedVersions : List String := ["1.0", "1"]

def check (c : Configuration) : Except ConfigurationError Unit :=
  if !supportedVersions.contains c.version then .error (.unsupportedVersion c.version)
  else if c.text.version = 0 then .error (.invalid .textVersion)
  else if c.matcher.version = 0 then .error (.invalid .matcherVersion)
  else if c.matcher.contextTokens = 0 then .error (.invalid .matcherContext)
  else .ok ()

def settings (c : Configuration) : Settings where
  version := c.matcher.version
  contextTokens := c.matcher.contextTokens
  folding := c.text

end Configuration

end Licensing
