import Licensing.Text.Folding

namespace Licensing.Matching

open Licensing.Text

/-- How templates are compared with texts. -/
structure Settings where
  version : Nat := 1
  contextTokens : UInt64 := 6
  folding : Folding := {}
  deriving DecidableEq, Repr, Inhabited

inductive SettingsError where
  | versionZero
  | noContext
  | folding (e : FoldingError)
  deriving DecidableEq, Repr

def SettingsError.message : SettingsError → String
  | .versionZero => "invalid match config: match config version must be >= 1"
  | .noContext => "invalid match config: context_tokens must be greater than zero"
  | .folding e => "invalid match config: " ++ e.message

def Settings.check (s : Settings) : Except SettingsError Unit :=
  if s.version = 0 then .error .versionZero
  else if s.contextTokens = 0 then .error .noContext
  else s.folding.check.mapError .folding

/-- Which entries of a catalog are scanned. Scans in parallel give the same answers. -/
structure ScanSettings where
  parallel : Bool := true
  includeDeprecated : Bool := true
  deriving DecidableEq, Repr, Inhabited

end Licensing.Matching
