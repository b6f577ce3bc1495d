import Licensing.Text.Whitespace
import Licensing.Unicode.Lowercase
import Licensing.Unicode.Normalization

namespace Licensing.Text

open Licensing.Unicode

/-- What is folded before texts are compared; version zero is no version. -/
structure Folding where
  version : Nat := 1
  unicode : Bool := true
  words : Bool := true
  deriving DecidableEq, Repr, Inhabited

inductive FoldingError where
  | versionZero
  deriving DecidableEq, Repr

def FoldingError.message : FoldingError → String
  | .versionZero => "invalid configuration: normalize config version must be >= 1"

def Folding.check (f : Folding) : Except FoldingError Unit :=
  if f.version = 0 then .error .versionZero else .ok ()

/-- Quotation marks of all kinds, accents that stand for them, and primes. -/
def isQuote (c : Char) : Bool :=
  c = '"' || c = '`' || c.toNat = 0xB4 || c.toNat = 0xAB || c.toNat = 0xBB ||
    0x2018 ≤ c.toNat && c.toNat ≤ 0x201F || c.toNat = 0x2032 || c.toNat = 0x2033

/-- Hyphens, dashes and minus signs other than the ASCII one. -/
def isDash (c : Char) : Bool :=
  0x2010 ≤ c.toNat && c.toNat ≤ 0x2015 || c.toNat = 0x2212 || c.toNat = 0xFE58 ||
    c.toNat = 0xFE63 || c.toNat = 0xFF0D

/-- Quotes become apostrophes, dashes hyphens, a copyright sign its ASCII spelling. -/
def foldChar (c : Char) : List Char :=
  if isQuote c then ['\'']
  else if isDash c then ['-']
  else if c.toNat = 0xA9 then ['(', 'c', ')']
  else lowercase c

def isAscii (c : Char) : Bool :=
  c.toNat < 128

/-- White space is left as it is, since it separates words in any form. -/
def foldCluster (f : Folding) (cluster : List Char) : List Char :=
  if isBlank cluster then cluster
  else
    let chars := if f.unicode && !cluster.all isAscii then compatibilityForm cluster else cluster
    chars.flatMap foldChar

end Licensing.Text
