import Licensing.Matching.Matcher

namespace Licensing.Catalog

open Licensing.Text Licensing.Template Licensing.Matching

variable [Engine]

/-- An entry, with the first result of compiling it, whichever matcher asked for it. -/
structure Entry where
  id : String
  text : List Char
  template : Option (List Char) := none
  deprecated : Bool := false
  kept : Option (Except TemplateError Program) := none

namespace Entry

/-- What was kept belongs to the old template and is dropped. -/
def withTemplate (e : Entry) (template : List Char) : Entry :=
  { e with template := some template, kept := none }

def withDeprecated (e : Entry) (deprecated : Bool) : Entry :=
  { e with deprecated }

/-- The template unless it is missing or blank, and the plain text then. -/
def source (e : Entry) : List Char :=
  match e.template with
  | some template => if isBlank template then e.text else template
  | none => e.text

def keep (m : Matcher) (e : Entry) : Except TemplateError Program × Entry :=
  match e.kept with
  | some result => (result, e)
  | none =>
    let result := m.compile e.source
    (result, { e with kept := some result })

/-- What is kept serves matchers with the same folding, and an error serves all. -/
def compiled (m : Matcher) (e : Entry) : Except TemplateError Program × Entry :=
  match e.keep m with
  | (.ok p, e) => (if p.folding = m.settings.folding then .ok p else m.compile e.source, e)
  | (.error err, e) => (.error err, e)

theorem keep_eq (m : Matcher) (e : Entry) :
    e.keep m = (e.kept.getD (m.compile e.source),
      { e with kept := some (e.kept.getD (m.compile e.source)) }) := by
  obtain ⟨id, text, template, deprecated, kept⟩ := e
  cases kept <;> rfl

theorem compiled_snd (m : Matcher) (e : Entry) :
    (e.compiled m).2 = { e with kept := some (e.kept.getD (m.compile e.source)) } := by
  rw [compiled, keep_eq]
  cases e.kept.getD (m.compile e.source) <;> rfl

def servesKept (m : Matcher) (e : Entry) : Bool :=
  match e.kept with
  | some (.ok p) => p.folding = m.settings.folding
  | _ => false

def sameId (a b : String) : Bool :=
  Unicode.eqIgnoringAsciiCase a.toList b.toList

end Entry

end Licensing.Catalog
