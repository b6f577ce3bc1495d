import Licensing.Unicode.Table
import Licensing.Unicode.Data.Graphemes

namespace Licensing.Unicode

/-- What a character is to the segmentation into grapheme clusters. -/
inductive GraphemeClass where
  | carriageReturn | lineFeed | control | extend | joiner | regional | prepend | spacing
  | leading | vowel | trailing | openSyllable | closedSyllable | pictograph | other
  deriving DecidableEq, Repr

/-- The part a character can play in a conjunct of consonants. -/
inductive ConjunctRole where
  | consonant | linker | extender | outsider
  deriving DecidableEq, Repr

namespace GraphemeTables

def controls : Ranges := .parse Data.controls
def extenders : Ranges := .parse Data.extenders
def spacingMarks : Ranges := .parse Data.spacingMarks
def prependers : Ranges := .parse Data.prependers
def pictographs : Ranges := .parse Data.pictographs
def leadingJamo : Ranges := .parse Data.leadingJamo
def vowelJamo : Ranges := .parse Data.vowelJamo
def trailingJamo : Ranges := .parse Data.trailingJamo
def conjunctLinkers : Ranges := .parse Data.conjunctLinkers
def conjunctConsonants : Ranges := .parse Data.conjunctConsonants
def conjunctExtenders : Ranges := .parse Data.conjunctExtenders

end GraphemeTables

open GraphemeTables in
def graphemeClass (c : Char) : GraphemeClass :=
  if c = '\r' then .carriageReturn
  else if c = '\n' then .lineFeed
  else if c.toNat < 0x80 then if c.toNat < 0x20 ∨ c.toNat = 0x7F then .control else .other
  else if c.toNat = 0x200D then .joiner
  else if controls.contains c then .control
  else if extenders.contains c then .extend
  else if spacingMarks.contains c then .spacing
  else if 0x1F1E6 ≤ c.toNat ∧ c.toNat ≤ 0x1F1FF then .regional
  else if 0xAC00 ≤ c.toNat ∧ c.toNat ≤ 0xD7A3 then
    if (c.toNat - 0xAC00) % 28 = 0 then .openSyllable else .closedSyllable
  else if leadingJamo.contains c then .leading
  else if vowelJamo.contains c then .vowel
  else if trailingJamo.contains c then .trailing
  else if pictographs.contains c then .pictograph
  else if prependers.contains c then .prepend
  else .other

open GraphemeTables in
def conjunctRole (c : Char) : ConjunctRole :=
  if c.toNat < 0x300 then .outsider
  else if c.toNat = 0x200D then .extender
  else if conjunctConsonants.contains c then .consonant
  else if conjunctLinkers.contains c then .linker
  else if conjunctExtenders.contains c then .extender
  else .outsider

/-- What the rules look back at. -/
structure ClusterState where
  last : GraphemeClass
  oddRegional : Bool
  pictograph : Bool
  joined : Bool
  consonant : Bool
  linked : Bool

namespace ClusterState

def start : ClusterState :=
  ⟨.control, false, false, false, false, false⟩

def step (s : ClusterState) (c : Char) : ClusterState :=
  let k := graphemeClass c
  let role := conjunctRole c
  { last := k
    oddRegional := k = .regional && !s.oddRegional
    pictograph := k = .pictograph || k = .extend && s.pictograph
    joined := k = .joiner && s.pictograph
    consonant := role = .consonant || (role = .linker || role = .extender) && s.consonant
    linked := role = .linker && s.consonant || role = .extender && s.linked }

def breaksBefore (s : ClusterState) (c : Char) : Bool :=
  match s.last, graphemeClass c with
  | .carriageReturn, .lineFeed => false
  | .carriageReturn, _ | .lineFeed, _ | .control, _ => true
  | _, .carriageReturn | _, .lineFeed | _, .control => true
  | .leading, .leading | .leading, .vowel => false
  | .leading, .openSyllable | .leading, .closedSyllable => false
  | .openSyllable, .vowel | .openSyllable, .trailing | .vowel, .vowel | .vowel, .trailing => false
  | .closedSyllable, .trailing | .trailing, .trailing => false
  | _, .extend | _, .joiner | _, .spacing => false
  | .prepend, _ => false
  | .joiner, .pictograph => !s.joined
  | .regional, .regional => !s.oddRegional
  | _, _ => !(s.linked && conjunctRole c = .consonant)

end ClusterState

/-- What still belongs to the cluster before, and the clusters after it. -/
def clustersAfter (s : ClusterState) : List Char → List Char × List (List Char)
  | [] => ([], [])
  | c :: cs =>
    let (first, rest) := clustersAfter (s.step c) cs
    if s.breaksBefore c then ([], (c :: first) :: rest) else (c :: first, rest)

def clusters : List Char → List (List Char)
  | [] => []
  | c :: cs =>
    let (first, rest) := clustersAfter (ClusterState.start.step c) cs
    (c :: first) :: rest

theorem clustersAfter_flatten (s : ClusterState) (cs : List Char) :
    (clustersAfter s cs).1 ++ (clustersAfter s cs).2.flatten = cs := by
  induction cs generalizing s with
  | nil => rfl
  | cons c cs ih =>
    have := ih (s.step c)
    simp only [clustersAfter]
    split <;> simp [this]

theorem clusters_flatten (cs : List Char) : (clusters cs).flatten = cs := by
  cases cs with
  | nil => rfl
  | cons c cs => simpa [clusters] using clustersAfter_flatten _ cs

theorem ne_nil_of_mem_clustersAfter {s : ClusterState} {cs g : List Char}
    (h : g ∈ (clustersAfter s cs).2) : g ≠ [] := by
  induction cs generalizing s with
  | nil => simp [clustersAfter] at h
  | cons c cs ih =>
    simp only [clustersAfter] at h
    split at h
    · rcases List.mem_cons.1 h with rfl | h
      · simp
      · exact ih h
    · exact ih h

theorem ne_nil_of_mem_clusters {cs g : List Char} (h : g ∈ clusters cs) : g ≠ [] := by
  cases cs with
  | nil => simp [clusters] at h
  | cons c cs =>
    rcases List.mem_cons.1 h with rfl | h
    · simp
    · exact ne_nil_of_mem_clustersAfter h

end Licensing.Unicode
