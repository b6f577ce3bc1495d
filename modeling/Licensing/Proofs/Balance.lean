import Licensing.Proofs.EventPlaces
import Licensing.Proofs.Fragments
import Licensing.Proofs.Refusal
import Mathlib.Data.List.Infix

namespace Licensing.Template

/-- The line of a rule that begins a region, or of one that ends a region. -/
inductive Bracket where
  | opening (line : Nat)
  | closing (line : Nat)

def Piece.bracket? [Engine] : Piece → Option Bracket
  | .text _ _ => none
  | .rule body line =>
    match Rule.parse body line with
    | .ok (.beginOptional _) => some (.opening line)
    | .ok .endOptional => some (.closing line)
    | _ => none

def brackets [Engine] (found : List Piece) : List Bracket :=
  found.filterMap Piece.bracket?

def begun : List Bracket → Nat
  | [] => 0
  | .opening _ :: word => begun word + 1
  | .closing _ :: word => begun word

def ended : List Bracket → Nat
  | [] => 0
  | .opening _ :: word => ended word
  | .closing _ :: word => ended word + 1

/-- A word that ends `n` regions open in front of it and all that it begins. -/
structure EndsRegions (n : Nat) (word : List Bracket) : Prop where
  ended_le : ∀ start, start <+: word → ended start ≤ begun start + n
  ended_eq : ended word = begun word + n

def Balanced (word : List Bracket) : Prop :=
  EndsRegions 0 word

instance (n : Nat) (word : List Bracket) : Decidable (EndsRegions n word) :=
  decidable_of_iff
    ((∀ start ∈ word.inits, ended start ≤ begun start + n) ∧ ended word = begun word + n) <| by
    simp only [List.mem_inits]
    exact ⟨fun h => ⟨h.1, h.2⟩, fun h => ⟨h.1, h.2⟩⟩

instance (word : List Bracket) : Decidable (Balanced word) :=
  inferInstanceAs (Decidable (EndsRegions 0 word))

/-- The lines of the open regions, the innermost first, or of the first rule that ends none. -/
def openBehind (openLines : List Nat) : List Bracket → Except Nat (List Nat)
  | [] => .ok openLines
  | .opening line :: word => openBehind (line :: openLines) word
  | .closing line :: word =>
    match openLines with
    | [] => .error line
    | _ :: outer => openBehind outer word

def bracketError : Except Nat (List Nat) → Option TemplateError
  | .error line => some (.unexpectedEnd line)
  | .ok [] => none
  | .ok (line :: _) => some (.unterminatedOptional line)

/-- The event of a piece. The end of a region tells of any rule. -/
inductive Piece.Yields [Engine] : Piece → Event → Prop where
  | text (content : List Char) (position : Text.Position) :
      Yields (.text content position) (.text content position)
  | «variable» {body : List Char} {line : Nat} {parsed : VariableRule}
      (h : Rule.parse body line = .ok (.variable parsed)) :
      Yields (.rule body line) (.variable parsed)
  | beginOptional {body : List Char} {line : Nat} {region : OptionalRule}
      (h : Rule.parse body line = .ok (.beginOptional region)) :
      Yields (.rule body line) (.beginOptional region)
  | endOptional {body : List Char} {line : Nat} (h : Rule.parse body line = .ok .endOptional)
      (region : OptionalRule) :
      Yields (.rule body line) (.endOptional region)

/-- The events are those of some first pieces, and the last one only without an error. -/
def Reading.Follows [Engine] (r : Reading) (found : List Piece) : Prop :=
  ∃ shown events, shown <+: found ∧ List.Forall₂ Piece.Yields shown events ∧
    (shown = found ∧ r = ⟨events ++ [.finish], none⟩ ∨ ∃ e, r = ⟨events, some e⟩)

/-- Events in which every region ends, with the rule that began it. -/
inductive Nested : List Event → Prop where
  | nil : Nested []
  | text {content : List Char} {position : Text.Position} {rest : List Event} (h : Nested rest) :
      Nested (.text content position :: rest)
  | «variable» {rule : VariableRule} {rest : List Event} (h : Nested rest) :
      Nested (.variable rule :: rest)
  | region {rule : OptionalRule} {inner rest : List Event} (hinner : Nested inner)
      (hrest : Nested rest) :
      Nested (.beginOptional rule :: inner ++ .endOptional rule :: rest)

section

variable {n line : Nat} {openLines : List Nat} {openRules : List OptionalRule}
  {word : List Bracket} {found : List Piece} {events : List Event}

theorem endsRegions_nil : EndsRegions n [] ↔ n = 0 := by
  constructor
  · intro h
    have heq := h.ended_eq
    rw [ended, begun, Nat.zero_add] at heq
    exact heq.symm
  · rintro rfl
    constructor
    · intro start hstart
      rw [List.prefix_nil.1 hstart]
      exact Nat.zero_le _
    · rfl

theorem forall_prefix_cons {b : Bracket} {p : List Bracket → Prop} :
    (∀ start, start <+: b :: word → p start) ↔ p [] ∧ ∀ start, start <+: word → p (b :: start) := by
  constructor
  · intro h
    exact ⟨h [] List.nil_prefix, fun start hstart =>
      h (b :: start) (List.cons_prefix_cons.2 ⟨rfl, hstart⟩)⟩
  · rintro ⟨hnil, hcons⟩ start hstart
    rcases List.prefix_cons_iff.1 hstart with rfl | ⟨start, rfl, hrest⟩
    · exact hnil
    · exact hcons start hrest

theorem endsRegions_opening :
    EndsRegions n (.opening line :: word) ↔ EndsRegions (n + 1) word := by
  constructor
  · rintro ⟨hle, heq⟩
    obtain ⟨-, hle⟩ := forall_prefix_cons.1 hle
    simp only [ended, begun, Nat.add_assoc, Nat.add_comm 1 n] at hle heq
    exact ⟨hle, heq⟩
  · rintro ⟨hle, heq⟩
    refine ⟨forall_prefix_cons.2 ⟨Nat.zero_le _, ?_⟩, ?_⟩
    · simpa only [ended, begun, Nat.add_assoc, Nat.add_comm 1 n] using hle
    · simpa only [ended, begun, Nat.add_assoc, Nat.add_comm 1 n] using heq

theorem endsRegions_closing :
    EndsRegions (n + 1) (.closing line :: word) ↔ EndsRegions n word := by
  constructor
  · rintro ⟨hle, heq⟩
    obtain ⟨-, hle⟩ := forall_prefix_cons.1 hle
    exact ⟨fun start hstart => Nat.succ_le_succ_iff.1 (hle start hstart), Nat.succ.inj heq⟩
  · rintro ⟨hle, heq⟩
    exact ⟨forall_prefix_cons.2 ⟨Nat.zero_le _, fun start hstart =>
      Nat.succ_le_succ (hle start hstart)⟩, congrArg Nat.succ heq⟩

theorem not_endsRegions_closing : ¬ EndsRegions 0 (.closing line :: word) := by
  intro h
  obtain ⟨-, hle⟩ := forall_prefix_cons.1 h.ended_le
  exact Nat.not_succ_le_zero 0 (hle [] List.nil_prefix)

theorem openBehind_eq_nil :
    openBehind openLines word = .ok [] ↔ EndsRegions openLines.length word := by
  induction word generalizing openLines with
  | nil =>
    rw [openBehind, endsRegions_nil, List.length_eq_zero_iff, Except.ok.injEq]
  | cons bracket word ih =>
    cases bracket with
    | opening start => rw [openBehind, ih, endsRegions_opening, List.length_cons]
    | closing line =>
      cases openLines with
      | nil =>
        constructor
        · intro h
          cases h
        · exact fun h => absurd h not_endsRegions_closing
      | cons start outer => rw [openBehind, ih, List.length_cons, endsRegions_closing]

theorem exists_split_cons {b c : Bracket} {p : List Bracket → Prop} :
    (∃ before after, b :: word = before ++ c :: after ∧ p before) ↔
      b = c ∧ p [] ∨ ∃ before after, word = before ++ c :: after ∧ p (b :: before) := by
  constructor
  · rintro ⟨before, after, hword, hbefore⟩
    cases before with
    | nil =>
      cases hword
      exact .inl ⟨rfl, hbefore⟩
    | cons first before =>
      cases hword
      exact .inr ⟨before, after, rfl, hbefore⟩
  · rintro (⟨rfl, hnil⟩ | ⟨before, after, rfl, hbefore⟩)
    · exact ⟨[], word, rfl, hnil⟩
    · exact ⟨b :: before, after, rfl, hbefore⟩

theorem openBehind_eq_error :
    openBehind openLines word = .error line ↔ ∃ before after,
      word = before ++ .closing line :: after ∧ EndsRegions openLines.length before := by
  induction word generalizing openLines with
  | nil => simp [openBehind]
  | cons bracket word ih =>
    rw [exists_split_cons]
    cases bracket with
    | opening start =>
      rw [openBehind, ih]
      simp only [endsRegions_opening, List.length_cons, reduceCtorEq, false_and, false_or]
    | closing line' =>
      cases openLines with
      | nil =>
        simp only [openBehind, List.length_nil, endsRegions_nil, not_endsRegions_closing,
          Except.error.injEq, Bracket.closing.injEq, and_true, and_false, exists_false, or_false]
      | cons start outer =>
        rw [openBehind, ih]
        simp only [endsRegions_nil, endsRegions_closing, List.length_cons, Nat.succ_ne_zero,
          and_false, false_or]

theorem exists_of_openBehind {outer : List Nat}
    (h : openBehind openLines word = .ok (line :: outer)) :
    (∃ before after, word = before ++ .opening line :: after ∧ Balanced after) ∨
      ∃ k : Nat, openLines[k]? = some line ∧ EndsRegions k word := by
  induction word generalizing openLines with
  | nil =>
    cases h
    exact .inr ⟨0, rfl, endsRegions_nil.2 rfl⟩
  | cons bracket word ih =>
    cases bracket with
    | opening start =>
      rcases ih h with ⟨before, after, rfl, hafter⟩ | ⟨k, hk, hword⟩
      · exact .inl ⟨.opening start :: before, after, rfl, hafter⟩
      · cases k with
        | zero =>
          -- It is the region that begins here.
          cases hk
          exact .inl ⟨[], word, rfl, hword⟩
        | succ k => exact .inr ⟨k, hk, endsRegions_opening.2 hword⟩
    | closing stop =>
      cases openLines with
      | nil => cases h
      | cons start openLines =>
        rcases ih h with ⟨before, after, rfl, hafter⟩ | ⟨k, hk, hword⟩
        · exact .inl ⟨.closing stop :: before, after, rfl, hafter⟩
        · exact .inr ⟨k + 1, hk, endsRegions_closing.2 hword⟩

theorem bracketError_eq_none : bracketError (openBehind [] word) = none ↔ Balanced word := by
  rw [Balanced, ← List.length_nil, ← openBehind_eq_nil]
  rcases openBehind [] word with line | _ | ⟨line, outer⟩ <;> simp [bracketError]

theorem bracketError_of_not_balanced (h : ¬ Balanced word) :
    (∃ before line after, word = before ++ .closing line :: after ∧ Balanced before ∧
        bracketError (openBehind [] word) = some (.unexpectedEnd line)) ∨
      (∀ before line after, word = before ++ .closing line :: after → ¬ Balanced before) ∧
        ∃ before line after, word = before ++ .opening line :: after ∧ Balanced after ∧
          bracketError (openBehind [] word) = some (.unterminatedOptional line) := by
  cases hopen : openBehind [] word with
  | error line =>
    obtain ⟨before, after, hsplit, hbefore⟩ := openBehind_eq_error.1 hopen
    exact .inl ⟨before, line, after, hsplit, hbefore, rfl⟩
  | ok openLines =>
    cases openLines with
    | nil => exact absurd (openBehind_eq_nil.1 hopen) h
    | cons line outer =>
      right
      constructor
      · intro before line' after hsplit hbefore
        have hline : openBehind [] word = .error line' :=
          openBehind_eq_error.2 ⟨before, after, hsplit, hbefore⟩
        cases hopen.symm.trans hline
      · rcases exists_of_openBehind hopen with ⟨before, after, hsplit, hafter⟩ | ⟨k, hk, -⟩
        · exact ⟨before, line, after, hsplit, hafter, rfl⟩
        · cases hk

theorem Reading.follows_fail [Engine] (e : TemplateError) (found : List Piece) :
    (fail e).Follows found :=
  ⟨[], [], List.nil_prefix, .nil, .inr ⟨e, rfl⟩⟩

theorem Reading.Follows.cons [Engine] {piece : Piece} {event : Event} {r : Reading}
    (h : r.Follows found) (hevent : piece.Yields event) :
    (r.cons event).Follows (piece :: found) := by
  obtain ⟨shown, events, hshown, hyields, ⟨rfl, rfl⟩ | ⟨e, rfl⟩⟩ := h
  · exact ⟨_, event :: events, List.prefix_rfl, .cons hevent hyields, .inl ⟨rfl, rfl⟩⟩
  · exact ⟨piece :: shown, event :: events, List.cons_prefix_cons.2 ⟨rfl, hshown⟩,
      .cons hevent hyields, .inr ⟨e, rfl⟩⟩

theorem follows_readPieces [Engine] (openRules : List OptionalRule) (found : List Piece)
    (tail : Option Nat) : (readPieces openRules found tail).Follows found := by
  induction found generalizing openRules with
  | nil =>
    cases tail with
    | some line => exact Reading.follows_fail _ _
    | none =>
      cases openRules with
      | nil => exact ⟨[], [], List.prefix_rfl, .nil, .inl ⟨rfl, rfl⟩⟩
      | cons rule outer => exact Reading.follows_fail _ _
  | cons piece found ih =>
    cases piece with
    | text content position => exact (ih openRules).cons (.text content position)
    | rule body line =>
      simp only [readPieces]
      cases hparse : Rule.parse body line with
      | error e => exact Reading.follows_fail _ _
      | ok parsed =>
        cases parsed with
        | «variable» parsed => exact (ih openRules).cons (.variable hparse)
        | beginOptional region => exact (ih (region :: openRules)).cons (.beginOptional hparse)
        | endOptional =>
          cases openRules with
          | nil => exact Reading.follows_fail _ _
          | cons region outer => exact (ih outer).cons (.endOptional hparse region)

theorem finish_not_mem_of_yields [Engine] {shown : List Piece}
    (h : List.Forall₂ Piece.Yields shown events) : .finish ∉ events := by
  induction h with
  | nil => exact List.not_mem_nil
  | cons hevent _ ih =>
    intro hmem
    rcases List.mem_cons.1 hmem with rfl | hmem
    · cases hevent
    · exact ih hmem

theorem error_readPieces [Engine]
    (hvalid : ∀ body line, .rule body line ∈ found → (Rule.parse body line).isOk) :
    (readPieces openRules found none).error =
      bracketError (openBehind (openRules.map OptionalRule.line) (brackets found)) := by
  induction found generalizing openRules with
  | nil => cases openRules <;> rfl
  | cons piece found ih =>
    have hrest : ∀ body line, .rule body line ∈ found → (Rule.parse body line).isOk :=
      fun body line hmem => hvalid body line (List.mem_cons_of_mem _ hmem)
    cases piece with
    | text content position => exact ih hrest
    | rule body line =>
      have hok := hvalid body line List.mem_cons_self
      simp only [readPieces, brackets, List.filterMap_cons, Piece.bracket?]
      cases hparse : Rule.parse body line with
      | error e =>
        rw [hparse] at hok
        cases hok
      | ok parsed =>
        cases parsed with
        | «variable» parsed => exact ih hrest
        | beginOptional region =>
          have hline := namesLine_parse body line
          rw [hparse] at hline
          rw [← show region.line = line from hline]
          exact ih hrest
        | endOptional =>
          cases openRules with
          | nil => rfl
          | cons region outer => exact ih hrest

theorem Closes.exists_nested (h : Closes openRules events) :
    ∃ inner behind, events = inner ++ behind ∧ Nested inner ∧
      (openRules = [] ∧ behind = [.finish] ∨ ∃ rule outer later, openRules = rule :: outer ∧
        behind = .endOptional rule :: later ∧ Closes outer later) := by
  -- The events behind a region are not just the tail of the given ones: induction on the length.
  induction hlength : events.length using Nat.strongRecOn generalizing openRules events with
  | ind n ih =>
  subst hlength
  cases h with
  | finish => exact ⟨[], _, rfl, .nil, .inl ⟨rfl, rfl⟩⟩
  | text h =>
    obtain ⟨inner, behind, rfl, hinner, hbehind⟩ := ih _ (Nat.lt_succ_self _) h rfl
    exact ⟨_ :: inner, behind, rfl, .text hinner, hbehind⟩
  | «variable» h =>
    obtain ⟨inner, behind, rfl, hinner, hbehind⟩ := ih _ (Nat.lt_succ_self _) h rfl
    exact ⟨_ :: inner, behind, rfl, .variable hinner, hbehind⟩
  | @beginOptional _ _ rule h =>
    obtain ⟨inner, _, rfl, hinner, ⟨hnil, -⟩ | ⟨_, _, later, hregion, rfl, hlater⟩⟩ :=
      ih _ (Nat.lt_succ_self _) h rfl
    · cases hnil
    · cases hregion
      have hshort : later.length < (.beginOptional rule ::
          (inner ++ .endOptional rule :: later)).length := by
        simp only [List.length_cons, List.length_append]
        omega
      obtain ⟨rest, behind, rfl, hrest, hbehind⟩ := ih _ hshort hlater rfl
      exact ⟨.beginOptional rule :: inner ++ .endOptional rule :: rest, behind, by simp,
        .region hinner hrest, hbehind⟩
  | endOptional h => exact ⟨[], _, rfl, .nil, .inr ⟨_, _, _, rfl, rfl, h⟩⟩

theorem finish_not_mem_readPieces [Engine] {tail : Option Nat} {e : TemplateError}
    (h : (readPieces openRules found tail).error = some e) :
    .finish ∉ (readPieces openRules found tail).events := by
  obtain ⟨shown, inner, -, hyields, ⟨-, hend⟩ | ⟨e', hend⟩⟩ :=
    follows_readPieces openRules found tail
  · rw [hend] at h
    cases h
  · rw [hend]
    exact finish_not_mem_of_yields hyields

theorem exists_nested_readPieces [Engine] {tail : Option Nat}
    (h : (readPieces [] found tail).error = none) :
    ∃ inner, (readPieces [] found tail).events = inner ++ [.finish] ∧ .finish ∉ inner ∧
      Nested inner ∧ List.Forall₂ Piece.Yields found inner := by
  obtain ⟨nested, behind, hevents, hnested, hbehind⟩ := (closes_readPieces h).exists_nested
  obtain ⟨shown, inner, -, hyields, ⟨rfl, hend⟩ | ⟨e, hend⟩⟩ := follows_readPieces [] found tail
  · rw [hend] at hevents ⊢
    rcases hbehind with ⟨-, rfl⟩ | ⟨_, _, _, hregion, -⟩
    · obtain rfl := List.append_cancel_right hevents
      exact ⟨inner, rfl, finish_not_mem_of_yields hyields, hnested, hyields⟩
    · cases hregion
  · rw [hend] at h
    cases h

end

/-- Reading gets to the end exactly if the rules that begin and end regions are balanced. -/
theorem read_iff_balanced [Engine] (template : List Char) (hends : (pieces template).2 = none)
    (hvalid : ∀ body line, .rule body line ∈ (pieces template).1 → (Rule.parse body line).isOk) :
    let word := brackets (pieces template).1
    let reading := read template
    (∀ (σ : Type) (receiver : Receiver σ) (state : σ), receiver.RefusesNothing →
      ∃ last, (forM reading.events receiver).run state = .ok () last ∧
        (receiver.read template).run state = outcome reading.error last) ∧
      (reading.error = none ↔ Balanced word) ∧
      (Balanced word → ∃ inner, reading.events = inner ++ [.finish] ∧ .finish ∉ inner ∧
        Nested inner ∧ List.Forall₂ Piece.Yields (pieces template).1 inner) ∧
      (¬ Balanced word → .finish ∉ reading.events ∧
        ((∃ before line after, word = before ++ .closing line :: after ∧ Balanced before ∧
            reading.error = some (.unexpectedEnd line)) ∨
          (∀ before line after, word = before ++ .closing line :: after → ¬ Balanced before) ∧
            ∃ before line after, word = before ++ .opening line :: after ∧ Balanced after ∧
              reading.error = some (.unterminatedOptional line))) := by
  intro word reading
  have hread : reading = readPieces [] (pieces template).1 none := by
    rw [← hends]
    rfl
  have herror : reading.error = bracketError (openBehind [] word) := by
    rw [hread]
    exact error_readPieces hvalid
  refine ⟨?_, ?_, ?_, ?_⟩
  · intro σ receiver state haccepts
    obtain ⟨last, hlast⟩ := haccepts.exists_run_forM reading.events state
    exact ⟨last, hlast, Receiver.run_read_of_accepted hlast⟩
  · rw [herror, bracketError_eq_none]
  · intro hword
    rw [← bracketError_eq_none, ← herror, hread] at hword
    rw [hread]
    exact exists_nested_readPieces hword
  · intro hword
    constructor
    · obtain ⟨e, he⟩ := Option.ne_none_iff_exists'.1 (mt bracketError_eq_none.1 hword)
      rw [← herror, hread] at he
      rw [hread]
      exact finish_not_mem_readPieces he
    · rw [herror]
      exact bracketError_of_not_balanced hword

theorem read_iff_balanced_outer_region :
    let template := "<<beginOptional>>\n<<beginOptional;name=x>>\n<<endOptional>>".toList
    let word := brackets (pieces template).1
    (pieces template).2 = none ∧
      (∀ body line, .rule body line ∈ (pieces template).1 → (Rule.parse body line).isOk) ∧
      ¬ Balanced word ∧ .finish ∉ (read template).events ∧
      ∃ before after, word = before ++ .opening 1 :: after ∧ Balanced after ∧
        (read template).error = some (.unterminatedOptional 1) := by
  intro template word
  have hpieces : pieces template = ([.rule "beginOptional".toList 1, .text ['\n'] ⟨1, 17, 1⟩,
      .rule "beginOptional;name=x".toList 2, .text ['\n'] ⟨2, 24, 1⟩,
      .rule "endOptional".toList 3], none) := by decide +kernel
  have hends : (pieces template).2 = none := by rw [hpieces]
  have hvalid : ∀ body line, .rule body line ∈ (pieces template).1 →
      (Rule.parse body line).isOk := by
    intro body line hmem
    simp only [hpieces, List.mem_cons, Piece.rule.injEq, reduceCtorEq, List.not_mem_nil, or_false,
      false_or] at hmem
    rcases hmem with ⟨rfl, rfl⟩ | ⟨rfl, rfl⟩ | ⟨rfl, rfl⟩ <;> rfl
  have hword : word = [.opening 1, .opening 2, .closing 3] := by
    simp only [word, hpieces]
    rfl
  have herror : (read template).error = some (.unterminatedOptional 1) := by
    rw [read, hpieces]
    rfl
  have hunbalanced : ¬ Balanced word := by
    rw [hword]
    decide
  obtain ⟨hfinish, ⟨_, _, _, -, -, hend⟩ | ⟨-, before, line, after, hsplit, hafter, hopen⟩⟩ :=
    (read_iff_balanced template hends hvalid).2.2.2 hunbalanced
  · cases herror.symm.trans hend
  · obtain rfl : 1 = line := by simpa using herror.symm.trans hopen
    exact ⟨hends, hvalid, hunbalanced, hfinish, before, after, hsplit, hafter, hopen⟩

end Licensing.Template
