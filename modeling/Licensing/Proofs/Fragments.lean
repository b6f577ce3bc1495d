import Licensing.Proofs.Descent
import Licensing.Proofs.Respelling
import Licensing.Template.Rendering

namespace Licensing.Template

open Licensing.Text Licensing.Pattern

/-- Fixed text, or the default text of a variable with its rule. -/
structure Fragment where
  text : List Char
  rule : Option VariableRule

def Event.fragment? : Event → Option Fragment
  | .text content _ => some ⟨content, none⟩
  | .variable rule => some ⟨rule.defaultText, some rule⟩
  | _ => none

/-- The fragments of a template, in order, with those of all optional regions. -/
def fragments [Engine] (template : List Char) : List Fragment :=
  (read template).events.filterMap Event.fragment?

def Fragment.join (fragments : List Fragment) : List Char :=
  fragments.flatMap (·.text)

def Body.fragments : Body → List Fragment
  | .done => []
  | .text content rest => ⟨content, none⟩ :: rest.fragments
  | .optional _ inner rest => inner.fragments ++ rest.fragments
  | .variable rule rest => ⟨rule.defaultText, some rule⟩ :: rest.fragments

/-- The events from inside some open regions to the end of a template. -/
inductive Closes : List OptionalRule → List Event → Prop where
  | finish : Closes [] [.finish]
  | text {openRules events content position} (h : Closes openRules events) :
      Closes openRules (.text content position :: events)
  | «variable» {openRules events rule} (h : Closes openRules events) :
      Closes openRules (.variable rule :: events)
  | beginOptional {openRules events rule} (h : Closes (rule :: openRules) events) :
      Closes openRules (.beginOptional rule :: events)
  | endOptional {openRules events rule} (h : Closes openRules events) :
      Closes (rule :: openRules) (.endOptional rule :: events)

section

variable {openRules : List OptionalRule} {events : List Event} {template text : List Char}

theorem closes_readPieces [Engine] {found : List Piece} {tail : Option Nat}
    (herror : (readPieces openRules found tail).error = none) :
    Closes openRules (readPieces openRules found tail).events := by
  induction found generalizing openRules with
  | nil =>
    cases tail with
    | some line => cases herror
    | none =>
      cases openRules with
      | nil => exact .finish
      | cons rule outer => cases herror
  | cons piece found ih =>
    cases piece with
    | text content position => exact .text (ih herror)
    | rule body line =>
      simp only [readPieces] at herror ⊢
      cases hparse : Rule.parse body line with
      | error e =>
        rw [hparse] at herror
        cases herror
      | ok rule =>
        rw [hparse] at herror
        cases rule with
        | «variable» rule => exact .variable (ih herror)
        | beginOptional rule => exact .beginOptional (ih herror)
        | endOptional =>
          cases openRules with
          | nil => cases herror
          | cons rule outer => exact .endOptional (ih herror)

theorem Closes.fragments (h : Closes openRules events) :
    ∃ body outer, Body.rests events = body :: outer ∧ outer.length = openRules.length ∧
      events.filterMap Event.fragment? = (body :: outer).flatMap Body.fragments := by
  induction h with
  | finish => exact ⟨.done, [], rfl, rfl, rfl⟩
  | text h ih =>
    obtain ⟨body, outer, hrests, hlength, hfragments⟩ := ih
    refine ⟨.text _ body, outer, by rw [Body.rests, hrests], hlength, ?_⟩
    rw [List.filterMap_cons, hfragments]
    rfl
  | «variable» h ih =>
    obtain ⟨body, outer, hrests, hlength, hfragments⟩ := ih
    refine ⟨.variable _ body, outer, by rw [Body.rests, hrests], hlength, ?_⟩
    rw [List.filterMap_cons, hfragments]
    rfl
  | beginOptional h ih =>
    obtain ⟨inner, outer, hrests, hlength, hfragments⟩ := ih
    obtain ⟨rest, outer, rfl⟩ := List.exists_cons_of_length_eq_add_one hlength
    refine ⟨.optional _ inner rest, outer, by rw [Body.rests, hrests], Nat.succ.inj hlength, ?_⟩
    rw [List.filterMap_cons, hfragments]
    simp [Event.fragment?, Body.fragments]
  | endOptional h ih =>
    obtain ⟨body, outer, hrests, hlength, hfragments⟩ := ih
    refine ⟨.done, body :: outer, by rw [Body.rests, hrests], congrArg Nat.succ hlength, ?_⟩
    rw [List.filterMap_cons, hfragments]
    rfl

theorem Body.parse_fragments [Engine] {body : Body} (h : Body.parse template = .ok body) :
    Template.fragments template = body.fragments := by
  have hcloses (herror : (read template).error = none) : Closes [] (read template).events :=
    closes_readPieces herror
  unfold Body.parse at h
  unfold Template.fragments
  cases hread : read template with
  | mk events error =>
    rw [hread] at h hcloses
    cases error with
    | some e => cases h
    | none =>
      obtain rfl := Except.ok.inj h
      obtain ⟨body, outer, hrests, hlength, hfragments⟩ := (hcloses rfl).fragments
      obtain rfl := List.length_eq_zero_iff.1 hlength
      simp [hrests, hfragments]

theorem feed_plainSink (before : List Char) (events : List Event) :
    plainSink.feed before events =
      (before ++ Fragment.join (events.filterMap Event.fragment?), none) := by
  induction events generalizing before with
  | nil => simp [Sink.feed, Fragment.join]
  | cons event events ih =>
    cases event <;>
      simp [Sink.feed, plainSink, ih, Event.fragment?, Fragment.join, List.filterMap_cons]

/-- The text that a template was written from is that of its fragments. -/
theorem plainText_eq [Engine] (template : List Char) :
    plainText template =
      (Body.parse template).map fun _ => Fragment.join (Template.fragments template) := by
  simp only [plainText, Sink.run, Sink.read_eq, feed_plainSink, Body.parse, Template.fragments]
  cases read template with
  | mk events error => cases error <;> rfl

end

section

variable {s field body rest value : List Char} {inQuote escaped : Bool}

theorem takeBody_subset (h : takeBody inQuote escaped s = some (body, rest)) :
    body ⊆ s ∧ rest ⊆ s := by
  induction s generalizing inQuote escaped body with
  | nil => cases h
  | cons c cs ih =>
    have step {inQuote escaped : Bool} {body : List Char}
        (h : (takeBody inQuote escaped cs).map (fun found => (c :: found.1, found.2)) =
          some (body, rest)) : body ⊆ c :: cs ∧ rest ⊆ c :: cs := by
      obtain ⟨⟨inner, rest⟩, hinner, heq⟩ := Option.map_eq_some_iff.1 h
      cases heq
      obtain ⟨hbody, hrest⟩ := ih hinner
      exact ⟨List.cons_subset_cons c hbody, fun d hd => List.mem_cons_of_mem c (hrest hd)⟩
    simp only [takeBody] at h
    split at h
    · exact step h
    · split at h
      · exact step h
      · split at h
        · exact step h
        · split at h
          · cases h
            exact ⟨List.nil_subset _, fun d hd => List.mem_cons_of_mem c (List.mem_of_mem_tail hd)⟩
          · exact step h

theorem fieldsFrom_subset {fields : List (List Char)}
    (h : fieldsFrom field inQuote escaped s = some fields) :
    ∀ found ∈ fields, found ⊆ field ++ s := by
  induction s generalizing field inQuote escaped fields with
  | nil =>
    simp only [fieldsFrom] at h
    split at h
    · cases h
    · cases h
      simp
  | cons c cs ih =>
    have step {inQuote escaped : Bool}
        (h : fieldsFrom (c :: field) inQuote escaped cs = some fields) :
        ∀ found ∈ fields, found ⊆ field ++ c :: cs := by
      intro found hfound d hd
      have hmem := ih h found hfound hd
      simpa [or_left_comm] using hmem
    simp only [fieldsFrom] at h
    split at h
    · exact step h
    · split at h
      · exact step h
      · split at h
        · exact step h
        · split at h
          · obtain ⟨rest, hrest, rfl⟩ := Option.map_eq_some_iff.1 h
            intro found hfound d hd
            rcases List.mem_cons.1 hfound with rfl | hfound
            · exact List.mem_append_left _ (List.mem_reverse.1 hd)
            · have hmem := ih hrest found hfound hd
              exact List.mem_append_right _ (List.mem_cons_of_mem c (by simpa using hmem))
          · exact step h

theorem unescapeQuotes_subset (s : List Char) : unescapeQuotes s ⊆ s := by
  induction s using unescapeQuotes.induct with
  | case1 cs ih =>
    rw [unescapeQuotes]
    exact List.Subset.trans (List.cons_subset_cons '"' ih) (List.subset_cons_self _ _)
  | case2 c cs hc ih =>
    rw [unescapeQuotes]
    · exact List.cons_subset_cons c ih
    · exact hc
  | case3 => exact List.Subset.refl _

theorem unquote_subset (h : unquote s = .ok value) : value ⊆ s := by
  unfold unquote at h
  split at h
  · split at h
    · cases h
      intro c hc
      exact List.mem_cons_of_mem _ (List.dropLast_subset _ (unescapeQuotes_subset _ hc))
    · cases h
  · cases h
    exact List.Subset.refl _

theorem trim_subset (s : List Char) : trim s ⊆ s := by
  intro c hc
  have hmem := List.mem_reverse.1 hc
  have hmem := (List.dropWhile_suffix _).subset hmem
  exact (List.dropWhile_suffix _).subset (List.mem_reverse.1 hmem)

theorem parseField_subset {found : List Char × List Char} (h : parseField field = .ok found) :
    found.2 ⊆ field := by
  unfold parseField at h
  split at h
  · cases h
  · rename_i c value hdrop
    obtain ⟨v, hv, rfl⟩ := exists_of_map_eq_ok h
    have hvalue : value ⊆ field := fun d hd =>
      (List.dropWhile_suffix _).subset (hdrop ▸ List.mem_cons_of_mem c hd)
    exact List.Subset.trans (unquote_subset hv) (List.Subset.trans (trim_subset value) hvalue)

theorem parseFields_subset {fields : List (List Char)} {attributes : List (List Char × List Char)}
    (h : parseFields fields = .ok attributes) :
    ∀ found ∈ attributes, ∃ field ∈ fields, found.2 ⊆ field := by
  induction fields generalizing attributes with
  | nil =>
    cases h
    simp
  | cons field fields ih =>
    have hrest {attributes : List (List Char × List Char)}
        (h : parseFields fields = .ok attributes) :
        ∀ found ∈ attributes, ∃ other ∈ field :: fields, found.2 ⊆ other := by
      intro found hfound
      obtain ⟨other, hother, hsubset⟩ := ih h found hfound
      exact ⟨other, List.mem_cons_of_mem field hother, hsubset⟩
    rw [parseFields] at h
    split at h
    · exact hrest h
    · cases hfirst : parseField (trim field) with
      | error fault =>
        rw [hfirst] at h
        cases h
      | ok first =>
        cases hlater : parseFields fields with
        | error fault =>
          rw [hfirst, hlater] at h
          cases h
        | ok later =>
          rw [hfirst, hlater] at h
          cases h
          intro found hfound
          rcases List.mem_cons.1 hfound with rfl | hfound
          · exact ⟨field, List.mem_cons_self,
              List.Subset.trans (parseField_subset hfirst) (trim_subset field)⟩
          · exact hrest hlater found hfound

theorem build_defaultText [Engine] {name defaultText : List Char}
    {pattern? sample : Option (List Char)} {line : Nat} {rule : VariableRule}
    (h : VariableRule.build name defaultText pattern? line sample = .ok rule) :
    rule.defaultText = defaultText := by
  unfold VariableRule.build at h
  split at h
  · cases h
  · split at h
    split at h
    · cases h
      rfl
    · cases h

theorem Rule.parse_subset [Engine] {line : Nat} {rule : VariableRule}
    (h : Rule.parse body line = .ok (.variable rule)) : rule.defaultText ⊆ body := by
  unfold Rule.parse at h
  split at h
  · cases h
  · rename_i fields hfields
    split at h
    · cases h
    · rename_i attributes hattributes
      have hvalue {key value : List Char} (hlookup : attributes.lookup key = some value) :
          value ⊆ body := by
        obtain ⟨before, after, hmem, -⟩ := List.lookup_eq_some_iff.1 hlookup
        obtain ⟨field, hfield, hsubset⟩ :=
          parseFields_subset hattributes (key, value) (by rw [hmem]; simp)
        have hbody := fieldsFrom_subset hfields field (List.mem_of_mem_tail hfield)
        exact List.Subset.trans hsubset hbody
      have hdefault : (attributes.lookup "original".toList).getD [] ⊆ body := by
        cases hlookup : attributes.lookup "original".toList with
        | none => exact List.nil_subset body
        | some value => exact hvalue hlookup
      dsimp only at h
      split at h
      · split at h
        · cases h
        · obtain ⟨built, hbuild, heq⟩ := exists_of_map_eq_ok h
          cases heq
          rw [build_defaultText hbuild]
          exact hdefault
      · split at h
        · cases h
        · split at h <;> cases h

def Piece.content : Piece → List Char
  | .text content _ => content
  | .rule body _ => body

theorem piecesFrom_subset (cursor : Cursor) (s : List Char) :
    ∀ piece ∈ (piecesFrom cursor s).1, piece.content ⊆ s := by
  have htext {cursor : Cursor} {s : List Char} :
      ∀ piece ∈ textPiece cursor (beforeRule s).1, piece.content ⊆ s := by
    intro piece hpiece
    unfold textPiece at hpiece
    split at hpiece
    · cases hpiece
    · obtain rfl := List.mem_singleton.1 hpiece
      have hsubset : (beforeRule s).1 ⊆ (beforeRule s).1 ++ (beforeRule s).2 :=
        List.subset_append_left _ _
      rwa [beforeRule_append] at hsubset
  fun_induction piecesFrom cursor s with
  | case1 cursor s text hrest => exact htext
  | case2 cursor s text start head rest hrest hbody => exact htext
  | case3 cursor s text start head rest hrest body rest' hbody pieces open? hpieces ih =>
    rw [hpieces] at ih
    have hafter : rest.tail ⊆ s := by
      have hsubset : (beforeRule s).2 ⊆ (beforeRule s).1 ++ (beforeRule s).2 :=
        List.subset_append_right _ _
      rw [beforeRule_append, hrest] at hsubset
      exact fun c hc => hsubset (List.mem_cons_of_mem head (List.mem_of_mem_tail hc))
    obtain ⟨hbodySubset, hrestSubset⟩ := takeBody_subset hbody
    intro piece hpiece
    rcases List.mem_append.1 hpiece with hpiece | hpiece
    · exact htext piece hpiece
    · rcases List.mem_cons.1 hpiece with rfl | hpiece
      · exact List.Subset.trans hbodySubset hafter
      · exact List.Subset.trans (ih piece hpiece) (List.Subset.trans hrestSubset hafter)

theorem readPieces_subset [Engine] {openRules : List OptionalRule} {found : List Piece}
    {tail : Option Nat} {fragment : Fragment}
    (h : fragment ∈ (readPieces openRules found tail).events.filterMap Event.fragment?) :
    ∃ piece ∈ found, fragment.text ⊆ piece.content := by
  induction found generalizing openRules with
  | nil =>
    cases tail with
    | some line => cases h
    | none => cases openRules <;> cases h
  | cons piece found ih =>
    have hlater {openRules : List OptionalRule}
        (h : fragment ∈ (readPieces openRules found tail).events.filterMap Event.fragment?) :
        ∃ other ∈ piece :: found, fragment.text ⊆ other.content := by
      obtain ⟨other, hother, hsubset⟩ := ih h
      exact ⟨other, List.mem_cons_of_mem piece hother, hsubset⟩
    cases piece with
    | text content position =>
      rcases List.mem_cons.1 h with rfl | h
      · exact ⟨_, List.mem_cons_self, List.Subset.refl _⟩
      · exact hlater h
    | rule body line =>
      simp only [readPieces] at h
      cases hparse : Rule.parse body line with
      | error e =>
        rw [hparse] at h
        cases h
      | ok rule =>
        rw [hparse] at h
        cases rule with
        | «variable» rule =>
          rcases List.mem_cons.1 h with rfl | h
          · exact ⟨_, List.mem_cons_self, Rule.parse_subset hparse⟩
          · exact hlater h
        | beginOptional rule => exact hlater h
        | endOptional =>
          cases openRules with
          | nil => cases h
          | cons rule outer => exact hlater h

theorem fragments_subset [Engine] (template : List Char) :
    ∀ fragment ∈ Template.fragments template, fragment.text ⊆ template := by
  intro fragment hfragment
  obtain ⟨piece, hpiece, hsubset⟩ := readPieces_subset hfragment
  exact List.Subset.trans hsubset (piecesFrom_subset {} template piece hpiece)

end

end Licensing.Template
