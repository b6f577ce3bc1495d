import Licensing.Proofs.Descent
import Licensing.Template.Body
import Licensing.Template.Node

namespace Licensing.Template

def Body.nodes : Body → List Node
  | .done => []
  | .text content rest => .text content :: rest.nodes
  | .optional rule inner rest => .optional rule.name inner.nodes :: rest.nodes
  | .variable rule rest =>
    .variable rule.name rule.pattern rule.defaultText rule.sample :: rest.nodes

/-- No text stands right behind a text. The flag tells whether one stands in front. -/
def Separated : (afterText : Bool) → List Piece → Prop
  | _, [] => True
  | afterText, .text _ _ :: rest => afterText = false ∧ Separated true rest
  | _, .rule _ _ :: rest => Separated false rest

theorem separated_textPiece_append {cursor : Cursor} {content : List Char} {rest : List Piece}
    (h : ∀ afterText, Separated afterText rest) :
    Separated false (textPiece cursor content ++ rest) := by
  unfold textPiece
  split
  · exact h false
  · exact ⟨rfl, h true⟩

theorem separated_textPiece (cursor : Cursor) (content : List Char) :
    Separated false (textPiece cursor content) := by
  rw [← List.append_nil (textPiece cursor content)]
  exact separated_textPiece_append fun _ => trivial

theorem separated_piecesFrom (cursor : Cursor) (s : List Char) :
    Separated false (piecesFrom cursor s).1 := by
  fun_induction piecesFrom cursor s with
  | case1 cursor s text hrest => exact separated_textPiece cursor text
  | case2 cursor s text start head rest hrest hbody => exact separated_textPiece cursor text
  | case3 cursor s text start head rest hrest body rest' hbody pieces open? hpieces ih =>
    rw [hpieces] at ih
    exact separated_textPiece_append fun _ => ih

namespace Outline

def current (o : Outline) : List Node :=
  match o.openRegions with
  | (_, nodes) :: _ => nodes
  | [] => o.top

def joins (o : Outline) (node : Node) : Bool :=
  match node, o.current with
  | .text _, .text _ :: _ => true
  | _, _ => false

/-- The bodies stand behind the nodes: the first ends the innermost open region, and so on. -/
def complete (o : Outline) : List Body → List Node
  | [] => o.nodes
  | body :: outer =>
    match o.openRegions with
    | [] => o.top.reverse ++ body.nodes
    | (name, nodes) :: rest =>
      complete (Outline.add { o with openRegions := rest }
        (.optional name (nodes.reverse ++ body.nodes))) outer

section

variable {o : Outline} {node : Node} {body body' : Body} {outer : List Body}

theorem length_add (o : Outline) (node : Node) :
    (o.add node).openRegions.length = o.openRegions.length := by
  unfold add
  cases o.openRegions <;> simp

theorem append_current (h : o.joins node = false) :
    append o.current node = node :: o.current := by
  unfold joins at h
  unfold append
  split
  · rename_i hcurrent
    simp [hcurrent] at h
  · rfl

theorem current_add (h : o.joins node = false) : (o.add node).current = node :: o.current := by
  rw [← append_current h]
  unfold add current
  cases o.openRegions <;> rfl

theorem joins_add {content : List Char} (h : ∀ before, node ≠ .text before) :
    (o.add node).joins (.text content) = false := by
  have hjoins : o.joins node = false := by
    unfold joins
    split
    · exact absurd rfl (h _)
    · rfl
  unfold joins
  rw [current_add hjoins]
  cases node with
  | text before => exact absurd rfl (h before)
  | optional => rfl
  | «variable» => rfl

theorem complete_add (hjoins : o.joins node = false) (hnodes : body'.nodes = node :: body.nodes) :
    complete (o.add node) (body :: outer) = complete o (body' :: outer) := by
  have happend := append_current hjoins
  obtain ⟨top, openRegions⟩ := o
  cases openRegions with
  | nil =>
    simp only [current] at happend
    simp [complete, add, happend, hnodes]
  | cons region rest =>
    simp only [current] at happend
    simp [complete, add, happend, hnodes]

end

/-- The builder takes all events of a reading inside `depth` regions and ends with its nodes. -/
def Builds (o : Outline) (depth : Nat) (r : Reading) : Prop :=
  ∃ last, sink.feed o r.events = (last, none) ∧
    (r.error = none → ∃ body outer, Body.rests r.events = body :: outer ∧ outer.length = depth ∧
      last.nodes = complete o (body :: outer))

namespace Builds

variable {o : Outline} {depth : Nat} {r : Reading}

theorem fail {e : TemplateError} : Builds o depth (.fail e) :=
  ⟨o, rfl, fun h => by cases h⟩

theorem finish (hopen : o.openRegions = []) : Builds o 0 ⟨[.finish], none⟩ := by
  refine ⟨o, rfl, fun _ => ⟨.done, [], rfl, rfl, ?_⟩⟩
  simp [complete, hopen, Body.nodes, nodes]

theorem text {content : List Char} {position : Text.Position}
    (hjoins : o.joins (.text content) = false) (h : Builds (o.add (.text content)) depth r) :
    Builds o depth (r.cons (.text content position)) := by
  obtain ⟨last, hlast, hnodes⟩ := h
  refine ⟨last, hlast, fun herror => ?_⟩
  obtain ⟨rest, outer, hrests, hdepth, hlast'⟩ := hnodes herror
  refine ⟨.text content rest, outer, ?_, hdepth, hlast'.trans (complete_add hjoins rfl)⟩
  simp only [Reading.cons, Body.rests, hrests]

theorem «variable» {rule : VariableRule}
    (h : Builds (o.add (.variable rule.name rule.pattern rule.defaultText rule.sample)) depth r) :
    Builds o depth (r.cons (.variable rule)) := by
  obtain ⟨last, hlast, hnodes⟩ := h
  refine ⟨last, hlast, fun herror => ?_⟩
  obtain ⟨rest, outer, hrests, hdepth, hlast'⟩ := hnodes herror
  refine ⟨.variable rule rest, outer, ?_, hdepth, hlast'.trans (complete_add rfl rfl)⟩
  simp only [Reading.cons, Body.rests, hrests]

theorem beginOptional {rule : OptionalRule}
    (h : Builds { o with openRegions := (rule.name, []) :: o.openRegions } (depth + 1) r) :
    Builds o depth (r.cons (.beginOptional rule)) := by
  obtain ⟨last, hlast, hnodes⟩ := h
  refine ⟨last, hlast, fun herror => ?_⟩
  obtain ⟨inner, outer, hrests, hdepth, hlast'⟩ := hnodes herror
  obtain ⟨rest, outer, rfl⟩ := List.exists_cons_of_length_eq_add_one hdepth
  refine ⟨.optional rule inner rest, outer, ?_, Nat.succ.inj hdepth, ?_⟩
  · simp only [Reading.cons, Body.rests, hrests]
  · exact hlast'.trans (complete_add rfl rfl)

theorem endOptional {rule : OptionalRule} {name : Option (List Char)} {nodes : List Node}
    {regions : List (Option (List Char) × List Node)}
    (hopen : o.openRegions = (name, nodes) :: regions)
    (h : Builds (Outline.add { o with openRegions := regions } (.optional name nodes.reverse)) depth
      r) :
    Builds o (depth + 1) (r.cons (.endOptional rule)) := by
  obtain ⟨last, hlast, hnodes⟩ := h
  refine ⟨last, ?_, fun herror => ?_⟩
  · simp only [Reading.cons, Sink.feed, sink, hopen]
    exact hlast
  · obtain ⟨rest, outer, hrests, hdepth, hlast'⟩ := hnodes herror
    refine ⟨.done, rest :: outer, ?_, congrArg Nat.succ hdepth, ?_⟩
    · simp only [Reading.cons, Body.rests, hrests]
    · rw [hlast', complete.eq_def o]
      simp only [hopen, Body.nodes, List.append_nil]

end Builds

theorem builds_readPieces [Engine] {openRules : List OptionalRule} {pieces : List Piece}
    {tail : Option Nat} {afterText : Bool} {o : Outline} (hsep : Separated afterText pieces)
    (hopen : o.openRegions.length = openRules.length)
    (htext : afterText = false → ∀ content, o.joins (.text content) = false) :
    Builds o openRules.length (readPieces openRules pieces tail) := by
  induction pieces generalizing openRules afterText o with
  | nil =>
    cases tail with
    | some line => exact .fail
    | none =>
      cases openRules with
      | cons rule rules => exact .fail
      | nil => exact .finish (List.length_eq_zero_iff.1 hopen)
  | cons piece pieces ih =>
    cases piece with
    | text content position =>
      obtain ⟨rfl, hsep⟩ := hsep
      exact .text (htext rfl content) (ih hsep ((length_add _ _).trans hopen) (by simp))
    | rule body line =>
      have hsep : Separated false pieces := hsep
      simp only [readPieces]
      cases Rule.parse body line with
      | error e => exact .fail
      | ok rule =>
        cases rule with
        | «variable» rule =>
          exact .variable (ih hsep ((length_add _ _).trans hopen) fun _ _ => joins_add (by simp))
        | beginOptional rule =>
          exact .beginOptional (ih hsep (congrArg Nat.succ hopen) fun _ _ => rfl)
        | endOptional =>
          cases openRules with
          | nil => exact .fail
          | cons rule rules =>
            obtain ⟨⟨name, nodes⟩, regions, hregions⟩ := List.exists_cons_of_length_eq_add_one hopen
            have hlength : regions.length = rules.length := by
              rw [hregions] at hopen
              exact Nat.succ.inj hopen
            exact .endOptional hregions
              (ih hsep ((length_add _ _).trans hlength) fun _ _ => joins_add (by simp))

end Outline

/-- The tree of a template is that of its body, and there is none where there is no body. -/
theorem parseTree_eq [Engine] (template : List Char) :
    parseTree template = (Body.parse template).map Body.nodes := by
  have hbuilds : Outline.Builds {} 0 (read template) :=
    Outline.builds_readPieces (separated_piecesFrom {} template) rfl fun _ _ => rfl
  obtain ⟨last, hfeed, hnodes⟩ := hbuilds
  rw [parseTree, Sink.run, Sink.read_eq, Body.parse, hfeed]
  rcases hread : read template with ⟨events, error⟩
  rw [hread] at hnodes
  cases error with
  | some e => rfl
  | none =>
    obtain ⟨body, outer, hrests, hdepth, hlast⟩ := hnodes rfl
    simp [hrests, hlast, Outline.complete, Except.map]

end Licensing.Template
