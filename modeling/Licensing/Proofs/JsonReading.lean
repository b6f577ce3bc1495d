import Licensing.Json.Expression
import Licensing.Json.Node
import Licensing.Proofs.Equivalence

namespace Licensing

namespace Json

section

variable {α : Type} {encode : α → Json} {decode decode' : Json → Option α} {j v : Json}
  {items : List Json} {members : List (String × Json)} {names : List String} {name : String}
  {r : Record}

theorem depth_pos (j : Json) : 0 < j.depth := by
  cases j with
  | array | object =>
    rw [depth]
    omega
  | _ => exact Nat.one_pos

theorem depth_le_of_mem (h : j ∈ items) : j.depth ≤ listDepth items := by
  induction items with
  | nil => cases h
  | cons item rest ih =>
    rw [listDepth]
    rcases List.mem_cons.1 h with rfl | hrest
    · exact Nat.le_max_left _ _
    · exact Nat.le_trans (ih hrest) (Nat.le_max_right _ _)

theorem depth_le_of_mem_members (h : (name, j) ∈ members) : j.depth ≤ memberDepth members := by
  induction members with
  | nil => cases h
  | cons member rest ih =>
    rw [memberDepth]
    rcases List.mem_cons.1 h with rfl | hrest
    · exact Nat.le_max_left _ _
    · exact Nat.le_trans (ih hrest) (Nat.le_max_right _ _)

theorem mem_of_lookup {β : Type} {pairs : List (String × β)} {b : β}
    (h : pairs.lookup name = some b) : (name, b) ∈ pairs := by
  obtain ⟨before, after, rfl, -⟩ := List.lookup_eq_some_iff.1 h
  simp

theorem depth_lt_of_record? (hr : j.record? names = some r) (hv : r.get? name = some v) :
    v.depth < j.depth := by
  cases j with
  | object members =>
    cases hr
    rw [depth, Nat.add_comm]
    exact Nat.lt_succ_of_le (depth_le_of_mem_members (mem_of_lookup hv))
  | array items =>
    rw [record?] at hr
    split at hr
    · cases hr
      have hmem := (List.of_mem_zip (mem_of_lookup hv)).2
      rw [depth, Nat.add_comm]
      exact Nat.lt_succ_of_le (depth_le_of_mem hmem)
    · cases hr
  | _ => cases hr

theorem list?_congr (h : ∀ item : Json, item.depth < j.depth → decode item = decode' item) :
    j.list? decode = j.list? decode' := by
  cases j with
  | array items =>
    have hitems : ∀ item ∈ items, decode item = decode' item := by
      intro item hitem
      apply h
      rw [depth, Nat.add_comm]
      exact Nat.lt_succ_of_le (depth_le_of_mem hitem)
    change items.mapM decode = items.mapM decode'
    clear h
    induction items with
    | nil => rfl
    | cons item rest ih =>
      rw [List.mapM_cons, List.mapM_cons, hitems item List.mem_cons_self,
        ih fun item hitem => hitems item (List.mem_cons_of_mem _ hitem)]
  | _ => rfl

theorem eq_of_depth_le {read : Nat → Json → Option α} {n m : Nat}
    (hread : ∀ {n m : Nat} {j : Json}, (∀ v : Json, v.depth < j.depth → read n v = read m v) →
      read (n + 1) j = read (m + 1) j)
    (hn : j.depth ≤ n) (hm : j.depth ≤ m) : read n j = read m j := by
  have hpos := depth_pos j
  induction n generalizing m j with
  | zero => omega
  | succ n ih =>
    cases m with
    | zero => omega
    | succ m => exact hread fun v hv => ih (by omega) (by omega) (depth_pos v)

theorem list?_array_map {as : List α} (h : ∀ a ∈ as, decode (encode a) = some a) :
    (array (as.map encode)).list? decode = some as := by
  change (as.map encode).mapM decode = some as
  induction as with
  | nil => rfl
  | cons a as ih =>
    rw [List.map_cons, List.mapM_cons, h a List.mem_cons_self,
      ih fun a ha => h a (List.mem_cons_of_mem _ ha)]
    rfl

end

end Json

open Json

namespace Expression

variable {n m : Nat} {j v : Json} {names : List String} {name : String}

theorem depth_lt_of_field? (h : field? names j name = some v) : v.depth < j.depth := by
  obtain ⟨r, hr, hv⟩ := Option.bind_eq_some_iff.1 h
  exact depth_lt_of_record? hr hv

theorem ofJsonWithin_congr
    (h : ∀ v : Json, v.depth < j.depth → ofJsonWithin n v = ofJsonWithin m v) :
    ofJsonWithin (n + 1) j = ofJsonWithin (m + 1) j := by
  unfold ofJsonWithin
  cases hvalue : field? ["kind", "value"] j "value" with
  | none => rfl
  | some value =>
    have hdepth := depth_lt_of_field? hvalue
    have hlist : value.list? (ofJsonWithin n) = value.list? (ofJsonWithin m) :=
      list?_congr fun item hitem => h item (Nat.lt_trans hitem hdepth)
    simp only [Option.bind_eq_bind, Option.bind_some, hlist, h value hdepth]
    cases hlicense : field? ["license", "exception"] value "license" with
    | none => rfl
    | some license =>
      have hless := Nat.lt_trans (depth_lt_of_field? hlicense) hdepth
      simp only [Option.bind_some, h license hless]

theorem ofJsonWithin_of_depth_le (h : j.depth ≤ n) : ofJsonWithin n j = ofJson? j :=
  eq_of_depth_le ofJsonWithin_congr h (Nat.le_refl _)

def tagged (kind : String) (value : Json) : Json :=
  object [("kind", string kind), ("value", value)]

theorem depth_tagged (kind : String) (value : Json) :
    (tagged kind value).depth = max 1 value.depth + 1 := by
  simp [tagged, depth, memberDepth, Nat.add_comm]

theorem list?_ofJsonWithin (h : j.depth ≤ n) : j.list? (ofJsonWithin n) = j.list? ofJson? :=
  list?_congr fun _ hitem => ofJsonWithin_of_depth_le (Nat.le_trans (Nat.le_of_lt hitem) h)

theorem ofJson?_conjunctive (value : Json) :
    ofJson? (tagged "conjunctive" value) = (value.list? ofJson?).map conjunctive := by
  rw [ofJson?, depth_tagged, ← list?_ofJsonWithin (Nat.le_max_right 1 value.depth),
    Option.map_eq_bind]
  rfl

theorem ofJson?_disjunctive (value : Json) :
    ofJson? (tagged "disjunctive" value) = (value.list? ofJson?).map disjunctive := by
  rw [ofJson?, depth_tagged, ← list?_ofJsonWithin (Nat.le_max_right 1 value.depth),
    Option.map_eq_bind]
  rfl

theorem ofJson?_orLater (value : Json) :
    ofJson? (tagged "or_later" value) = (ofJson? value).map orLater := by
  rw [ofJson?, depth_tagged, ← ofJsonWithin_of_depth_le (Nat.le_max_right 1 value.depth),
    Option.map_eq_bind]
  rfl

theorem ofJson?_withException (license : Json) (exception : String) :
    ofJson? (tagged "with_exception"
        (object [("license", license), ("exception", string exception)])) =
      (ofJson? license).map (withException · exception) := by
  have hle : license.depth ≤
      max 1 (object [("license", license), ("exception", string exception)]).depth := by
    simp only [depth, memberDepth]
    omega
  rw [ofJson?, depth_tagged, ← ofJsonWithin_of_depth_le hle, Option.map_eq_bind]
  rfl

theorem listToJson_eq_map (members : List Expression) :
    listToJson members = members.map toJson := by
  induction members with
  | nil => rfl
  | cons e rest ih => rw [listToJson, ih, List.map_cons]

theorem ofJson?_toJson (e : Expression) : ofJson? e.toJson = some e := by
  induction e using memberInduction with
  | simple | custom | noAssertion | none => rfl
  | conjunctive members ih =>
    rw [toJson, listToJson_eq_map]
    exact (ofJson?_conjunctive _).trans (by rw [list?_array_map ih, Option.map_some])
  | disjunctive members ih =>
    rw [toJson, listToJson_eq_map]
    exact (ofJson?_disjunctive _).trans (by rw [list?_array_map ih, Option.map_some])
  | withException license exception ih =>
    exact (ofJson?_withException _ _).trans (by rw [ih, Option.map_some])
  | orLater license ih => exact (ofJson?_orLater _).trans (by rw [ih, Option.map_some])

end Expression

namespace Template.Node

variable {n m : Nat} {j : Json}

theorem depth_le_of_kind? {kind : String} {fields : Json} (h : kind? j = some (kind, fields)) :
    fields.depth ≤ j.depth := by
  unfold kind? at h
  split at h
  · obtain ⟨v, -, h⟩ := Option.bind_eq_some_iff.1 h
    obtain ⟨s, -, h⟩ := Option.map_eq_some_iff.1 h
    cases h
    exact Nat.le_refl _
  · obtain ⟨s, -, h⟩ := Option.map_eq_some_iff.1 h
    cases h
    simp only [depth, listDepth]
    omega
  · cases h

theorem required_congr {α : Type} {r : Record} {name : String} {decode decode' : Json → Option α}
    (h : ∀ v, r.get? name = some v → decode v = decode' v) :
    r.required name decode = r.required name decode' :=
  Option.bind_congr h

theorem ofJsonWithin_congr
    (h : ∀ v : Json, v.depth < j.depth → ofJsonWithin n v = ofJsonWithin m v) :
    ofJsonWithin (n + 1) j = ofJsonWithin (m + 1) j := by
  unfold ofJsonWithin
  cases hkind : kind? j with
  | none => rfl
  | some found =>
    obtain ⟨kind, fields⟩ := found
    cases hfields : fields.record? ["name", "children"] with
    | none => simp only [Option.bind_eq_bind, Option.bind_some, hfields, Option.bind_none]
    | some r =>
      have hchildren : r.required "children" (·.list? (ofJsonWithin n)) =
          r.required "children" (·.list? (ofJsonWithin m)) := by
        refine required_congr fun v hv => list?_congr fun item hitem => h item ?_
        have hdepth := depth_lt_of_record? hfields hv
        have hle := depth_le_of_kind? hkind
        omega
      simp only [Option.bind_eq_bind, Option.bind_some, hfields, hchildren]

theorem ofJsonWithin_of_depth_le (h : j.depth ≤ n) : ofJsonWithin n j = ofJson? j :=
  eq_of_depth_le ofJsonWithin_congr h (Nat.le_refl _)

theorem chars?_chars (s : List Char) : (chars s).chars? = some s := by
  simp [chars, chars?, string?]

theorem nullable?_ofOption (s : Option (List Char)) :
    (ofOption chars s).nullable? chars? = some s := by
  cases s with
  | none => rfl
  | some s => exact congrArg (Option.map some) (chars?_chars s)

theorem ofJson?_text (content : List Char) :
    ofJson? (text content).toJson = some (text content) := by
  rw [ofJson?, toJson, depth, Nat.add_comm]
  change (chars content).chars?.bind (fun content => some (text content)) = _
  rw [chars?_chars, Option.bind_some]

theorem ofJson?_variable (name pattern defaultText : List Char) (sample : Option (List Char)) :
    ofJson? (Node.variable name pattern defaultText sample).toJson =
      some (.variable name pattern defaultText sample) := by
  cases sample with
  | none =>
    rw [ofJson?, toJson, List.append_nil, depth, Nat.add_comm]
    change (chars name).chars?.bind (fun name => (chars pattern).chars?.bind fun pattern =>
      (chars defaultText).chars?.bind fun defaultText =>
        some (Node.variable name pattern defaultText none)) = _
    simp only [chars?_chars, Option.bind_some]
  | some sample =>
    rw [ofJson?, toJson, depth, Nat.add_comm]
    change (chars name).chars?.bind (fun name => (chars pattern).chars?.bind fun pattern =>
      (chars defaultText).chars?.bind fun defaultText =>
        ((chars sample).chars?.map some).bind fun sample =>
          some (Node.variable name pattern defaultText sample)) = _
    simp only [chars?_chars, Option.bind_some, Option.map_some]

theorem ofJson?_optional (name children : Json) :
    ofJson? (object [("kind", string "optional"), ("name", name), ("children", children)]) =
      (name.nullable? chars?).bind fun name => (children.list? ofJson?).map (optional name) := by
  have hchildren : children.list? (ofJsonWithin
        (memberDepth [("kind", string "optional"), ("name", name), ("children", children)])) =
      children.list? ofJson? := by
    refine list?_congr fun item hitem => ofJsonWithin_of_depth_le ?_
    simp only [memberDepth]
    omega
  rw [ofJson?, depth, Nat.add_comm, ← hchildren]
  simp only [Option.map_eq_bind]
  rfl

theorem listToJson_eq_map (nodes : List Node) : listToJson nodes = nodes.map toJson := by
  induction nodes with
  | nil => rfl
  | cons node rest ih => rw [listToJson, ih, List.map_cons]

mutual

theorem ofJson?_toJson (node : Node) : ofJson? node.toJson = some node := by
  cases node with
  | text content => exact ofJson?_text content
  | optional name children =>
    rw [toJson, listToJson_eq_map, ofJson?_optional, nullable?_ofOption, Option.bind_some,
      list?_array_map (ofJson?_toJson_of_mem children), Option.map_some]
  | «variable» name pattern defaultText sample =>
    exact ofJson?_variable name pattern defaultText sample

theorem ofJson?_toJson_of_mem (nodes : List Node) :
    ∀ node ∈ nodes, ofJson? node.toJson = some node := by
  cases nodes with
  | nil => exact List.forall_mem_nil _
  | cons node rest =>
    exact List.forall_mem_cons.2 ⟨ofJson?_toJson node, ofJson?_toJson_of_mem rest⟩

end

end Template.Node

/-- Reading undoes writing, and what was read from any JSON value is read again. -/
theorem json_read_back :
    (∀ e : Expression, Expression.ofJson? e.toJson = some e) ∧
      (∀ nodes : List Template.Node,
        (array (Template.Node.listToJson nodes)).list? Template.Node.ofJson? = some nodes) ∧
      ∀ j : Json,
        ((Expression.ofJson? j).bind fun e => Expression.ofJson? e.toJson) =
            Expression.ofJson? j ∧
          ((j.list? Template.Node.ofJson?).bind fun nodes =>
              (array (Template.Node.listToJson nodes)).list? Template.Node.ofJson?) =
            j.list? Template.Node.ofJson? := by
  have hnodes (nodes : List Template.Node) :
      (array (Template.Node.listToJson nodes)).list? Template.Node.ofJson? = some nodes := by
    rw [Template.Node.listToJson_eq_map]
    exact list?_array_map (Template.Node.ofJson?_toJson_of_mem nodes)
  refine ⟨Expression.ofJson?_toJson, hnodes, fun j => ⟨?_, ?_⟩⟩
  · simp only [Expression.ofJson?_toJson, Option.bind_fun_some]
  · simp only [hnodes, Option.bind_fun_some]

end Licensing
