import Mathlib.Data.Fintype.EquivFin
import Licensing.Expression.Equality

namespace Licensing.Pairing

variable {candidates : List (List Nat)} {member rounds : Nat} {slots : List Nat}
  {p p' : Pairing}

def Visited (p : Pairing) (slot : Nat) : Prop :=
  p.visited[slot]? = some true

def Holds (owner : List (Option Nat)) (member slot : Nat) : Prop :=
  owner[slot]? = some (some member)

/-- The member gets one of its candidates, and no other member loses a slot. -/
structure Augments (candidates : List (List Nat)) (member : Nat) (p p' : Pairing) : Prop where
  length_owner : p'.owner.length = p.owner.length
  count : ∀ x, p'.owner.count (some x) = p.owner.count (some x) + if x = member then 1 else 0
  candidate : ∀ slot x, Holds p'.owner x slot →
    Holds p.owner x slot ∨ slot ∈ candidates.getD x []
  keeps : ∀ slot, p.Visited slot → p'.owner[slot]? = p.owner[slot]?

/-- No owner changes, and what was visited is closed under holders and their candidates. -/
structure Exhausts (candidates : List (List Nat)) (slots : List Nat) (p p' : Pairing) : Prop where
  owner : p'.owner = p.owner
  length_visited : p'.visited.length = p.visited.length
  unvisited : p'.visited.count false ≤ p.visited.count false
  mono : ∀ slot, p.Visited slot → p'.Visited slot
  visits : ∀ slot ∈ slots, slot < p.visited.length → p'.Visited slot
  closed : ∀ slot, p'.Visited slot → p.Visited slot ∨ ∃ holder, Holds p.owner holder slot ∧
    ∀ slot' ∈ candidates.getD holder [], slot' < p.visited.length → p'.Visited slot'

theorem visited_of_getD {slot : Nat} (h : p.visited.getD slot true = true)
    (hslot : slot < p.visited.length) : p.Visited slot := by
  rw [List.getD_eq_getElem?_getD, List.getElem?_eq_getElem hslot, Option.getD_some] at h
  rw [Visited, List.getElem?_eq_getElem hslot, h]

theorem unvisited_of_getD {slot : Nat} (h : ¬ p.visited.getD slot true = true) :
    ∃ hslot : slot < p.visited.length, p.visited[slot] = false := by
  rw [List.getD_eq_getElem?_getD] at h
  by_cases hslot : slot < p.visited.length
  · rw [List.getElem?_eq_getElem hslot, Option.getD_some, Bool.not_eq_true] at h
    exact ⟨hslot, h⟩
  · rw [List.getElem?_eq_none (Nat.le_of_not_lt hslot)] at h
    exact absurd rfl h

section visit

variable {slot : Nat} (hslot : slot < p.visited.length)

include hslot

theorem visited_visit {slot' : Nat} :
    (p.visit slot).Visited slot' ↔ slot' = slot ∨ p.Visited slot' := by
  unfold Visited visit
  by_cases h : slot' = slot
  · simp [h, hslot]
  · simp [h, List.getElem?_set_ne (Ne.symm h)]

theorem unvisited_visit (h : p.visited[slot] = false) :
    (p.visit slot).visited.count false + 1 = p.visited.count false := by
  have hpos : 0 < p.visited.count false := List.count_pos_iff.2 (h ▸ List.getElem_mem hslot)
  simp only [visit, List.count_set hslot, h]
  simp
  omega

end visit

theorem Augments.assign {slot : Nat} {q : Pairing} (hslot : slot < p.visited.length)
    (hlength : p.visited.length = p.owner.length) (hunvisited : p.visited[slot] = false)
    (hcandidate : slot ∈ candidates.getD member [])
    (howner : q.owner.length = p.owner.length)
    (hcount : ∀ x, q.owner.count (some x) =
      p.owner.count (some x) + if p.owner.getD slot none = some x then 1 else 0)
    (hcandidates : ∀ slot x, Holds q.owner x slot →
      Holds p.owner x slot ∨ slot ∈ candidates.getD x [])
    (hkeeps : ∀ slot', (p.visit slot).Visited slot' → q.owner[slot']? = p.owner[slot']?) :
    Augments candidates member p (q.assign slot member) := by
  have hslot' : slot < q.owner.length := by omega
  have hsame : p.owner.getD slot none = q.owner[slot] := by
    have hkeep := hkeeps slot ((visited_visit hslot).2 (.inl rfl))
    rw [List.getElem?_eq_getElem hslot'] at hkeep
    rw [List.getD_eq_getElem?_getD, ← hkeep]
    rfl
  constructor
  · simp [Pairing.assign, howner]
  · intro x
    have hle : (if q.owner[slot] == some x then 1 else 0) ≤ q.owner.count (some x) := by
      split
      · rename_i h
        rw [← eq_of_beq h]
        exact List.count_pos_iff.2 (List.getElem_mem hslot')
      · exact Nat.zero_le _
    have hx := hcount x
    simp only [Pairing.assign, List.count_set hslot']
    simp only [hsame, beq_iff_eq, Option.some.injEq, eq_comm (a := x)] at hx hle ⊢
    omega
  · intro slot' x h
    by_cases he : slot' = slot
    · subst he
      simp only [Holds, Pairing.assign, List.getElem?_set_self hslot', Option.some.injEq] at h
      subst h
      exact .inr hcandidate
    · simp only [Holds, Pairing.assign, List.getElem?_set_ne (Ne.symm he)] at h
      exact hcandidates slot' x h
  · intro slot' h
    have he : slot ≠ slot' := by
      rintro rfl
      rw [Visited, List.getElem?_eq_getElem hslot, hunvisited] at h
      cases h
    simp only [Pairing.assign, List.getElem?_set_ne he]
    exact hkeeps slot' ((visited_visit hslot).2 (.inr h))

theorem Exhausts.of_held {slot holder : Nat} {q : Pairing} (hslot : slot < p.visited.length)
    (hlength : p.visited.length = p.owner.length) (hunvisited : p.visited[slot] = false)
    (hheld : p.owner.getD slot none = some holder)
    (h : Exhausts candidates (candidates.getD holder []) (p.visit slot) q)
    (h' : Exhausts candidates slots q p') : Exhausts candidates (slot :: slots) p p' := by
  have howner : q.owner = p.owner := h.owner
  have hvisited : q.visited.length = p.visited.length :=
    h.length_visited.trans List.length_set
  have hholds : Holds p.owner holder slot := by
    have hslot' : slot < p.owner.length := hlength ▸ hslot
    rw [List.getD_eq_getElem?_getD, List.getElem?_eq_getElem hslot', Option.getD_some] at hheld
    rw [Holds, List.getElem?_eq_getElem hslot', hheld]
  constructor
  · exact h'.owner.trans howner
  · exact h'.length_visited.trans hvisited
  · have hle := h.unvisited
    have hle' := h'.unvisited
    have hvisit := unvisited_visit hslot hunvisited
    omega
  · intro slot' hslot'
    exact h'.mono slot' (h.mono slot' ((visited_visit hslot).2 (.inr hslot')))
  · intro slot' hmem hlt
    cases hmem with
    | head => exact h'.mono slot (h.mono slot ((visited_visit hslot).2 (.inl rfl)))
    | tail _ hmem => exact h'.visits slot' hmem (hvisited ▸ hlt)
  · intro slot' hslot'
    rcases h'.closed slot' hslot' with hq | ⟨holder', hholds', hall⟩
    · rcases h.closed slot' hq with hvisit | ⟨holder', hholds', hall⟩
      · rcases (visited_visit hslot).1 hvisit with rfl | hp
        · refine .inr ⟨holder, hholds, fun slot hmem hlt => ?_⟩
          exact h'.mono slot (h.visits slot hmem (by rwa [visit, List.length_set]))
        · exact .inl hp
      · refine .inr ⟨holder', hholds', fun slot hmem hlt => ?_⟩
        exact h'.mono slot (hall slot hmem (by rwa [visit, List.length_set]))
    · rw [howner] at hholds'
      refine .inr ⟨holder', hholds', fun slot hmem hlt => ?_⟩
      exact hall slot hmem (hvisited ▸ hlt)

theorem Augments.of_owner {q : Pairing} (howner : q.owner = p.owner)
    (hvisited : ∀ slot, p.Visited slot → q.Visited slot) (h : Augments candidates member q p') :
    Augments candidates member p p' := by
  obtain ⟨hlength, hcount, hcandidate, hkeeps⟩ := h
  rw [howner] at hlength hcount hcandidate hkeeps
  exact ⟨hlength, hcount, hcandidate, fun slot hslot => hkeeps slot (hvisited slot hslot)⟩

theorem exhausts_nil : Exhausts candidates [] p p :=
  ⟨rfl, rfl, Nat.le_refl _, fun _ => id, by simp, fun _ => .inl⟩

theorem Exhausts.of_visited {slot : Nat} (hvisited : p.visited.getD slot true = true)
    (h : Exhausts candidates slots p p') : Exhausts candidates (slot :: slots) p p' := by
  refine ⟨h.owner, h.length_visited, h.unvisited, h.mono, ?_, h.closed⟩
  intro slot' hmem hlt
  cases hmem with
  | head => exact h.mono slot (visited_of_getD hvisited hlt)
  | tail _ hmem => exact h.visits slot' hmem hlt

/-- What a search for a slot among the given ones does to a pairing, by its result. -/
def Searches (candidates : List (List Nat)) (member : Nat) (slots : List Nat) (p : Pairing) :
    Bool × Pairing → Prop
  | (true, p') => Augments candidates member p p'
  | (false, p') => Exhausts candidates slots p p'

theorem searches_augment (hlength : p.visited.length = p.owner.length)
    (hrounds : p.visited.count false ≤ rounds)
    (hslots : ∀ slot ∈ slots, slot ∈ candidates.getD member []) :
    Searches candidates member slots p (augment candidates rounds member slots p) := by
  induction rounds, member, slots, p using augment.induct candidates with
  | case1 rounds member p =>
    rw [augment]
    exact exhausts_nil
  | case2 rounds member p slot rest hvisited ih =>
    have hrest := ih hlength hrounds fun slot hmem => hslots slot (List.mem_cons_of_mem _ hmem)
    rw [augment, if_pos hvisited]
    rcases hresult : augment candidates rounds member rest p with ⟨found, p'⟩
    rw [hresult] at hrest
    cases found with
    | true => exact hrest
    | false => exact Exhausts.of_visited hvisited hrest
  | case3 rounds member p slot rest hunvisited pv hfree =>
    obtain ⟨hslot, hfalse⟩ := unvisited_of_getD hunvisited
    have hfree : p.owner.getD slot none = none := hfree
    rw [augment, if_neg hunvisited]
    simp only [visit, hfree]
    exact .assign hslot hlength hfalse (hslots slot List.mem_cons_self) rfl
      (fun x => by rw [hfree]; rfl) (fun _ _ => .inl) fun _ _ => rfl
  | case4 member p slot rest hunvisited pv holder hheld =>
    obtain ⟨hslot, hfalse⟩ := unvisited_of_getD hunvisited
    have hvisit := unvisited_visit hslot hfalse
    omega
  | case5 member p slot rest hunvisited pv holder hheld fewer q hresult ih =>
    obtain ⟨hslot, hfalse⟩ := unvisited_of_getD hunvisited
    have hheld' : p.owner.getD slot none = some holder := hheld
    have hlength' : pv.visited.length = pv.owner.length := List.length_set.trans hlength
    have hrounds' : pv.visited.count false + 1 = p.visited.count false :=
      unvisited_visit hslot hfalse
    have hholder := ih hlength' (by omega) fun _ => id
    rw [hresult] at hholder
    rw [augment, if_neg hunvisited]
    simp only [pv] at hheld hresult
    simp only [hheld, hresult]
    refine .assign hslot hlength hfalse (hslots slot List.mem_cons_self) hholder.length_owner ?_
      hholder.candidate hholder.keeps
    intro x
    rw [hholder.count x, hheld']
    simp only [Option.some.injEq, eq_comm (a := x)]
    rfl
  | case6 member p slot rest hunvisited pv holder hheld fewer q hresult ih ih' =>
    obtain ⟨hslot, hfalse⟩ := unvisited_of_getD hunvisited
    have hheld' : p.owner.getD slot none = some holder := hheld
    have hlength' : pv.visited.length = pv.owner.length := List.length_set.trans hlength
    have hrounds' : pv.visited.count false + 1 = p.visited.count false :=
      unvisited_visit hslot hfalse
    have hholder := ih hlength' (by omega) fun _ => id
    rw [hresult] at hholder
    have howner : q.owner = p.owner := hholder.owner
    have hvisited : q.visited.length = p.visited.length :=
      hholder.length_visited.trans List.length_set
    have hunvisited' := hholder.unvisited
    have hrest := ih' (by rw [howner, hvisited, hlength]) (by omega)
      fun slot hmem => hslots slot (List.mem_cons_of_mem _ hmem)
    rw [augment, if_neg hunvisited]
    simp only [pv] at hheld hresult
    simp only [hheld, hresult]
    rcases hresult' : augment candidates (fewer + 1) member rest q with ⟨found, p'⟩
    rw [hresult'] at hrest
    cases found with
    | true =>
      apply Augments.of_owner howner _ hrest
      intro slot' h
      exact hholder.mono slot' ((visited_visit hslot).2 (.inr h))
    | false => exact .of_held hslot hlength hfalse hheld' hholder hrest

/-- What a search finds that may take as many rounds as it needs, and the pairing it leaves. -/
inductive Finds (candidates : List (List Nat)) :
    Nat → List Nat → Pairing → Bool × Pairing → Prop where
  | none {member : Nat} {p : Pairing} : Finds candidates member [] p (false, p)
  | visited {member slot : Nat} {rest : List Nat} {p : Pairing} {result : Bool × Pairing}
      (hvisited : p.visited.getD slot true = true) (hrest : Finds candidates member rest p result) :
      Finds candidates member (slot :: rest) p result
  | free {member slot : Nat} {rest : List Nat} {p : Pairing}
      (hunvisited : ¬ p.visited.getD slot true = true) (hfree : p.owner.getD slot none = none) :
      Finds candidates member (slot :: rest) p (true, (p.visit slot).assign slot member)
  | moved {member slot holder : Nat} {rest : List Nat} {p q : Pairing}
      (hunvisited : ¬ p.visited.getD slot true = true)
      (hheld : p.owner.getD slot none = some holder)
      (hmoves : Finds candidates holder (candidates.getD holder []) (p.visit slot) (true, q)) :
      Finds candidates member (slot :: rest) p (true, q.assign slot member)
  | stays {member slot holder : Nat} {rest : List Nat} {p q : Pairing} {result : Bool × Pairing}
      (hunvisited : ¬ p.visited.getD slot true = true)
      (hheld : p.owner.getD slot none = some holder)
      (hstays : Finds candidates holder (candidates.getD holder []) (p.visit slot) (false, q))
      (hrest : Finds candidates member rest q result) :
      Finds candidates member (slot :: rest) p result

theorem Finds.eq {result result' : Bool × Pairing} (h : Finds candidates member slots p result)
    (h' : Finds candidates member slots p result') : result = result' := by
  induction h generalizing result' with
  | none => cases h'; rfl
  | visited hvisited _ ih =>
    cases h' with
    | visited _ hrest => exact ih hrest
    | free hunvisited _ | moved hunvisited _ _ | stays hunvisited _ _ _ =>
      exact absurd hvisited hunvisited
  | free hunvisited hfree =>
    cases h' with
    | visited hvisited _ => exact absurd hvisited hunvisited
    | free _ _ => rfl
    | moved _ hheld _ | stays _ hheld _ _ => cases hfree.symm.trans hheld
  | moved hunvisited hheld _ ih =>
    cases h' with
    | visited hvisited _ => exact absurd hvisited hunvisited
    | free _ hfree => cases hheld.symm.trans hfree
    | moved _ hheld' hmoves =>
      cases hheld.symm.trans hheld'
      cases ih hmoves
      rfl
    | stays _ hheld' hstays _ =>
      cases hheld.symm.trans hheld'
      cases ih hstays
  | stays hunvisited hheld _ _ ih ih' =>
    cases h' with
    | visited hvisited _ => exact absurd hvisited hunvisited
    | free _ hfree => cases hheld.symm.trans hfree
    | moved _ hheld' hmoves =>
      cases hheld.symm.trans hheld'
      cases ih hmoves
    | stays _ hheld' hstays hrest =>
      cases hheld.symm.trans hheld'
      cases ih hstays
      exact ih' hrest

theorem finds_augment (hlength : p.visited.length = p.owner.length)
    (hrounds : p.visited.count false ≤ rounds) :
    Finds candidates member slots p (augment candidates rounds member slots p) := by
  induction rounds, member, slots, p using augment.induct candidates with
  | case1 rounds member p =>
    rw [augment]
    exact .none
  | case2 rounds member p slot rest hvisited ih =>
    rw [augment, if_pos hvisited]
    exact .visited hvisited (ih hlength hrounds)
  | case3 rounds member p slot rest hunvisited pv hfree =>
    have hfree : p.owner.getD slot none = none := hfree
    rw [augment, if_neg hunvisited]
    simp only [visit, hfree]
    exact .free hunvisited hfree
  | case4 member p slot rest hunvisited pv holder hheld =>
    obtain ⟨hslot, hfalse⟩ := unvisited_of_getD hunvisited
    have hvisit := unvisited_visit hslot hfalse
    omega
  | case5 member p slot rest hunvisited pv holder hheld fewer q hresult ih =>
    obtain ⟨hslot, hfalse⟩ := unvisited_of_getD hunvisited
    have hvisit : pv.visited.count false + 1 = p.visited.count false :=
      unvisited_visit hslot hfalse
    have hmoves := ih (List.length_set.trans hlength) (by omega)
    rw [hresult] at hmoves
    rw [augment, if_neg hunvisited]
    simp only [pv] at hheld hresult
    simp only [hheld, hresult]
    exact .moved hunvisited hheld hmoves
  | case6 member p slot rest hunvisited pv holder hheld fewer q hresult ih ih' =>
    obtain ⟨hslot, hfalse⟩ := unvisited_of_getD hunvisited
    have hlength' : pv.visited.length = pv.owner.length := List.length_set.trans hlength
    have hvisit : pv.visited.count false + 1 = p.visited.count false :=
      unvisited_visit hslot hfalse
    have hstays := ih hlength' (by omega)
    have hholder : Searches candidates holder (candidates.getD holder []) pv
        (augment candidates fewer holder (candidates.getD holder []) pv) :=
      searches_augment hlength' (by omega) fun _ => id
    rw [hresult] at hstays hholder
    have howner := congrArg List.length hholder.owner
    have hvisited := hholder.length_visited
    have hunvisited' := hholder.unvisited
    rw [augment, if_neg hunvisited]
    simp only [pv] at hheld hresult
    simp only [hheld, hresult]
    exact .stays hunvisited hheld hstays (ih' (by omega) (by omega))

/-- The first members, so many, hold one slot each, and the others hold none. -/
structure Assigned (candidates : List (List Nat)) (members : Nat) (owner : List (Option Nat)) :
    Prop where
  count : ∀ x, owner.count (some x) = if x < members then 1 else 0
  candidate : ∀ slot x, Holds owner x slot → slot ∈ candidates.getD x []

/-- Slots for all members, one for each, among its candidates. -/
def IsAssignment (candidates : List (List Nat)) (slots : Nat)
    (f : Fin candidates.length → Fin slots) : Prop :=
  Function.Injective f ∧ ∀ i, (f i : Nat) ∈ candidates[i]

section

variable {owner : List (Option Nat)} {members n : Nat}

theorem assigned_replicate : Assigned candidates 0 (List.replicate n none) := by
  constructor
  · intro x
    simp [List.count_replicate]
  · intro slot x h
    simp [Holds, List.getElem?_replicate] at h

theorem Assigned.augments {p p' : Pairing} (h : Assigned candidates member p.owner)
    (haugments : Augments candidates member p p') : Assigned candidates (member + 1) p'.owner := by
  constructor
  · intro x
    rw [haugments.count x, h.count x]
    split <;> split <;> split <;> omega
  · intro slot x hholds
    rcases haugments.candidate slot x hholds with hold | hnew
    · exact h.candidate slot x hold
    · exact hnew

theorem getD_candidates (i : Fin candidates.length) : candidates.getD i [] = candidates[i] := by
  rw [List.getD_eq_getElem?_getD, List.getElem?_eq_getElem i.isLt, Option.getD_some]
  rfl

theorem holds_lt_length {x slot : Nat} (h : Holds owner x slot) : slot < owner.length := by
  obtain ⟨hlt, -⟩ := List.getElem?_eq_some_iff.1 h
  exact hlt

theorem Assigned.lt_of_holds (h : Assigned candidates members owner) {x slot : Nat}
    (hslot : Holds owner x slot) : x < members := by
  have hpos : 0 < owner.count (some x) := List.count_pos_iff.2 (List.mem_of_getElem? hslot)
  rw [h.count x] at hpos
  split at hpos
  · assumption
  · cases hpos

/-- The owners of slots after successful searches for the first members, so many. -/
inductive Reaches (candidates : List (List Nat)) (n : Nat) : Nat → List (Option Nat) → Prop where
  | start : Reaches candidates n 0 (List.replicate n none)
  | search {member : Nat} {owner : List (Option Nat)} {p : Pairing}
      (h : Reaches candidates n member owner)
      (hfound : augment candidates owner.length member (candidates.getD member [])
        ⟨owner, owner.map fun _ => false⟩ = (true, p)) :
      Reaches candidates n (member + 1) p.owner

theorem count_unvisited_le (owner : List (Option Nat)) :
    (owner.map fun _ => false).count false ≤ owner.length := by
  calc (owner.map fun _ => false).count false ≤ (owner.map fun _ => false).length :=
        List.count_le_length
    _ = owner.length := List.length_map _

theorem searches_from_owner (candidates : List (List Nat)) (member : Nat)
    (owner : List (Option Nat)) :
    Searches candidates member (candidates.getD member []) ⟨owner, owner.map fun _ => false⟩
      (augment candidates owner.length member (candidates.getD member [])
        ⟨owner, owner.map fun _ => false⟩) := by
  apply searches_augment
  · exact List.length_map _
  · exact count_unvisited_le owner
  · exact fun _ => id

/-- As many rounds as slots are enough for every search. -/
theorem augment_eq_iff_finds (candidates : List (List Nat)) (member : Nat) (slots : List Nat)
    (owner : List (Option Nat)) (result : Bool × Pairing) :
    augment candidates owner.length member slots ⟨owner, owner.map fun _ => false⟩ = result ↔
      Finds candidates member slots ⟨owner, owner.map fun _ => false⟩ result := by
  have hfinds : Finds candidates member slots ⟨owner, owner.map fun _ => false⟩
      (augment candidates owner.length member slots ⟨owner, owner.map fun _ => false⟩) :=
    finds_augment (List.length_map _) (count_unvisited_le owner)
  constructor
  · rintro rfl
    exact hfinds
  · exact hfinds.eq

theorem Reaches.assigned (h : Reaches candidates n members owner) :
    Assigned candidates members owner := by
  induction h with
  | start => exact assigned_replicate
  | @search member owner p h hfound ih =>
    have hsearch := searches_from_owner candidates member owner
    rw [hfound] at hsearch
    exact ih.augments hsearch

theorem Assigned.eq_of_holds (h : Assigned candidates members owner) {x slot slot' : Nat}
    (hslot : Holds owner x slot) (hslot' : Holds owner x slot') : slot = slot' := by
  by_contra hne
  obtain ⟨hbound, hget⟩ := List.getElem?_eq_some_iff.1 hslot
  -- With the first slot emptied, the member would still hold the second.
  have hcount : (owner.set slot none).count (some x) = 0 := by
    rw [List.count_set hbound, hget, h.count x, if_pos (h.lt_of_holds hslot)]
    simp
  have hholds : (owner.set slot none)[slot']? = some (some x) := by
    rw [List.getElem?_set_ne hne]
    exact hslot'
  exact List.count_eq_zero.1 hcount (List.mem_of_getElem? hholds)

theorem Assigned.exists_assignment (h : Assigned candidates candidates.length owner)
    (hlength : owner.length = n) : ∃ f, IsAssignment candidates n f := by
  have hholds (i : Fin candidates.length) : ∃ slot : Fin n, Holds owner i slot := by
    have hcount : owner.count (some (i : Nat)) = 1 := by rw [h.count, if_pos i.isLt]
    have hmem : some (i : Nat) ∈ owner := List.count_pos_iff.1 (by omega)
    obtain ⟨slot, hslot⟩ := List.mem_iff_getElem?.1 hmem
    exact ⟨⟨slot, hlength ▸ holds_lt_length hslot⟩, hslot⟩
  choose f hf using hholds
  refine ⟨f, ?_, ?_⟩
  · intro i j heq
    have hj := hf j
    rw [← heq, Holds, hf i, Option.some.injEq, Option.some.injEq] at hj
    exact Fin.ext hj
  · intro i
    have hcandidate := h.candidate (f i) i (hf i)
    rwa [getD_candidates] at hcandidate

theorem Assigned.no_assignment {p p' : Pairing} (h : Assigned candidates member p.owner)
    (hmember : member < candidates.length) (hfresh : ∀ slot, ¬ p.Visited slot)
    (hlength : p.visited.length = p.owner.length)
    (hexhausts : Exhausts candidates (candidates.getD member []) p p') :
    ¬ ∃ f, IsAssignment candidates p.owner.length f := by
  classical
  rintro ⟨f, hinjective, hcandidates⟩
  have hmem (i : Fin candidates.length) : (f i : Nat) ∈ candidates.getD i [] := by
    rw [getD_candidates]
    exact hcandidates i
  have hbound (i : Fin candidates.length) : (f i : Nat) < p.visited.length := by
    rw [hlength]
    exact (f i).isLt
  let last : Fin candidates.length := ⟨member, hmember⟩
  have hholder (slot : Fin p.owner.length) (hslot : p'.Visited slot) :
      ∃ x : Fin candidates.length, x < last ∧ Holds p.owner x slot ∧ p'.Visited (f x) := by
    rcases hexhausts.closed slot hslot with hvisited | ⟨x, hholds, hall⟩
    · exact (hfresh slot hvisited).elim
    · have hlt := h.lt_of_holds hholds
      let x' : Fin candidates.length := ⟨x, by omega⟩
      exact ⟨x', hlt, hholds, hall (f x') (hmem x') (hbound x')⟩
  have : Nonempty (Fin candidates.length) := ⟨last⟩
  choose! holder hlast hholds hvisits using hholder
  -- The visited slots, and the members that can have no others.
  let seen : Finset (Fin p.owner.length) := {slot | p'.Visited slot}
  let crowd : Finset (Fin candidates.length) := insert last (seen.image holder)
  have hseen {slot : Fin p.owner.length} : slot ∈ seen ↔ p'.Visited slot := by simp [seen]
  have hcrowd : crowd.card = seen.card + 1 := by
    rw [Finset.card_insert_of_notMem, Finset.card_image_of_injOn]
    · intro slot hslot slot' hslot' heq
      have hholds' := hholds slot' (hseen.1 hslot')
      rw [← heq] at hholds'
      exact Fin.ext (h.eq_of_holds (hholds slot (hseen.1 hslot)) hholds')
    · intro hmem
      obtain ⟨slot, hslot, heq⟩ := Finset.mem_image.1 hmem
      have hlt := hlast slot (hseen.1 hslot)
      rw [heq] at hlt
      exact Nat.lt_irrefl member hlt
  have hmaps : Set.MapsTo f crowd seen := by
    intro x hx
    rcases Finset.mem_insert.1 hx with rfl | hx
    · exact hseen.2 (hexhausts.visits _ (hmem last) (hbound last))
    · obtain ⟨slot, hslot, rfl⟩ := Finset.mem_image.1 hx
      exact hseen.2 (hvisits slot (hseen.1 hslot))
  have hle := Finset.card_le_card_of_injOn f hmaps hinjective.injOn
  omega

end

/-- The search finds slots for the members that are left exactly if there is an assignment. -/
theorem findAll_iff {owner : List (Option Nat)} {rest : List (List Nat)}
    (h : Assigned candidates member owner) (hle : member ≤ candidates.length)
    (hrest : rest = candidates.drop member) :
    findAll candidates owner member rest ↔ ∃ f, IsAssignment candidates owner.length f := by
  induction rest generalizing member owner with
  | nil =>
    have hall : candidates.length = member :=
      Nat.le_antisymm (List.drop_eq_nil_iff.1 hrest.symm) hle
    rw [← hall] at h
    exact iff_of_true rfl (h.exists_assignment rfl)
  | cons slots rest ih =>
    have hmember : member < candidates.length := by
      by_contra hge
      rw [List.drop_eq_nil_of_le (Nat.le_of_not_lt hge)] at hrest
      cases hrest
    rw [List.drop_eq_getElem_cons hmember, List.cons.injEq] at hrest
    obtain ⟨hslots, hrest⟩ := hrest
    have hgetD : candidates.getD member [] = slots := by
      rw [hslots]
      exact getD_candidates ⟨member, hmember⟩
    have hsearch := searches_from_owner candidates member owner
    rw [hgetD] at hsearch
    simp only [findAll]
    generalize augment candidates owner.length member slots _ = result at hsearch ⊢
    obtain ⟨found, p⟩ := result
    cases found with
    | true =>
      have hsearch : Augments candidates member _ p := hsearch
      have howner : p.owner.length = owner.length := hsearch.length_owner
      rw [← howner]
      exact ih (h.augments hsearch) hmember hrest
    | false =>
      have hsearch : Exhausts candidates slots _ p := hsearch
      rw [← hgetD] at hsearch
      refine iff_of_false Bool.false_ne_true (h.no_assignment hmember ?_ ?_ hsearch)
      · simp [Visited, List.getElem?_replicate]
      · exact List.length_map _

/-- A pairing is perfect exactly if there is an assignment. -/
theorem isPerfect_iff (n : Nat) (candidates : List (List Nat)) :
    isPerfect n candidates ↔ ∃ f, IsAssignment candidates n f := by
  rw [isPerfect, findAll_iff assigned_replicate (Nat.zero_le _) List.drop_zero.symm,
    List.length_replicate]

example : isPerfect 2 [[0, 1], [0]] = true := by cbv

end Licensing.Pairing
