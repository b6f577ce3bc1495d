import Licensing.Catalog.Session
import Licensing.Proofs.Scanning
import Mathlib.Data.List.InsertIdx

namespace Licensing

open Text Template Matching

section

variable [Engine] {f : Folding} {template : List Char}

theorem Matching.Program.folding_of_compile {p : Program}
    (h : Program.compile f template = .ok p) : p.folding = f := by
  unfold Program.compile at h
  cases hparse : Body.parse (stripComments template) with
  | error e =>
    rw [hparse] at h
    cases h
  | ok body =>
    rw [hparse] at h
    cases h
    rfl

theorem Matching.Program.compile_error {e : TemplateError}
    (h : Program.compile f template = .error e) (f' : Folding) :
    Program.compile f' template = .error e := by
  unfold Program.compile at h ⊢
  cases hparse : Body.parse (stripComments template) with
  | error e' =>
    rw [hparse] at h
    exact h
  | ok body =>
    rw [hparse] at h
    cases h

end

namespace Catalog

/-- What the entry keeps was compiled from its source, under some folding. -/
def Entry.Faithful [Engine] (e : Entry) : Prop :=
  ∀ result, e.kept = some result → ∃ f, result = Program.compile f e.source

def Entry.forget (e : Entry) : Entry :=
  { e with kept := none }

namespace Entry

variable {e : Entry} {m : Matcher}

theorem faithful_of_kept_eq_none [Engine] (h : e.kept = none) : e.Faithful := by
  intro result hresult
  rw [h] at hresult
  cases hresult

@[simp] theorem forget_forget (e : Entry) : e.forget.forget = e.forget := rfl

@[simp] theorem forget_comp_forget : forget ∘ forget = forget := rfl

theorem faithful_forget [Engine] (e : Entry) : e.forget.Faithful :=
  faithful_of_kept_eq_none rfl

theorem Faithful.compiled_fst [Engine] (h : e.Faithful) :
    (e.compiled m).1 = m.compile e.source := by
  rw [compiled, keep_eq]
  cases hkept : e.kept with
  | none =>
    simp only [Option.getD_none]
    cases hcompile : m.compile e.source with
    | error err => rfl
    | ok p => exact if_pos (Program.folding_of_compile hcompile)
  | some result =>
    obtain ⟨f, rfl⟩ := h result hkept
    simp only [Option.getD_some]
    cases hcompile : Program.compile f e.source with
    | error err => exact (Program.compile_error hcompile _).symm
    | ok p =>
      simp only
      split
      · rename_i hfolding
        rw [Program.folding_of_compile hcompile] at hfolding
        rw [Matcher.compile, ← hfolding, hcompile]
      · rfl

theorem Faithful.compiled_snd [Engine] (h : e.Faithful) : (e.compiled m).2.Faithful := by
  rw [Entry.compiled_snd]
  intro result hresult
  obtain rfl := Option.some.inj hresult
  cases hkept : e.kept with
  | none => exact ⟨m.settings.folding, rfl⟩
  | some result => exact h result hkept

theorem compiled_snd_forget [Engine] : (e.compiled m).2.forget = e.forget := by
  rw [Entry.compiled_snd]
  rfl

theorem Faithful.compiled_forget [Engine] (h : e.Faithful) :
    (e.forget.compiled m).1 = (e.compiled m).1 := by
  rw [h.compiled_fst, (faithful_forget e).compiled_fst]
  rfl

end Entry

def Faithful [Engine] (c : Catalog) : Prop :=
  ∀ kind, ∀ e ∈ c.entries kind, e.Faithful

def forget (c : Catalog) : Catalog where
  licenses := c.licenses.map Entry.forget
  exceptions := c.exceptions.map Entry.forget

section

variable {c : Catalog} {kind : Kind} {entries : List Entry} {m : Matcher} {scan : ScanSettings}
  {mode : Mode} {targets : Option (List String)} {d : Document} {e : Entry} {text : List Char}

@[simp] theorem forget_forget (c : Catalog) : c.forget.forget = c.forget := by
  simp [forget]

@[simp] theorem forget_comp_forget : forget ∘ forget = forget :=
  funext forget_forget

theorem entries_forget : c.forget.entries kind = (c.entries kind).map Entry.forget := by
  cases kind <;> rfl

theorem forget_withEntries :
    (c.withEntries kind entries).forget = c.forget.withEntries kind (entries.map Entry.forget) := by
  cases kind <;> rfl

theorem withEntries_entries : c.withEntries kind (c.entries kind) = c := by
  cases kind <;> rfl

theorem Faithful.withEntries [Engine] (h : c.Faithful) (hentries : ∀ e ∈ entries, e.Faithful) :
    (c.withEntries kind entries).Faithful := by
  intro kind'
  cases kind <;> cases kind'
  · exact hentries
  · exact h .exception
  · exact h .license
  · exact hentries

theorem Faithful.add [Engine] (h : c.Faithful) (he : e.Faithful) : (c.add kind e).Faithful := by
  apply h.withEntries
  intro e' he'
  rcases List.mem_append.1 he' with he' | he'
  · exact h kind e' he'
  · rwa [List.mem_singleton.1 he']

theorem forget_add : (c.add kind e).forget = c.forget.add kind e.forget := by
  rw [Catalog.add, forget_withEntries, List.map_append, Catalog.add, entries_forget]
  rfl

theorem check_fst_congr [Engine] {e' : Entry} (h : (e'.compiled m).1 = (e.compiled m).1) :
    (check m mode d e').1 = (check m mode d e).1 := by
  cases hcompiled : (e.compiled m).1 with
  | error err => rw [check_error hcompiled, check_error (h.trans hcompiled)]
  | ok p =>
    cases mode with
    | exact => rw [check_exact hcompiled, check_exact (h.trans hcompiled)]
    | contains => rw [check_contains hcompiled, check_contains (h.trans hcompiled)]

theorem scan_snd [Engine] :
    (c.scan m scan kind mode targets text).2 = c.withEntries kind ((c.entries kind).map fun e =>
      if selects scan targets e then (e.compiled m).2 else e) := by
  simp only [Catalog.scan, scanParts_eq_scanEntries, scanEntries_eq, check_snd]

theorem Faithful.scan_forget [Engine] (h : c.Faithful) :
    (c.forget.scan m scan kind mode targets text).1 =
      (c.scan m scan kind mode targets text).1 := by
  rw [scan_fst, scan_fst, entries_forget, List.filter_map, List.map_map]
  congr 1
  apply List.filter_congr
  intro e he
  exact congrArg (selects scan targets e && ·) (check_fst_congr (h kind e he).compiled_forget)

theorem scan_snd_forget [Engine] : (c.scan m scan kind mode targets text).2.forget = c.forget := by
  have hentries : ((c.entries kind).map fun e =>
      if selects scan targets e then (e.compiled m).2 else e).map Entry.forget =
        c.forget.entries kind := by
    rw [List.map_map, entries_forget]
    apply List.map_congr_left
    intro e he
    rw [Function.comp_apply]
    split
    · exact Entry.compiled_snd_forget
    · rfl
  rw [scan_snd, forget_withEntries, hentries, withEntries_entries]

theorem Faithful.scan_snd [Engine] (h : c.Faithful) :
    (c.scan m scan kind mode targets text).2.Faithful := by
  rw [Catalog.scan_snd]
  apply h.withEntries
  intro e' he'
  obtain ⟨e, he, rfl⟩ := List.mem_map.1 he'
  split
  · exact (h kind e he).compiled_snd
  · exact h kind e he

end

theorem forall_mem_modify {α : Type} {P : α → Prop} {l : List α} {i : Nat} {g : α → α}
    (h : ∀ a ∈ l, P a) (hg : ∀ a, P a → P (g a)) : ∀ a ∈ l.modify i g, P a := by
  intro a ha
  obtain ⟨k, hk⟩ := List.mem_iff_getElem?.1 ha
  rw [List.getElem?_modify] at hk
  obtain ⟨b, hb, rfl⟩ := Option.map_eq_some_iff.1 hk
  have hP := h b (List.mem_of_getElem? hb)
  split
  · exact hg b hP
  · exact hP

theorem map_modify {α β : Type} {l : List α} {i : Nat} {k : α → β} (g : α → α) (g' : β → β)
    (h : ∀ a, k (g a) = g' (k a)) : (l.modify i g).map k = (l.map k).modify i g' := by
  apply List.ext_getElem?
  intro n
  rw [List.getElem?_map, List.getElem?_modify, List.getElem?_modify, List.getElem?_map]
  by_cases hn : i = n
  · cases l[n]? <;> simp [hn, h]
  · cases l[n]? <;> simp [hn]

namespace Session

/-- Every entry that is held is faithful. -/
structure Faithful [Engine] (s : Session) : Prop where
  entries : ∀ e ∈ s.entries, e.Faithful
  catalogs : ∀ c ∈ s.catalogs, c.Faithful

def forget (s : Session) : Session where
  entries := s.entries.map Entry.forget
  catalogs := s.catalogs.map Catalog.forget

/-- The answers to requests if everything kept is forgotten before each of them. -/
def answersForgetting [Engine] (s : Session) : List Request → List (Option Answer)
  | [] => []
  | request :: rest =>
    let (answer, s) := s.forget.serve request
    answer :: s.answersForgetting rest

variable {s : Session} {place : Place} {e : Entry} {question : Entry → Answer × Entry}

theorem Faithful.get? [Engine] (h : s.Faithful) (he : s.get? place = some e) : e.Faithful := by
  cases place with
  | single i => exact h.entries e (List.mem_of_getElem? he)
  | listed catalog kind i =>
    obtain ⟨c, hc, hi⟩ := Option.bind_eq_some_iff.1 he
    exact h.catalogs c (List.mem_of_getElem? hc) kind e (List.mem_of_getElem? hi)

theorem Faithful.put [Engine] (h : s.Faithful) (he : e.Faithful) : (s.put e place).Faithful := by
  have hset {entries : List Entry} (hentries : ∀ e ∈ entries, e.Faithful) (i : Nat) :
      ∀ e' ∈ entries.set i e, e'.Faithful := by
    intro e' he'
    rcases List.mem_or_eq_of_mem_set he' with he' | rfl
    · exact hentries e' he'
    · exact he
  cases place with
  | single i => exact ⟨hset h.entries i, h.catalogs⟩
  | listed catalog kind i =>
    exact ⟨h.entries, forall_mem_modify h.catalogs fun c hc => hc.withEntries (hset (hc kind) i)⟩

theorem get?_forget : s.forget.get? place = (s.get? place).map Entry.forget := by
  cases place with
  | single i => exact List.getElem?_map
  | listed catalog kind i =>
    simp only [Session.get?, forget, List.getElem?_map, Option.bind_map]
    cases s.catalogs[catalog]? with
    | none => rfl
    | some c => simp [entries_forget]

theorem forget_put : (s.put e place).forget = s.forget.put e.forget place := by
  cases place with
  | single i => simp only [Session.put, forget, List.map_set]
  | listed catalog kind i =>
    simp only [Session.put, forget, Session.mk.injEq, true_and]
    apply map_modify
    intro c
    rw [forget_withEntries, List.map_set, entries_forget]

/-- A question that sees of an entry only what it compiles to, and changes only what it keeps. -/
structure Blind [Engine] (question : Entry → Answer × Entry) : Prop where
  answer : ∀ e : Entry, e.Faithful → (question e.forget).1 = (question e).1
  forget : ∀ e, (question e).2.forget = e.forget
  faithful : ∀ e : Entry, e.Faithful → (question e).2.Faithful

theorem Blind.of_compiled [Engine] {m : Matcher} {g : Except TemplateError Program → Answer}
    (h : ∀ e, question e = (g (e.compiled m).1, (e.compiled m).2)) : Blind question := by
  constructor
  · intro e he
    rw [h, h, he.compiled_forget]
  · intro e
    rw [h, Entry.compiled_snd_forget]
  · intro e he
    rw [h]
    exact he.compiled_snd

theorem blind_compare [Engine] (c : Comparer) (text : List Char) :
    Blind fun e => (c.compareEntry e text).map .difference id := by
  apply Blind.of_compiled (m := c.matcher) (g := fun result => .difference
    ((result.mapError fun err => .matching (.template err)).map fun p =>
      c.matcher.comparePrepared p (c.matcher.prepare text)))
  intro e
  rw [Comparer.compareEntry]
  rcases e.compiled c.matcher with ⟨result, e'⟩
  cases result <;> rfl

theorem blind_within [Engine] (c : Comparer) (text : List Char) :
    Blind fun e => (c.entryWithin e text).map .occurs id := by
  by_cases hblank : isBlank text
  · have hwithin (e : Entry) : c.entryWithin e text = (false, e) := if_pos hblank
    constructor
    · intro e he
      simp only [hwithin]
      rfl
    · intro e
      rw [hwithin]
      rfl
    · intro e he
      rw [hwithin]
      exact he
  · apply Blind.of_compiled (m := c.matcher) (g := fun result => .occurs
      (result.toOption.any fun p => occursIn p (c.matcher.prepare text)))
    intro e
    rw [Comparer.entryWithin, if_neg hblank]
    rcases e.compiled c.matcher with ⟨result, e'⟩
    cases result <;> rfl

/-- The same answer, and the same entries but for what they keep. -/
structure Agree [Engine] (r r' : Option Answer × Session) : Prop where
  answer : r.1 = r'.1
  forget : r.2.forget = r'.2.forget
  faithful : r.2.Faithful

theorem forget_forget (s : Session) : s.forget.forget = s.forget := by
  simp [forget]

theorem Faithful.ask [Engine] (h : s.Faithful) (hquestion : Blind question) :
    Agree (s.ask place question) (s.forget.ask place question) := by
  unfold Session.ask
  rw [get?_forget]
  cases he : s.get? place with
  | none => exact ⟨rfl, (forget_forget s).symm, h⟩
  | some e =>
    have hfaithful := h.get? he
    constructor
    · exact congrArg some (hquestion.answer e hfaithful).symm
    · simp only [Option.map_some, forget_put, forget_forget, hquestion.forget]
      rfl
    · exact h.put (hquestion.faithful e hfaithful)

theorem Faithful.agree_entries [Engine] (h : s.Faithful) {entries entries' : List Entry}
    (hentries : ∀ e ∈ entries, e.Faithful)
    (hforget : entries.map Entry.forget = entries'.map Entry.forget) :
    Agree (none, { s with entries }) (none, { s.forget with entries := entries' }) := by
  refine ⟨rfl, ?_, hentries, h.catalogs⟩
  simp [forget, hforget]

theorem Faithful.agree_catalogs [Engine] (h : s.Faithful) {catalogs catalogs' : List Catalog}
    {answer : Option Answer} (hcatalogs : ∀ c ∈ catalogs, c.Faithful)
    (hforget : catalogs.map Catalog.forget = catalogs'.map Catalog.forget) :
    Agree (answer, { s with catalogs }) (answer, { s.forget with catalogs := catalogs' }) := by
  refine ⟨rfl, ?_, h.entries, hcatalogs⟩
  simp [forget, hforget]

/-- A request is answered as if nothing had been kept. -/
theorem Faithful.serve [Engine] (h : s.Faithful) (request : Request) :
    Agree (s.serve request) (s.forget.serve request) := by
  cases request with
  | create id text template deprecated =>
    apply h.agree_entries
    · simp only [List.forall_mem_append, List.forall_mem_singleton]
      exact ⟨h.entries, Entry.faithful_of_kept_eq_none rfl⟩
    · simp [forget]
  | withTemplate i template =>
    apply h.agree_entries
    · exact forall_mem_modify h.entries fun e he => Entry.faithful_of_kept_eq_none rfl
    · have hmodify (entries : List Entry) := map_modify (l := entries) (i := i) (k := Entry.forget)
        (·.withTemplate template) (·.withTemplate template) fun e => rfl
      simp [hmodify, forget]
  | withDeprecated i deprecated =>
    apply h.agree_entries
    · exact forall_mem_modify h.entries fun e he => he
    · have hmodify (entries : List Entry) := map_modify (l := entries) (i := i) (k := Entry.forget)
        (·.withDeprecated deprecated) (·.withDeprecated deprecated) fun e => rfl
      simp [hmodify, forget]
  | clone place =>
    apply h.agree_entries
    · simp only [List.forall_mem_append, Option.mem_toList]
      exact ⟨h.entries, fun e he => h.get? he⟩
    · rw [get?_forget]
      cases s.get? place <;> simp [forget]
  | createCatalog =>
    apply h.agree_catalogs
    · simp only [List.forall_mem_append, List.forall_mem_singleton]
      refine ⟨h.catalogs, fun kind e he => ?_⟩
      cases kind <;> cases he
    · simp [forget]
  | cloneCatalog catalog =>
    apply h.agree_catalogs
    · simp only [List.forall_mem_append, Option.mem_toList]
      exact ⟨h.catalogs, fun c hc => h.catalogs c (List.mem_of_getElem? hc)⟩
    · simp only [forget, List.getElem?_map]
      cases s.catalogs[catalog]? <;> simp
  | add catalog kind i =>
    simp only [Session.serve, forget, List.getElem?_map]
    cases he : s.entries[i]? with
    | none => exact ⟨rfl, (forget_forget s).symm, h⟩
    | some e =>
      refine ⟨rfl, ?_, ?_, ?_⟩
      · simp only [Option.map_some, forget, Session.mk.injEq]
        constructor
        · simp [← List.eraseIdx_map]
        · have hmodify (catalogs : List Catalog) (e : Entry) :=
            map_modify (l := catalogs) (i := catalog) (k := Catalog.forget) (·.add kind e)
              (·.add kind e.forget) fun c => forget_add
          simp [hmodify]
      · exact fun e' he' => h.entries e' (List.mem_of_mem_eraseIdx he')
      · exact forall_mem_modify h.catalogs fun c hc =>
          hc.add (h.entries e (List.mem_of_getElem? he))
  | compile m place => exact h.ask (.of_compiled fun e => rfl)
  | compare c place text => exact h.ask (blind_compare c text)
  | within c place text => exact h.ask (blind_within c text)
  | scan c catalog kind mode targets text =>
    simp only [Session.serve, forget, List.getElem?_map]
    cases hc : s.catalogs[catalog]? with
    | none => exact ⟨rfl, (forget_forget s).symm, h⟩
    | some catalog' =>
      have hfaithful := h.catalogs catalog' (List.mem_of_getElem? hc)
      rw [Option.map_some]
      simp only [hfaithful.scan_forget]
      apply h.agree_catalogs
      · intro c' hc'
        rcases List.mem_or_eq_of_mem_set hc' with hc' | rfl
        · exact h.catalogs c' hc'
        · exact hfaithful.scan_snd
      · simp [List.map_set, scan_snd_forget]

theorem answersForgetting_congr [Engine] {s' : Session} (h : s.forget = s'.forget)
    (requests : List Request) : s.answersForgetting requests = s'.answersForgetting requests := by
  cases requests with
  | nil => rfl
  | cons request rest => rw [answersForgetting, answersForgetting, h]

theorem Faithful.run [Engine] (h : s.Faithful) (requests : List Request) :
    (s.run requests).2.Faithful ∧ (s.run requests).1 = s.answersForgetting requests := by
  induction requests generalizing s with
  | nil => exact ⟨h, rfl⟩
  | cons request rest ih =>
    have hagree := h.serve request
    obtain ⟨hfaithful, hanswers⟩ := ih hagree.faithful
    refine ⟨hfaithful, ?_⟩
    have hrun : (s.run (request :: rest)).1 =
        (s.serve request).1 :: ((s.serve request).2.run rest).1 := rfl
    have hforgetting : s.answersForgetting (request :: rest) =
        (s.forget.serve request).1 :: (s.forget.serve request).2.answersForgetting rest := rfl
    rw [hrun, hforgetting, hanswers, hagree.answer, answersForgetting_congr hagree.forget]

theorem faithful_empty [Engine] : Session.Faithful {} where
  entries := List.forall_mem_nil _
  catalogs := List.forall_mem_nil _

/-- What was done before with entries and catalogs makes no difference to any answer. -/
theorem run_eq_answersForgetting [Engine] (requests : List Request) :
    (∀ place e, (run {} requests).2.get? place = some e →
      ∀ m : Matcher, (e.compiled m).1 = m.compile e.source) ∧
    (run {} requests).1 = answersForgetting {} requests := by
  obtain ⟨hfaithful, hanswers⟩ := faithful_empty.run requests
  exact ⟨fun place e he m => (hfaithful.get? he).compiled_fst, hanswers⟩

end Session

end Catalog

end Licensing
