import LinkedDocs.Proofs.Postings
import Mathlib.Data.List.Find
import Mathlib.Tactic.FinCases

/-!
# Documentation ids in the index

The ids of symbols and their further names are keys of one index, in which the first to come stays.
So the id of a type or member leads to that entity unless a further name of an entity listed before
it is the same key. Main statement: `primary_resolves`, for graphs whose ids are distinct keys.
-/

namespace LinkedDocs

open Text LinkIndex LinkedDocs.Graph Relocation

lemma Text.exists_strip_cons {c : Char} {t : Text} (hc : isBlank c = false) :
    ∃ u, strip (c :: t) = c :: u := by
  have hleft : stripLeft (c :: t) = c :: t := List.dropWhile_cons_of_neg (by simp [hc])
  rw [strip, hleft, stripRight, List.reverse_cons, List.dropWhile_append]
  split
  · exact ⟨[], by simp [hc]⟩
  · exact ⟨(t.reverse.dropWhile isBlank).reverse, by simp⟩

namespace Posting

variable {p q : Posting} {key : Text}

/-- The letter of the documentation id. -/
def initial : Posting → Char
  | .assembly _ => 'A'
  | .space _ => 'N'
  | .type .. => 'T'
  | .member _ _ m => letter m

lemma primary_eq (p : Posting) : ∃ t, p.primary = p.initial :: t := by
  cases p <;> exact ⟨_, rfl⟩

lemma initial_mem (p : Posting) :
    p.initial ∈ if p.isSymbol then [ 'T', 'M', 'P', 'F', 'E'] else [ 'A', 'N'] := by
  cases p with
  | member s t m =>
    rw [initial, letter, isSymbol, if_pos rfl]
    cases memberKind m with
    | proper kind => cases kind <;> decide
    | stray => simp [MemberKind.letter]
  | _ => simp [initial, isSymbol]

lemma fold_primary (p : Posting) : ∃ t, fold p.primary = p.initial.toLower :: t := by
  obtain ⟨t, ht⟩ := p.primary_eq
  have hletter : p.initial ∈ [ 'T', 'M', 'P', 'F', 'E', 'A', 'N'] := by
    have hmem := p.initial_mem
    split at hmem
    · exact List.mem_append_left [ 'A', 'N'] hmem
    · exact List.mem_append_right [ 'T', 'M', 'P', 'F', 'E'] hmem
  rw [ht]
  generalize p.initial = c at hletter
  fin_cases hletter <;> exact ⟨fold t, rfl⟩

/-- Ids of types and members start with other letters than those of assemblies and namespaces. -/
lemma fold_primary_ne (hp : p.isSymbol = true) (hq : q.isSymbol = false) :
    fold q.primary ≠ fold p.primary := by
  have hpmem := p.initial_mem
  have hqmem := q.initial_mem
  rw [if_pos hp] at hpmem
  rw [if_neg (by simp [hq])] at hqmem
  obtain ⟨t, ht⟩ := p.fold_primary
  obtain ⟨u, hu⟩ := q.fold_primary
  rw [ht, hu]
  intro h
  have hlower := (List.cons.inj h).1
  revert hlower
  generalize p.initial = c at hpmem
  generalize q.initial = d at hqmem
  fin_cases hpmem <;> fin_cases hqmem <;> decide

/-- Without the white space at its ends, the id of a symbol is neither empty nor a web address. -/
lemma strip_primary (hp : p.isSymbol = true) :
    strip p.primary ≠ [] ∧ Resolver.isUrl (strip p.primary) = false := by
  obtain ⟨t, ht⟩ := p.primary_eq
  have hmem := p.initial_mem
  rw [if_pos hp] at hmem
  obtain ⟨u, hu⟩ : ∃ u, strip p.primary = p.initial :: u := by
    rw [ht]
    generalize p.initial = c at hmem
    refine exists_strip_cons ?_
    fin_cases hmem <;> decide
  rw [hu]
  generalize p.initial = c at hmem
  refine ⟨by simp, ?_⟩
  fin_cases hmem <;> rfl

/-- Whether a further name of the posting is the key. -/
def hasAlias (q : Posting) (key : Text) : Bool :=
  q.aliases.any fun a => fold a == fold key

/-- A posting answers to an id that is its own, or by a further name. -/
lemma answers_primary (p q : Posting) : q.answers p.primary =
    ((fold q.primary == fold p.primary) || q.hasAlias p.primary) := by
  have hkey : ∀ k : Text, isKeyFor p.primary k = (fold k == fold p.primary) := by
    intro k
    cases k with
    | nil =>
      obtain ⟨t, ht⟩ := p.fold_primary
      have hnil : (fold [] == fold p.primary) = false := by
        rw [ht]
        rfl
      rw [hnil]
      rfl
    | cons c k => rfl
  rw [answers, keys, List.any_cons, hkey, hasAlias]
  congr 2
  funext k
  exact hkey k

end Posting

namespace Graph

/-- The documentation ids of types and members, as keys. -/
def primaryKeys (g : Graph) : List Text :=
  (g.postings.filter Posting.isSymbol).map fun p => fold p.primary

variable {g : Graph} {before after : List Posting} {p q : Posting}

/-- Before a symbol whose id is a key of its own, only further names can be that key. -/
lemma answers_before (hpostings : g.postings = before ++ p :: after) (hp : p.isSymbol = true)
    (hdistinct : g.primaryKeys.Nodup) (hq : q ∈ before) :
    q.answers p.primary = q.hasAlias p.primary := by
  have hne : fold q.primary ≠ fold p.primary := by
    by_cases hsymbol : q.isSymbol = true
    · rw [primaryKeys, hpostings, List.filter_append, List.filter_cons_of_pos hp, List.map_append,
        List.map_cons, List.nodup_append] at hdistinct
      exact hdistinct.2.2 _ (List.mem_map_of_mem (List.mem_filter.2 ⟨hq, hsymbol⟩)) _ (by simp)
    · exact Posting.fold_primary_ne hp (by simpa using hsymbol)
  rw [Posting.answers_primary, beq_eq_false_iff_ne.2 hne, Bool.false_or]

/-- The symbol that a key stands for. -/
def posted? (g : Graph) (key : Text) : Option Posting :=
  g.postings.find? (·.answers key)

lemma posted?_primary (hpostings : g.postings = before ++ p :: after) (hp : p.isSymbol = true)
    (hdistinct : g.primaryKeys.Nodup) :
    g.posted? p.primary = some ((before.find? (·.hasAlias p.primary)).getD p) := by
  have hself : p.answers p.primary = true := by
    rw [Posting.answers_primary, beq_self_eq_true, Bool.true_or]
  have hbefore : before.find? (·.answers p.primary) = before.find? (·.hasAlias p.primary) :=
    List.find?_congr fun q hq => answers_before hpostings hp hdistinct hq
  rw [posted?, hpostings, List.find?_append, List.find?_cons, hself, hbefore]
  cases before.find? (·.hasAlias p.primary) <;> rfl

/-- What is found for an id is the entity itself just if no further name before it is that id. -/
lemma entity_getD_eq_iff (h : g.WellLinked) (hpostings : g.postings = before ++ p :: after)
    (key : Text) : ((before.find? (·.hasAlias key)).getD p).entity.id = p.entity.id ↔
      ∀ q ∈ before, ∀ a ∈ q.aliases, fold a ≠ fold key := by
  have hnone : before.find? (·.hasAlias key) = none ↔
      ∀ q ∈ before, ∀ a ∈ q.aliases, fold a ≠ fold key := by
    simp [Posting.hasAlias]
  rw [← hnone]
  constructor
  · intro hid
    cases hfind : before.find? (·.hasAlias key) with
    | none => rfl
    | some q =>
      -- An entity is posted once, so one posted before has another id.
      have hnodup := postings_nodup h
      rw [hpostings, postedIds, List.map_append, List.map_cons, List.nodup_append] at hnodup
      rw [hfind, Option.getD_some] at hid
      exact absurd hid (hnodup.2.2 _ (List.mem_map_of_mem (List.mem_of_find?_eq_some hfind)) _
        (by simp))
  · intro hfind
    rw [hfind, Option.getD_none]

end Graph

namespace Resolver

variable {resolver : Resolver} {g : Graph} {config : Config} {t : Text}

/-- A symbol stands for what the first of its spellings that is a key stands for. -/
lemma lookup?_ofGraph (h : ofGraph g config = .ok resolver) (t : Text) :
    resolver.lookup? t = ((candidates t).findSome? g.posted?).map (·.target config) := by
  obtain ⟨index, hindex, h⟩ := bind_eq_ok.1 h
  obtain rfl := Except.ok.inj h
  rw [lookup?, List.map_findSome?]
  congr 1
  funext key
  exact lookup?_build hindex key

/-- A text that is neither blank nor a web address is looked up without the white space at its ends,
and it leads to an entity only if it is found. -/
lemma resolveSymbol_of_posted (h : ofGraph g config = .ok resolver) (hne : strip t ≠ [])
    (hurl : isUrl (strip t) = false) :
    ((resolver.resolveSymbol t).state = .resolvedInternal ↔
      ((candidates (strip t)).findSome? g.posted?).isSome) ∧
    (resolver.resolveSymbol t).targetId =
      ((candidates (strip t)).findSome? g.posted?).elim .null (·.entity.id) := by
  have hempty : (strip t).isEmpty = false := by simpa using hne
  have hlookup := lookup?_ofGraph h (strip t)
  cases hfound : (candidates (strip t)).findSome? g.posted? with
  | some p =>
    rw [hfound, Option.map_some] at hlookup
    simp only [resolveSymbol, hempty, hurl, hlookup]
    exact ⟨by simp [resolvedInternal], Posting.entityId_target ..⟩
  | none =>
    rw [hfound, Option.map_none] at hlookup
    simp only [resolveSymbol, hempty, hurl, hlookup, Bool.false_eq_true, if_false]
    split <;> simp [resolvedExternal, unresolved]

end Resolver

namespace Graph

/-- What becomes of the documentation id of an entity: it leads to the first of the entities listed
before that has the id for a further name, and to the entity itself if there is none. An id that
ends in white space is looked up without it. -/
def IdResolves (g : Graph) (resolver : Resolver) (e : Entity) : Prop :=
  ∃ before p after, g.postings = before ++ p :: after ∧ p.entity = e ∧ p.isSymbol = true ∧
    (strip p.primary = p.primary →
      (resolver.resolveSymbol p.primary).state = .resolvedInternal ∧
      (resolver.resolveSymbol p.primary).targetId =
        ((before.find? (·.hasAlias p.primary)).getD p).entity.id ∧
      ((resolver.resolveSymbol p.primary).targetId = e.id ↔
        ∀ q ∈ before, ∀ a ∈ q.aliases, fold a ≠ fold p.primary)) ∧
    (resolver.resolveSymbol p.primary).targetId =
      ((Resolver.candidates (strip p.primary)).findSome? g.posted?).elim .null (·.entity.id)

/-- **Documentation ids lead to their entities,** unless an entity listed before has the id for a
further name. The graph has been read, the full names of its types are texts, and the ids of its
types and members are distinct keys. -/
theorem primary_resolves {data : Value} {g : Graph} (hread : ofValue data = .ok g)
    (hnames : HasTextNames g) (hdistinct : g.primaryKeys.Nodup) (config : Config) :
    ∃ resolver, Resolver.ofGraph g config = .ok resolver ∧
      ∀ e ∈ g.entities, e.kind = .type ∨ e.kind = .member → IdResolves g resolver e := by
  have hsound := (reading_of_ofValue hread).sound
  obtain ⟨index, hindex⟩ := build_ok (hsound.workable hnames) config
  have hresolver : Resolver.ofGraph g config = .ok ⟨index, config⟩ :=
    bind_eq_ok.2 ⟨index, hindex, rfl⟩
  refine ⟨_, hresolver, ?_⟩
  intro e he hkind
  obtain ⟨⟨k, _⟩, hentry, rfl⟩ := List.mem_map.1 he
  obtain ⟨p, hp, hentity, hsymbol⟩ := hsound.exists_posting hentry hkind
  obtain ⟨before, after, hpostings⟩ := List.append_of_mem hp
  obtain ⟨hne, hurl⟩ := Posting.strip_primary hsymbol
  obtain ⟨hstate, htarget⟩ := Resolver.resolveSymbol_of_posted hresolver hne hurl
  refine ⟨before, p, after, hpostings, hentity, hsymbol, ?_, htarget⟩
  intro hstrip
  have hfound : (Resolver.candidates (strip p.primary)).findSome? g.posted? =
      some ((before.find? (·.hasAlias p.primary)).getD p) := by
    rw [hstrip, Resolver.candidates, List.cons_append, List.findSome?_cons,
      posted?_primary hpostings hsymbol hdistinct]
  rw [hfound, Option.elim_some] at htarget
  rw [hfound, Option.isSome_some] at hstate
  refine ⟨hstate.2 rfl, htarget, ?_⟩
  rw [htarget, ← hentity]
  exact entity_getD_eq_iff hsound.linked hpostings p.primary

/-- The fields of types that have a name and nothing else. -/
def namedOnly (names : List String) : List (List (String × Value)) :=
  names.map fun name => [("name", .text name.toList)]

theorem primary_resolves_of_generic :
    let g := typesGraph (namedOnly [ "Foo", "Foo`1"])
    ofValue (typesFile (namedOnly [ "Foo", "Foo`1"])) = .ok g ∧ HasTextNames g ∧
      g.primaryKeys.Nodup ∧ ∃ resolver, Resolver.ofGraph g {} = .ok resolver ∧
        ∀ e ∈ g.entities, e.kind = .type ∨ e.kind = .member → IdResolves g resolver e :=
  ⟨rfl, by decide +kernel, by decide +kernel,
    primary_resolves (show ofValue (typesFile (namedOnly [ "Foo", "Foo`1"])) = .ok _ from rfl)
      (by decide +kernel) (by decide +kernel) {}⟩

/-- A generic type that is listed first has the id of the type after it for a further name. -/
theorem primary_taken_by_generic :
    let g := typesGraph (namedOnly [ "Foo`1", "Foo"])
    ofValue (typesFile (namedOnly [ "Foo`1", "Foo"])) = .ok g ∧ HasTextNames g ∧
      g.primaryKeys.Nodup ∧ ∃ resolver, Resolver.ofGraph g {} = .ok resolver ∧
        ∃ p ∈ g.postings, p.isSymbol = true ∧ strip p.primary = p.primary ∧
          (resolver.resolveSymbol p.primary).targetId ≠ p.entity.id := by
  let resolver := (Resolver.ofGraph (typesGraph (namedOnly [ "Foo`1", "Foo"])) {}).toOption.getD {}
  have hother : ∃ p ∈ (typesGraph (namedOnly [ "Foo`1", "Foo"])).postings, p.isSymbol = true ∧
      strip p.primary = p.primary ∧
        (resolver.resolveSymbol p.primary).targetId.toText ≠ p.entity.id.toText := by
    decide +kernel
  obtain ⟨p, hp, hsymbol, hstrip, hne⟩ := hother
  exact ⟨rfl, by decide +kernel, by decide +kernel, resolver, rfl, p, hp, hsymbol, hstrip,
    fun heq => hne (by rw [heq])⟩

end Graph

end LinkedDocs
