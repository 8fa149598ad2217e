import LinkedDocs.Proofs.Phases
import Mathlib.Data.List.Flatten

/-!
# Postings

The symbols of a graph in the order in which the index meets them, each with the type and the
namespace that list it. An index that can be built is the table of their keys, in which a key stands
for the first posting that has it.
-/

namespace LinkedDocs

open Text LinkIndex

/-- Whether what is registered under a key is found under another. -/
def LinkIndex.isKeyFor (sought key : Text) : Bool :=
  !key.isEmpty && fold key == fold sought

/-- A symbol where it is listed: an assembly, a namespace, a type in a namespace, or a member of a
type in a namespace. -/
inductive Posting where
  | assembly (a : Entity)
  | space (s : Entity)
  | type (s t : Entity)
  | member (s t m : Entity)

namespace Posting

def entity : Posting → Entity
  | .assembly a => a
  | .space s => s
  | .type _ t => t
  | .member _ _ m => m

/-- Whether the posting is one of a type or of a member. -/
def isSymbol : Posting → Bool
  | .type .. | .member .. => true
  | _ => false

/-- The kind in the field of a member. -/
def memberKind (m : Entity) : Loose MemberKind :=
  match m.detail with
  | .member kind .. => kind
  | _ => .stray .null

/-- The letter of a member; that of methods if its kind is none. -/
def letter (m : Entity) : Char :=
  match memberKind m with
  | .proper kind => kind.letter
  | .stray _ => MemberKind.method.letter

def isEnum (t : Entity) : Bool :=
  match t.detail with
  | .type _ kind _ => isKind .enumType kind
  | _ => false

/-- The name of a member behind the full name of its type. -/
def qualified (t m : Entity) : Text :=
  t.fullName.toText ++ '.' :: m.name.toText

/-- The documentation id. -/
def primary : Posting → Text
  | .assembly a => "A:".toList ++ a.name.toText
  | .space s => "N:".toList ++ s.name.toText
  | .type _ t => "T:".toList ++ t.fullName.toText
  | .member _ t m => letter m :: ':' :: qualified t m

/-- The further keys: the bare names, the normalized name of a generic type, the simple name of a
type, and the short forms of constructors and of the fields of enumerations. -/
def aliases : Posting → List Text
  | .assembly _ | .space _ => []
  | .type _ t =>
    let full := t.fullName.toText
    let normalized := Symbol.normalize full
    full :: ((if normalized = full then [] else [ "T:".toList ++ normalized, normalized]) ++
      [t.name.toText])
  | .member _ t m =>
    let ofType := t.name.toText ++ '.' :: m.name.toText
    qualified t m ::
      ((if isKind .constructor (memberKind m) then
          [ "M:".toList ++ t.fullName.toText ++ ".#ctor".toList] else []) ++
        (if isKind .field (memberKind m) && isEnum t then [ofType, "F:".toList ++ ofType] else []))

def keys (p : Posting) : List Text :=
  p.primary :: p.aliases

/-- The name of a namespace, which is empty if none is given. -/
def spaceText (s : Entity) : Text :=
  if s.name.holds then s.name.toText else []

/-- The path of the page of a type. -/
def typePath (config : Config) (s t : Entity) : Text :=
  pagePath config (typePage config (spaceText s) t.name.toText)

/-- Where the index says that the symbol is documented. -/
def target (config : Config) : Posting → LinkTarget
  | .assembly a => ⟨a.id, pagePath config [], a.name, .assembly, none⟩
  | .space s =>
    ⟨s.id, pagePath config (namespacePage config (spaceText s)), .text (spaceTitle (spaceText s)),
      .namespace, none⟩
  | .type s t => ⟨t.id, typePath config s t, .text (Symbol.displayName t.name.toText), .type, none⟩
  | .member s t m =>
    ⟨m.id, typePath config s t,
      .text (Symbol.displayName t.name.toText ++ '.' :: m.name.toText), .ofLetter (letter m),
      some (lower m.name.toText)⟩

@[simp] lemma entityId_target (config : Config) (p : Posting) :
    (p.target config).entityId = p.entity.id := by
  cases p <;> rfl

/-- Whether one of the keys is the given one, whatever its case. -/
def answers (p : Posting) (key : Text) : Bool :=
  p.keys.any (isKeyFor key)

end Posting

namespace Graph

/-- The entities of a kind that an entity lists. -/
def listed (g : Graph) (kind : EntityKind) (e : Entity) : List Entity :=
  (e.children.items.toOption.getD []).filterMap fun id => (g.expect kind id).toOption

def typePostings (g : Graph) (s t : Entity) : List Posting :=
  .type s t :: (g.listed .member t).map (.member s t)

def spacePostings (g : Graph) (s : Entity) : List Posting :=
  .space s :: (g.listed .type s).flatMap (g.typePostings s)

def assemblyPostings (g : Graph) (a : Entity) : List Posting :=
  .assembly a :: (g.listed .namespace a).flatMap g.spacePostings

/-- The symbols of a graph, depth first in list order. -/
def postings (g : Graph) : List Posting :=
  g.assemblies.flatMap g.assemblyPostings

end Graph

/-! ### What the index registers -/

namespace LinkIndex

variable {g : Graph} {config : Config}

/-- The registrations of postings. -/
def entriesOf (config : Config) (ps : List Posting) : List (Text × LinkTarget) :=
  ps.flatMap fun p => p.keys.map (·, p.target config)

lemma entriesOf_flatMap {es : List Entity} {f : Entity → List Posting} :
    entriesOf config (es.flatMap f) = es.flatMap fun e => entriesOf config (f e) := by
  simp [entriesOf, List.flatMap_assoc]

lemma entriesOf_cons {p : Posting} {ps : List Posting} :
    entriesOf config (p :: ps) = p.keys.map (·, p.target config) ++ entriesOf config ps := by
  simp [entriesOf]

lemma kind_of_expect {kind : EntityKind} {id : Value} {e : Entity}
    (h : g.expect kind id = .ok e) : e.kind = kind := by
  unfold Graph.expect at h
  obtain ⟨found, -, h⟩ := bind_eq_ok.1 h
  cases found with
  | none => cases h
  | some e' =>
    dsimp only at h
    split at h
    · rwa [← Except.ok.inj h]
    · cases h

/-- What is registered for the entities of a list, one after another. -/
lemma flatten_mapM {β : Type} {kind : EntityKind} {f : Value → Except Fault (List β)}
    {u : Entity → List β} (hone : ∀ {id r}, f id = .ok r → ∃ e, g.expect kind id = .ok e ∧ r = u e)
    {ids : List Value} {rs : List (List β)} (h : ids.mapM f = .ok rs) :
    rs.flatten = (ids.filterMap fun id => (g.expect kind id).toOption).flatMap u := by
  have hall := mapM_eq_ok.1 h
  clear h
  induction hall with
  | nil => rfl
  | @cons id r ids rs hid _ ih =>
    obtain ⟨e, he, rfl⟩ := hone hid
    rw [List.flatten_cons, List.filterMap_cons_some (b := e) (by rw [he]; rfl), List.flatMap_cons,
      ih]

lemma getD_items {e : Entity} {ids : List Value} (h : e.children.items = .ok ids) :
    e.children.items.toOption.getD [] = ids := by
  rw [h]
  rfl

lemma spaceName_eq_ok {s : Entity} {t : Text} (h : spaceName s.name = .ok t) :
    t = Posting.spaceText s := by
  unfold spaceName at h
  unfold Posting.spaceText
  split at h
  case isTrue hholds =>
    rw [if_pos hholds, expectText_eq_ok h]
    rfl
  case isFalse hholds =>
    rw [if_neg hholds]
    exact (Except.ok.inj h).symm

lemma siteOf_eq_ok {space : Text} {t : Entity} {site : TypeSite}
    (h : siteOf config space t = .ok site) :
    t.name = .text site.name ∧ t.fullName = .text site.fullName ∧ site.type = t ∧
      site.path = pagePath config (typePage config space site.name) := by
  obtain ⟨name, hname, h⟩ := bind_eq_ok.1 h
  obtain ⟨fullName, hfull, h⟩ := bind_eq_ok.1 h
  obtain rfl := Except.ok.inj h
  refine ⟨?_, expectText_eq_ok hfull, rfl, rfl⟩
  unfold typeName at hname
  split at hname
  case h_1 htext =>
    rw [← Except.ok.inj hname]
    exact htext
  · cases hname
  · cases hname

lemma typeRegistrations_eq {s t : Entity} {site : TypeSite}
    (h : siteOf config (Posting.spaceText s) t = .ok site) :
    typeRegistrations site =
      (Posting.type s t).keys.map (·, (Posting.type s t).target config) := by
  obtain ⟨hname, hfull, htype, hpath⟩ := siteOf_eq_ok h
  have hname' : t.name.toText = site.name := by rw [hname]; rfl
  have hfull' : t.fullName.toText = site.fullName := by rw [hfull]; rfl
  simp only [typeRegistrations, Posting.keys, Posting.primary, Posting.aliases, Posting.target,
    Posting.typePath, hname', hfull', htype, hpath, List.cons_append, List.nil_append]

lemma memberRegistrations_eq {s t m : Entity} {site : TypeSite} {rs : List (Text × LinkTarget)}
    (h : siteOf config (Posting.spaceText s) t = .ok site) (hkind : m.kind = .member)
    (hrs : memberRegistrations site m = .ok rs) :
    rs = (Posting.member s t m).keys.map (·, (Posting.member s t m).target config) := by
  obtain ⟨hname, hfull, htype, hpath⟩ := siteOf_eq_ok h
  have hname' : t.name.toText = site.name := by rw [hname]; rfl
  have hfull' : t.fullName.toText = site.fullName := by rw [hfull]; rfl
  cases hd : m.detail with
  | member kind declaring isExtension extended =>
    rw [memberRegistrations, hd] at hrs
    obtain ⟨letter, hletter, hrs⟩ := bind_eq_ok.1 hrs
    obtain ⟨name, hm, hrs⟩ := bind_eq_ok.1 hrs
    have hm' : m.name.toText = name := by rw [expectText_eq_ok hm]; rfl
    have hletter' : Posting.letter m = letter := by
      unfold memberLetter at hletter
      unfold Posting.letter Posting.memberKind
      rw [hd]
      cases kind with
      | proper kind => exact Except.ok.inj hletter
      | stray v =>
        obtain ⟨_, -, hletter⟩ := map_eq_ok.1 hletter
        exact hletter
    have hkind' : Posting.memberKind m = kind := by simp [Posting.memberKind, hd]
    rw [← Except.ok.inj hrs]
    cases hdetail : t.detail <;>
      simp only [Posting.keys, Posting.primary, Posting.aliases, Posting.target, Posting.typePath,
        Posting.qualified, Posting.isEnum, hname', hfull', hm', hletter', hkind', htype, hpath,
        hdetail, List.cons_append, List.nil_append]
  | _ =>
    rw [Entity.kind, hd] at hkind
    cases hkind

lemma registerType_eq {s : Entity} {id : Value} {rs : List (Text × LinkTarget)}
    (h : registerType g config (Posting.spaceText s) id = .ok rs) :
    ∃ t, g.expect .type id = .ok t ∧ rs = entriesOf config (g.typePostings s t) := by
  obtain ⟨t, ht, h⟩ := bind_eq_ok.1 h
  obtain ⟨site, hsite, h⟩ := bind_eq_ok.1 h
  obtain ⟨ids, hids, h⟩ := bind_eq_ok.1 h
  obtain ⟨members, hmembers, h⟩ := bind_eq_ok.1 h
  rw [(siteOf_eq_ok hsite).2.2.1] at hids
  have hmember {id : Value} {rs : List (Text × LinkTarget)}
      (hrs : (g.expect .member id >>= memberRegistrations site) = .ok rs) :
      ∃ m, g.expect .member id = .ok m ∧
        rs = (Posting.member s t m).keys.map (·, (Posting.member s t m).target config) := by
    obtain ⟨m, hm, hrs⟩ := bind_eq_ok.1 hrs
    exact ⟨m, hm, memberRegistrations_eq hsite (kind_of_expect hm) hrs⟩
  refine ⟨t, ht, ?_⟩
  rw [← Except.ok.inj h, flatten_mapM hmember hmembers, typeRegistrations_eq hsite,
    Graph.typePostings, entriesOf_cons, Graph.listed, getD_items hids]
  simp [entriesOf, List.flatMap_map]

lemma registerNamespace_eq {id : Value} {rs : List (Text × LinkTarget)}
    (h : registerNamespace g config id = .ok rs) :
    ∃ s, g.expect .namespace id = .ok s ∧ rs = entriesOf config (g.spacePostings s) := by
  obtain ⟨s, hs, h⟩ := bind_eq_ok.1 h
  obtain ⟨name, hname, h⟩ := bind_eq_ok.1 h
  obtain ⟨ids, hids, h⟩ := bind_eq_ok.1 h
  obtain ⟨types, htypes, h⟩ := bind_eq_ok.1 h
  obtain rfl := spaceName_eq_ok hname
  refine ⟨s, hs, ?_⟩
  rw [← Except.ok.inj h, flatten_mapM registerType_eq htypes, Graph.spacePostings, entriesOf_cons,
    entriesOf_flatMap, Graph.listed, getD_items hids]
  rfl

lemma registerAssembly_eq {a : Entity} {rs : List (Text × LinkTarget)}
    (h : registerAssembly g config a = .ok rs) : rs = entriesOf config (g.assemblyPostings a) := by
  obtain ⟨ids, hids, h⟩ := bind_eq_ok.1 h
  obtain ⟨spaces, hspaces, h⟩ := bind_eq_ok.1 h
  rw [← Except.ok.inj h, flatten_mapM registerNamespace_eq hspaces, Graph.assemblyPostings,
    entriesOf_cons, entriesOf_flatMap, Graph.listed, getD_items hids]
  rfl

/-- What is registered are the keys of the postings. -/
theorem registrations_eq {rs : List (Text × LinkTarget)} (h : registrations g config = .ok rs) :
    rs = entriesOf config g.postings := by
  have hflat : ∀ {as : List Entity} {parts : List (List (Text × LinkTarget))},
      as.mapM (registerAssembly g config) = .ok parts →
        parts.flatten = as.flatMap fun a => entriesOf config (g.assemblyPostings a) := by
    intro as parts hparts
    have hall := mapM_eq_ok.1 hparts
    clear hparts
    induction hall with
    | nil => rfl
    | cons hone _ ih => rw [List.flatten_cons, List.flatMap_cons, ih, registerAssembly_eq hone]
  obtain ⟨parts, hparts, h⟩ := bind_eq_ok.1 h
  rw [← Except.ok.inj h, Graph.postings, entriesOf_flatMap, hflat hparts]

/-! ### Looking up -/

variable {index : LinkIndex} {key k : Text} {t : LinkTarget}

lemma lookup?_register : (index.register k t).lookup? key =
    (index.lookup? key).or (if isKeyFor key k then some t else none) := by
  unfold register
  by_cases htaken : (k.isEmpty || (index.lookup? k).isSome) = true
  · rw [if_pos htaken]
    by_cases hk : isKeyFor key k = true
    · -- The key is taken already, and what stands there stays.
      simp only [isKeyFor, Bool.and_eq_true, Bool.not_eq_eq_eq_not, Bool.not_true, beq_iff_eq] at hk
      have hsome : (index.lookup? key).isSome := by
        rw [hk.1, Bool.false_or, lookup?, hk.2] at htaken
        exact htaken
      obtain ⟨t', ht'⟩ := Option.isSome_iff_exists.1 hsome
      rw [ht', Option.some_or]
    · rw [if_neg hk, Option.or_none]
  · rw [if_neg htaken]
    simp only [Bool.or_eq_true, not_or, Bool.not_eq_true] at htaken
    have hlast : [(fold k, t)].lookup (fold key) = if isKeyFor key k then some t else none := by
      by_cases hk : fold k = fold key
      · simp [isKeyFor, htaken.1, hk]
      · have hk' : (fold key == fold k) = false := beq_eq_false_iff_ne.2 (Ne.symm hk)
        simp [isKeyFor, List.lookup_cons, hk, hk']
    rw [lookup?, List.lookup_append, hlast]
    rfl

/-- The first registration of a key counts. -/
theorem lookup?_ofRegistrations (rs : List (Text × LinkTarget)) (key : Text) :
    (ofRegistrations rs).lookup? key = (rs.find? fun r => isKeyFor key r.1).map (·.2) := by
  have hfrom : ∀ index : LinkIndex,
      (rs.foldl (fun index r => index.register r.1 r.2) index).lookup? key =
        (index.lookup? key).or ((rs.find? fun r => isKeyFor key r.1).map (·.2)) := by
    induction rs with
    | nil => simp
    | cons r rs ih =>
      intro index
      rw [List.foldl_cons, ih, lookup?_register, Option.or_assoc, List.find?_cons]
      cases isKeyFor key r.1 <;> simp
  exact hfrom {}

lemma find?_entriesOf (ps : List Posting) :
    ((entriesOf config ps).find? fun r => isKeyFor key r.1).map (·.2) =
      (ps.find? (·.answers key)).map (·.target config) := by
  induction ps with
  | nil => rfl
  | cons p ps ih =>
    have hhead : ((p.keys.map (·, p.target config)).find? fun r => isKeyFor key r.1).map (·.2) =
        if p.answers key then some (p.target config) else none := by
      rw [List.find?_map, Option.map_map]
      change Option.map _ (p.keys.find? (isKeyFor key)) = _
      cases hfind : p.keys.find? (isKeyFor key) with
      | none =>
        have hnot : p.answers key = false :=
          List.any_eq_false.2 (List.find?_eq_none.1 hfind)
        simp [hnot]
      | some k =>
        have hsome : p.answers key = true :=
          List.any_eq_true.2 ⟨k, List.mem_of_find?_eq_some hfind, List.find?_some hfind⟩
        simp [hsome]
    rw [entriesOf_cons, List.find?_append, Option.map_or, ih, hhead, List.find?_cons]
    cases p.answers key <;> simp

/-- A key stands for the first posting that has it. -/
theorem lookup?_build {index : LinkIndex} (h : build g config = .ok index) (key : Text) :
    index.lookup? key = (g.postings.find? (·.answers key)).map (·.target config) := by
  obtain ⟨rs, hrs, h⟩ := bind_eq_ok.1 h
  rw [← Except.ok.inj h, lookup?_ofRegistrations, registrations_eq hrs, find?_entriesOf]

end LinkIndex

/-! ### Postings of a linked graph -/

namespace Graph

variable {P : EntityKind → Prop} {g : Graph} {k j : Scalar} {e c : Entity} {kind : EntityKind}

lemma listed_eq (h : g.Linked P) (he : (k, e) ∈ g.entries)
    (hkind : kind.parentKind? = some e.kind) :
    g.listed kind e = e.childIds.filterMap g.get? := by
  rw [listed, getD_items (items_of_lists (h.lists he)), List.filterMap_map]
  refine List.filterMap_congr ?_
  intro j hj
  obtain ⟨i, c, hi, hc, -, hexpect⟩ :=
    expect_child h he kind hkind (List.mem_map_of_mem (f := Value.scalar) hj)
  obtain rfl := Value.scalar.inj hi
  rw [Function.comp_apply, hexpect, h.distinct.get?_eq hc]
  rfl

lemma mem_listed (h : g.Linked P) (he : (k, e) ∈ g.entries)
    (hkind : kind.parentKind? = some e.kind) :
    c ∈ g.listed kind e ↔ ∃ j ∈ e.childIds, (j, c) ∈ g.entries := by
  rw [listed_eq h he hkind, List.mem_filterMap]
  constructor
  · rintro ⟨j, hj, hget⟩
    obtain ⟨c', hc', -⟩ := h.child he hj
    rw [h.distinct.get?_eq hc', Option.some.injEq] at hget
    exact ⟨j, hj, hget ▸ hc'⟩
  · rintro ⟨j, hj, hc⟩
    exact ⟨j, hj, h.distinct.get?_eq hc⟩

lemma kind_of_mem_listed (hc : c ∈ g.listed kind e) : c.kind = kind := by
  obtain ⟨id, -, hid⟩ := List.mem_filterMap.1 hc
  exact kind_of_expect (eq_ok_of_toOption hid)

lemma mem_assemblies : e ∈ g.assemblies ↔ ∃ k, (k, e) ∈ g.entries ∧ e.kind = .assembly := by
  simp [assemblies, ofKind, entities]

lemma mem_postings {p : Posting} : p ∈ g.postings ↔ ∃ a ∈ g.assemblies, p = .assembly a ∨
    ∃ s ∈ g.listed .namespace a, p = .space s ∨
      ∃ t ∈ g.listed .type s, p = .type s t ∨ ∃ m ∈ g.listed .member t, p = .member s t m := by
  simp only [postings, assemblyPostings, spacePostings, typePostings, List.mem_flatMap,
    List.mem_cons, List.mem_map, eq_comm (a := p)]

/-- The entity that an entity other than an assembly is listed by. -/
lemma Sound.exists_lister (h : g.Sound) (hc : (j, c) ∈ g.entries) {wanted : EntityKind}
    (hkind : c.kind.parentKind? = some wanted) :
    ∃ k e, (k, e) ∈ g.entries ∧ e.kind = wanted ∧ c ∈ g.listed c.kind e := by
  have hset := h.rooted hc (by rintro hassembly; rw [hassembly] at hkind; cases hkind)
  obtain ⟨k, e, he, hholder, hmem⟩ := h.linked.parent hc hset
  have hekind := h.linked.parentKind he hc hholder
  refine ⟨k, e, he, ?_, (mem_listed (h.linked.linked fun _ => True) he hekind).2 ⟨j, hmem, hc⟩⟩
  rw [hkind] at hekind
  exact (Option.some.inj hekind).symm

lemma Sound.exists_type_lister (h : g.Sound) (he : (k, e) ∈ g.entries) (hkind : e.kind = .type) :
    ∃ a ∈ g.assemblies, ∃ s ∈ g.listed .namespace a, e ∈ g.listed .type s := by
  have hparent : e.kind.parentKind? = some .namespace := by rw [hkind]; rfl
  obtain ⟨_, s, hs, hskind, hlisted⟩ := h.exists_lister he hparent
  have hroot : s.kind.parentKind? = some .assembly := by rw [hskind]; rfl
  obtain ⟨i, a, ha, hakind, hlisted'⟩ := h.exists_lister hs hroot
  rw [hkind] at hlisted
  rw [hskind] at hlisted'
  exact ⟨a, mem_assemblies.2 ⟨i, ha, hakind⟩, s, hlisted', hlisted⟩

lemma Sound.exists_type_posting (h : g.Sound) (he : (k, e) ∈ g.entries) (hkind : e.kind = .type) :
    ∃ s, .type s e ∈ g.postings := by
  obtain ⟨a, ha, s, hs, hlisted⟩ := h.exists_type_lister he hkind
  exact ⟨s, mem_postings.2 ⟨a, ha, .inr ⟨s, hs, .inr ⟨e, hlisted, .inl rfl⟩⟩⟩⟩

/-- Every type and every member of a sound graph is posted. -/
lemma Sound.exists_posting (h : g.Sound) (he : (k, e) ∈ g.entries)
    (hkind : e.kind = .type ∨ e.kind = .member) :
    ∃ p ∈ g.postings, p.entity = e ∧ p.isSymbol = true := by
  rcases hkind with hkind | hkind
  · obtain ⟨s, hs⟩ := h.exists_type_posting he hkind
    exact ⟨_, hs, rfl, rfl⟩
  · have hparent : e.kind.parentKind? = some .type := by rw [hkind]; rfl
    obtain ⟨_, t, ht, htkind, hmember⟩ := h.exists_lister he hparent
    obtain ⟨a, ha, s, hs, hlisted⟩ := h.exists_type_lister ht htkind
    rw [hkind] at hmember
    exact ⟨.member s t e, mem_postings.2 ⟨a, ha, .inr ⟨s, hs, .inr ⟨t, hlisted, .inr
      ⟨e, hmember, rfl⟩⟩⟩⟩, rfl, rfl⟩

/-- The ids of postings, in order. -/
def postedIds (ps : List Posting) : List Value :=
  ps.map (·.entity.id)

/-- The ids in a subtree, in order. -/
def subtreeIds (g : Graph) (n : Nat) (k : Scalar) : List Value :=
  (g.subtree n k).map fun y => .scalar y.1

lemma subtreeIds_succ (h : g.WellLinked) (he : (k, e) ∈ g.entries) (n : Nat) :
    g.subtreeIds (n + 1) k = e.id :: e.childIds.flatMap (g.subtreeIds n) := by
  rw [subtreeIds, subtree_succ h.distinct he, h.id_eq he, List.map_cons, List.map_flatMap]
  rfl

lemma postedIds_listed (h : g.WellLinked) (he : (k, e) ∈ g.entries)
    (hkind : kind.parentKind? = some e.kind) {f : Entity → List Posting} {n : Nat}
    (hf : ∀ {j c}, (j, c) ∈ g.entries → c.kind = kind →
      (postedIds (f c)).Sublist (g.subtreeIds n j)) :
    (postedIds ((g.listed kind e).flatMap f)).Sublist (e.childIds.flatMap (g.subtreeIds n)) := by
  have hids : ∀ ids : List Scalar, (∀ j ∈ ids, j ∈ e.childIds) →
      (postedIds ((ids.filterMap g.get?).flatMap f)).Sublist (ids.flatMap (g.subtreeIds n)) := by
    intro ids hsub
    induction ids with
    | nil => exact List.Sublist.refl _
    | cons j ids ih =>
      obtain ⟨c, hc, hckind, -⟩ := h.child he (hsub j (by simp))
      have hck : c.kind = kind := by
        apply EntityKind.eq_of_depth
        rw [EntityKind.depth_parentKind hckind, EntityKind.depth_parentKind hkind]
      rw [List.filterMap_cons_some (h.distinct.get?_eq hc), List.flatMap_cons, List.flatMap_cons,
        postedIds, List.map_append]
      exact (hf hc hck).append (ih fun i hi => hsub i (by simp [hi]))
  rw [listed_eq (h.linked fun _ => True) he hkind]
  exact hids _ fun _ hj => hj

/-- No entity of a well linked graph is posted twice. -/
theorem postings_nodup (h : g.WellLinked) : (postedIds g.postings).Nodup := by
  -- The postings of an entity stand in the order of its subtree, which has parameters besides.
  have htype : ∀ {s k t}, (k, t) ∈ g.entries → t.kind = .type →
      (postedIds (g.typePostings s t)).Sublist (g.subtreeIds 3 k) := by
    intro s k t ht htkind
    have hparent : EntityKind.member.parentKind? = some t.kind := by rw [htkind]; rfl
    have hmembers := postedIds_listed h ht hparent
      (f := fun m => [.member s t m]) (n := 2) (by
        intro j m hm _
        rw [subtreeIds_succ h hm]
        exact (List.nil_sublist _).cons_cons _)
    rw [← List.map_eq_flatMap] at hmembers
    rw [subtreeIds_succ h ht]
    exact hmembers.cons_cons _
  have hspace : ∀ {k s}, (k, s) ∈ g.entries → s.kind = .namespace →
      (postedIds (g.spacePostings s)).Sublist (g.subtreeIds 4 k) := by
    intro k s hs hskind
    rw [subtreeIds_succ h hs]
    exact (postedIds_listed h hs (by rw [hskind]; rfl) htype).cons_cons _
  have hassembly : ∀ {k a}, (k, a) ∈ g.entries → a.kind = .assembly →
      (postedIds (g.assemblyPostings a)).Sublist (g.subtreeIds 5 k) := by
    intro k a ha hakind
    rw [subtreeIds_succ h ha]
    exact (postedIds_listed h ha (by rw [hakind]; rfl) hspace).cons_cons _
  have hall : (postedIds g.postings).Sublist (g.assemblyKeys.flatMap (g.subtreeIds 5)) := by
    have hmap : g.assemblies = (g.entries.filter (·.2.kind = .assembly)).map (·.2) := by
      simp [assemblies, ofKind, entities, List.filter_map, Function.comp_def]
    rw [postings, hmap, assemblyKeys, postedIds, List.map_flatMap, List.flatMap_map,
      List.flatMap_map]
    refine List.Sublist.flatMap_right _ ?_
    rintro ⟨k, a⟩ ha
    obtain ⟨ha, hakind⟩ := List.mem_filter.1 ha
    exact hassembly ha (by simpa using hakind)
  refine hall.nodup ?_
  have hkeys : g.assemblyKeys.Nodup := (List.filter_sublist.map _).nodup h.distinct.nodup
  have hnodup := subtrees_nodup (n := 5) h hkeys fun _ => depth_of_assembly
  have hids : g.assemblyKeys.flatMap (g.subtreeIds 5) =
      ((g.assemblyKeys.flatMap (g.subtree 5)).map (·.1)).map Value.scalar := by
    rw [List.map_map, List.map_flatMap]
    rfl
  rw [hids]
  exact hnodup.map fun _ _ => Value.scalar.inj

/-- A graph file with one namespace that has types with the given fields. -/
def typesFile (types : List (List (String × Value))) : Value :=
  let record := fun fields : List (String × Value) =>
    Value.map (fields.map fun y => (.text y.1.toList, y.2))
  record [("assemblies", .list [record [("name", .text ['A']), ("namespaces",
    .list [record [("name", .text ['N']), ("types", .list (types.map record))]])]])]

/-- The graph that such a file describes. -/
def typesGraph (types : List (List (String × Value))) : Graph :=
  (ofValue (typesFile types)).toOption.getD empty

end Graph

end LinkedDocs
