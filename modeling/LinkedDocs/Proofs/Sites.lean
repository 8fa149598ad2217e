import LinkedDocs.Proofs.Loading

/-!
# What a graph file describes

A graph file nests records. Where a record stands says what kind of entity it describes, which
entity holds that one, and of which name default ids are made. This module states when the record
at such a site is valid and which id it has, and shows that it can be read exactly then.
-/

namespace LinkedDocs

namespace Value

/-- The fields of a mapping. -/
def fields? (v : Value) : Option (List (Scalar × Value)) :=
  match v.untied with
  | .map fields => some fields
  | _ => none

/-- The items of a list. -/
def listed (v : Value) : List Value :=
  match v.untied with
  | .list items => items
  | _ => []

/-- The mappings of a list. -/
def records (v : Value) : List (List (Scalar × Value)) :=
  v.listed.filterMap fields?

def isText : Value → Bool
  | .scalar (.text _) => true
  | _ => false

/-- Whether the value is null, or a list of such items. -/
def isListOf (p : Value → Bool) (v : Value) : Bool :=
  v.isNull || match v.untied with
    | .list items => items.all p
    | _ => false

/-- The value is null, or in lower case it is one of the words. -/
def Spells (words : List Text) (v : Value) : Prop :=
  v.isNull = true ∨ v.isShowable = true ∧ Text.lower v.toText ∈ words

instance (words : List Text) (v : Value) : Decidable (v.Spells words) :=
  inferInstanceAs (Decidable (_ ∨ _ ∧ _))

end Value

/-- The field with the records of what entities of a kind hold. -/
def EntityKind.partsKey? : EntityKind → Option Text
  | .assembly => some "namespaces".toList
  | .namespace => some "types".toList
  | .type => some "members".toList
  | .member => some "parameters".toList
  | .parameter => none

namespace Graph

/-- Where records of a kind stand: the id of the entity that holds them, and the name that their
default ids are made of. -/
structure Place where
  kind : EntityKind
  owner : Text := []
  stem : Value := .null

/-- A record at its place. -/
structure Site extends Place where
  fields : List (Scalar × Value)

namespace Site

def get (s : Site) (key : Text) : Value :=
  Value.get s.fields key

/-- The name as text; nothing given is the empty name. -/
def name (s : Site) : Text :=
  (givenOr s.fields "name".toList (.text [])).toText

/-- The full name of a type: the one given, or its name in its namespace. -/
def fullName (s : Site) : Value :=
  givenOr s.fields "full_name".toList
    (.text (if s.stem.toText = [] then s.name else s.stem.toText ++ '.' :: s.name))

/-- The kind of a member; a method if none is given. -/
def memberKind (s : Site) : MemberKind :=
  if (s.get "kind".toList).isNull then .method
  else (MemberKind.all.find? fun kind =>
    kind.text == Text.lower (s.get "kind".toList).toText).getD .method

/-- The id of an entity for which the file gives none. -/
def defaultId (s : Site) : Text :=
  match s.kind with
  | .assembly => "A:".toList ++ s.name
  | .namespace => "N:".toList ++ s.name
  | .type => "T:".toList ++ s.fullName.toText
  | .member => s.memberKind.letter :: ':' :: s.stem.toText ++ '.' :: s.name
  | .parameter => s.owner ++ '/' :: s.name

/-- The id: the one given if it is not empty, or the default. -/
def id (s : Site) : Text :=
  match s.get "id".toList with
  | .scalar (.text (c :: cs)) => c :: cs
  | _ => s.defaultId

/-- The place of the records of what the entity holds. -/
def inside (s : Site) : Place :=
  match s.kind with
  | .assembly => { kind := .namespace, owner := s.id }
  | .namespace => { kind := .type, owner := s.id, stem := .text s.name }
  | .type => { kind := .member, owner := s.id, stem := s.fullName }
  | .member | .parameter => { kind := .parameter, owner := s.id }

/-- The records of what the entity holds. -/
def items (s : Site) : List Value :=
  match s.kind.partsKey? with
  | some key => (s.get key).listed
  | none => []

end Site

/-- The records at a place. -/
def Place.sites (p : Place) (items : List Value) : List Site :=
  (items.filterMap Value.fields?).map (⟨p, ·⟩)

/-- A record and the records below it in pre-order, at most `n` levels. -/
def Site.below : (n : Nat) → Site → List Site
  | 0, _ => []
  | n + 1, s => s :: (s.inside.sites s.items).flatMap (below n)

/-- All records of a file in pre-order. -/
def sites (file : List (Scalar × Value)) : List Site :=
  (Place.sites { kind := .assembly } (Value.get file "assemblies".toList).listed).flatMap
    (Site.below 5)

/-! ### Validity -/

/-- Whether the value is a text that is not empty. -/
def isName : Value → Bool
  | .scalar (.text (_ :: _)) => true
  | _ => false

/-- The words of a reference are known ones. -/
structure KnownReference (record : List (Scalar × Value)) : Prop where
  kind : (Value.get record "kind".toList).Spells (ReferenceKind.all.map ReferenceKind.text)
  state : (Value.get record "state".toList).Spells (ResolutionState.all.map ResolutionState.text)
  symbolKind : (Value.get record "symbol_kind".toList).Spells (SymbolKind.all.map SymbolKind.text)

instance (record : List (Scalar × Value)) : Decidable (KnownReference record) :=
  decidable_of_iff (_ ∧ _ ∧ _)
    ⟨fun ⟨kind, state, symbolKind⟩ => ⟨kind, state, symbolKind⟩,
      fun h => ⟨h.kind, h.state, h.symbolKind⟩⟩

namespace Site

/-- The types of the fields of a record. -/
structure Shaped (s : Site) : Prop where
  id : (s.get "id".toList).isNull = true ∨ (s.get "id".toList).isText = true
  references : (s.get "references".toList).isListOf
    (fun v => v.isText || v.fields?.isSome) = true
  exceptions : (s.get "exceptions".toList).isListOf (·.fields?.isSome) = true
  parts : (s.kind.partsKey?.all fun key => (s.get key).isListOf (·.fields?.isSome)) = true

/-- A record has a name, which a namespace need not have, and its words are known ones. -/
structure Valid (s : Site) : Prop where
  name : s.kind ≠ .namespace → isName (s.get "name".toList) = true
  typeKind : s.kind = .type →
    (s.get "kind".toList).Spells (TypeKind.all.map TypeKind.text)
  memberKind : s.kind = .member →
    (s.get "kind".toList).Spells (MemberKind.all.map MemberKind.text)
  references : ∀ record ∈ (s.get "references".toList).records, KnownReference record

/-- What is to be text can be shown as text. -/
structure Showable (s : Site) : Prop where
  name : s.kind = .namespace →
    (givenOr s.fields "name".toList (.text [])).isShowable = true
  fullName : s.kind = .type → (s.get "id".toList).holds = false → s.fullName.isShowable = true
  stem : s.kind = .member → (s.get "id".toList).holds = false → s.stem.isShowable = true
  references : ∀ record ∈ (s.get "references".toList).records,
    ((Value.lookup? record (.text "raw".toList)).getD (.text [])).isShowable = true
  exceptions : ∀ record ∈ (s.get "exceptions".toList).records,
    ((Value.lookup? record (.text "type".toList)).getD (.text [])).isShowable = true

instance (s : Site) : Decidable s.Shaped :=
  decidable_of_iff (_ ∧ _ ∧ _ ∧ _)
    ⟨fun ⟨id, references, exceptions, parts⟩ => ⟨id, references, exceptions, parts⟩,
      fun h => ⟨h.id, h.references, h.exceptions, h.parts⟩⟩

instance (s : Site) : Decidable s.Valid :=
  decidable_of_iff (_ ∧ _ ∧ _ ∧ _)
    ⟨fun ⟨name, typeKind, memberKind, references⟩ => ⟨name, typeKind, memberKind, references⟩,
      fun h => ⟨h.name, h.typeKind, h.memberKind, h.references⟩⟩

instance (s : Site) : Decidable s.Showable :=
  decidable_of_iff (_ ∧ _ ∧ _ ∧ _ ∧ _)
    ⟨fun ⟨name, fullName, stem, references, exceptions⟩ =>
        ⟨name, fullName, stem, references, exceptions⟩,
      fun h => ⟨h.name, h.fullName, h.stem, h.references, h.exceptions⟩⟩

end Site

/-- The parent of the entities at a place. -/
def Place.parent (p : Place) : Value :=
  match p.kind with
  | .assembly => .null
  | _ => .text p.owner

/-- Adds an entity and what it holds, with its record at a place. -/
def Place.load (p : Place) : Graph → Value → Except Fault Graph :=
  match p.kind with
  | .assembly => loadAssembly
  | .namespace => loadNamespace (.text p.owner)
  | .type => loadType (.text p.owner) p.stem.toText
  | .member => loadMember (.text p.owner) p.stem
  | .parameter => loadParameter (.text p.owner)

/-! ### Reading the parts of a record -/

lemma entries_of_fields? {v : Value} {fields : List (Scalar × Value)}
    (h : v.fields? = some fields) : v.entries = .ok fields := by
  unfold Value.fields? at h
  split at h
  case h_1 hv =>
    rw [Value.entries, hv, Option.some.inj h]
  case h_2 => cases h

lemma holds_untied (v : Value) : v.untied.holds = v.holds := by
  fun_induction Value.untied v with
  | case1 label body ih => rw [ih, Value.holds]
  | case2 => rfl

/-- The items of what is null or a list. -/
lemma itemsUnder_of_isListOf {record : List (Scalar × Value)} {key : Text} {p : Value → Bool}
    (h : (Value.get record key).isListOf p = true) :
    Value.itemsUnder record key = .ok (Value.get record key).listed ∧
      ∀ v ∈ (Value.get record key).listed, p v = true := by
  unfold Value.itemsUnder
  -- Null and the empty list both count as nothing given, and either has no items.
  generalize Value.get record key = v at h
  unfold Value.isListOf at h
  rcases Bool.or_eq_true_iff.1 h with hnull | hlist
  · obtain rfl : v = .null := by
      unfold Value.isNull at hnull
      split at hnull
      · rfl
      · cases hnull
    exact ⟨rfl, by simp [Value.listed, Value.untied]⟩
  · split at hlist
    case h_1 items hv =>
      have hlisted : v.listed = items := by rw [Value.listed, hv]
      rw [hlisted]
      refine ⟨?_, List.all_eq_true.1 hlist⟩
      simp only
      rw [← holds_untied, hv, Value.items, hv]
      cases items <;> rfl
    case h_2 => cases hlist

lemma shown_eq_ok {v : Value} {t : Text} :
    v.shown = .ok t ↔ v.isShowable = true ∧ v.toText = t := by
  unfold Value.shown
  split <;> simp_all

lemma exists_word_iff {α : Type} {title : Text} {all : List α} {text : α → Text} {v : Value} :
    (∃ r, Value.word title all text v = .ok r) ↔ v.Spells (all.map text) := by
  unfold Value.word Value.Spells
  by_cases hnull : v.isNull = true
  · simp [hnull]
  · rw [if_neg hnull, or_iff_right hnull]
    simp only [bind_eq_ok, shown_eq_ok, List.mem_map]
    constructor
    · rintro ⟨r, spelled, ⟨hshow, rfl⟩, hfind⟩
      refine ⟨hshow, ?_⟩
      split at hfind
      case h_1 a ha => exact ⟨a, List.mem_of_find?_eq_some ha, by simpa using List.find?_some ha⟩
      case h_2 => cases hfind
    · rintro ⟨hshow, a, ha, htext⟩
      cases hfind : all.find? fun a => text a == Text.lower v.toText with
      | some b => exact ⟨some b, _, ⟨hshow, rfl⟩, by rw [hfind]; rfl⟩
      | none =>
        have hnot := List.find?_eq_none.1 hfind a ha
        simp [htext] at hnot

lemma exists_readThrown_iff {item : Value} {record : List (Scalar × Value)}
    (h : item.fields? = some record) : (∃ x, readThrown item = .ok x) ↔
      ((Value.lookup? record (.text "type".toList)).getD (.text [])).isShowable = true := by
  unfold readThrown
  simp only [entries_of_fields? h, bind_eq_ok, shown_eq_ok, Except.ok.injEq]
  constructor
  · rintro ⟨x, record', rfl, t, ⟨hshow, -⟩, -⟩
    exact hshow
  · intro hshow
    exact ⟨_, record, rfl, _, ⟨hshow, rfl⟩, rfl⟩

lemma exists_readReference_iff {item : Value}
    (h : (item.isText || item.fields?.isSome) = true) :
    (∃ r, readReference item = .ok r) ↔ ∀ record, item.fields? = some record →
      KnownReference record ∧
      ((Value.lookup? record (.text "raw".toList)).getD (.text [])).isShowable = true := by
  unfold readReference
  split
  case h_1 raw => simp [Value.fields?, Value.untied]
  case h_2 hitem =>
    obtain ⟨record, hrecord⟩ : ∃ record, item.fields? = some record := by
      rw [← Option.isSome_iff_exists]
      rcases Bool.or_eq_true_iff.1 h with htext | hfields
      · unfold Value.isText at htext
        split at htext
        case h_1 t => exact (hitem t rfl).elim
        case h_2 => cases htext
      · exact hfields
    simp only [entries_of_fields? hrecord, hrecord, Option.some.injEq, forall_eq', bind_eq_ok,
      shown_eq_ok, Except.ok.injEq]
    constructor
    · rintro ⟨r, _, rfl, raw, ⟨hshow, -⟩, kind, hkind, state, hstate, symbolKind, hsymbol, -⟩
      exact ⟨⟨exists_word_iff.1 ⟨kind, hkind⟩, exists_word_iff.1 ⟨state, hstate⟩,
        exists_word_iff.1 ⟨symbolKind, hsymbol⟩⟩, hshow⟩
    · rintro ⟨hknown, hshow⟩
      obtain ⟨kind, hkind⟩ := exists_word_iff.2 hknown.kind
      obtain ⟨state, hstate⟩ := exists_word_iff.2 hknown.state
      obtain ⟨symbolKind, hsymbol⟩ := exists_word_iff.2 hknown.symbolKind
      exact ⟨_, record, rfl, _, ⟨hshow, rfl⟩, kind, hkind, state, hstate, symbolKind, hsymbol, rfl⟩

namespace Site

variable {s : Site}

lemma exists_readContent_iff (h : s.Shaped) : (∃ content, readContent s.fields = .ok content) ↔
    (∀ record ∈ (s.get "references".toList).records, KnownReference record ∧
      ((Value.lookup? record (.text "raw".toList)).getD (.text [])).isShowable = true) ∧
    ∀ record ∈ (s.get "exceptions".toList).records,
      ((Value.lookup? record (.text "type".toList)).getD (.text [])).isShowable = true := by
  obtain ⟨hreferences, hreference⟩ := itemsUnder_of_isListOf h.references
  obtain ⟨hexceptions, hexception⟩ := itemsUnder_of_isListOf h.exceptions
  unfold readContent
  simp only [hreferences, hexceptions, bind_eq_ok, Except.ok.injEq, Value.records,
    List.mem_filterMap, forall_exists_index, and_imp]
  constructor
  · rintro ⟨content, _, rfl, references, hrefs, _, rfl, exceptions, hexcs, -⟩
    refine ⟨fun record item hitem hrecord => ?_, fun record item hitem hrecord => ?_⟩
    · exact (exists_readReference_iff (hreference item hitem)).1 (ok_of_mapM hrefs hitem) record
        hrecord
    · exact (exists_readThrown_iff hrecord).1 (ok_of_mapM hexcs hitem)
  · rintro ⟨hrefs, hexcs⟩
    obtain ⟨references, hrefs⟩ := exists_mapM fun item hitem =>
      (exists_readReference_iff (hreference item hitem)).2 fun record => hrefs record item hitem
    obtain ⟨exceptions, hexcs⟩ := exists_mapM fun item hitem => by
      obtain ⟨record, hrecord⟩ := Option.isSome_iff_exists.1 (hexception item hitem)
      exact (exists_readThrown_iff hrecord).2 (hexcs record item hitem hrecord)
    exact ⟨_, _, rfl, references, hrefs, _, rfl, exceptions, hexcs, rfl⟩

lemma readName_eq (h : isName (s.get "name".toList) = true) (what : Text) :
    readName s.fields what = .ok s.name ∧ s.name ≠ [] := by
  unfold isName at h
  split at h
  case h_1 c cs hname =>
    have hself : s.name = c :: cs := by
      rw [name, givenOr, show Value.get s.fields "name".toList = _ from hname]
      rfl
    rw [readName, show Value.get s.fields "name".toList = _ from hname, hself]
    exact ⟨rfl, List.cons_ne_nil c cs⟩
  case h_2 => cases h

lemma isName_of_readName {what t : Text} (h : readName s.fields what = .ok t) :
    isName (s.get "name".toList) = true ∧ t = s.name := by
  obtain ⟨hget, hne⟩ := readName_eq_ok h
  have hname : isName (s.get "name".toList) = true := by
    rw [get, hget]
    cases t with
    | nil => exact absurd rfl hne
    | cons => rfl
  exact ⟨hname, Except.ok.inj (h.symm.trans (readName_eq hname what).1)⟩

/-- The id that is read, if there is a default where none is given. -/
lemma readId_eq (h : s.Shaped) {default : Except Fault Text}
    (hdefault : (s.get "id".toList).holds = false → default = .ok s.defaultId) :
    readId s.fields default = .ok (.text s.id) := by
  have hunset (hholds : (s.get "id".toList).holds = false) (hid : s.id = s.defaultId) :
      readId s.fields default = .ok (.text s.id) := by
    rw [readId, show (Value.get s.fields "id".toList).holds = false from hholds, hdefault hholds,
      hid]
    rfl
  rcases h.id with hnull | htext
  · unfold Value.isNull at hnull
    split at hnull
    case h_1 hget => exact hunset (by rw [hget]; rfl) (by rw [id, hget])
    case h_2 => cases hnull
  · unfold Value.isText at htext
    split at htext
    case h_1 t hget =>
      cases t with
      | nil => exact hunset (by rw [hget]; rfl) (by rw [id, hget])
      | cons c cs =>
        rw [id, hget, readId, show Value.get s.fields "id".toList = _ from hget]
        rfl
    case h_2 => cases htext

lemma id_ne_nil (s : Site) : s.id ≠ [] := by
  have hdefault : s.defaultId ≠ [] := by
    unfold defaultId
    split <;> simp
  unfold id
  split
  · exact List.cons_ne_nil _ _
  · exact hdefault

lemma memberKind_eq {w : Option MemberKind}
    (h : Value.word "MemberKind".toList MemberKind.all MemberKind.text (s.get "kind".toList) =
      .ok w) : w.getD .method = s.memberKind := by
  unfold Value.word at h
  unfold memberKind
  by_cases hnull : (s.get "kind".toList).isNull = true
  · rw [if_pos hnull] at h ⊢
    rw [← Except.ok.inj h]
    rfl
  · rw [if_neg hnull] at h ⊢
    obtain ⟨spelled, hspelled, h⟩ := bind_eq_ok.1 h
    obtain ⟨-, rfl⟩ := shown_eq_ok.1 hspelled
    split at h
    case h_1 a ha =>
      rw [ha, ← Except.ok.inj h]
    case h_2 => cases h

lemma itemsUnder_eq (h : s.Shaped) {key : Text} (hkey : s.kind.partsKey? = some key) :
    Value.itemsUnder s.fields key = .ok s.items ∧ ∀ v ∈ s.items, v.fields?.isSome = true := by
  have hparts := h.parts
  rw [hkey, Option.all_some] at hparts
  simp only [items, hkey]
  exact itemsUnder_of_isListOf hparts

/-! ### Reading a record -/

/-- The entity that a record describes, before it has any children. -/
structure Makes (s : Site) (e : Entity) : Prop where
  id : e.id = .text s.id
  kind : e.kind = s.kind
  parent : e.parent = s.parent
  children : e.children = .list []
  readable : e.Readable
  named : e.kind = .type → e.name.holds = true

/-- An entity with the id and the name of a record. -/
def entityOf (s : Site) (content : Content) (detail : Detail) : Entity :=
  { content with id := .text s.id, name := .text s.name, detail, parent := s.parent }

lemma makes_entityOf {content : Content} {detail : Detail} (hvalid : s.Valid)
    (hcontent : readContent s.fields = .ok content) (hkind : detail.kind = s.kind)
    (hdetail : detail.Readable) : s.Makes (s.entityOf content detail) := by
  obtain ⟨hreferences, hexceptions⟩ := readContent_eq_ok hcontent
  have hname : s.name = [] → s.kind = .namespace := by
    intro hempty
    by_contra hspace
    exact (readName_eq (hvalid.name hspace) []).2 hempty
  refine ⟨rfl, hkind, rfl, rfl, ⟨⟨s.name, rfl, ?_⟩, hreferences, hexceptions, hdetail, rfl⟩, ?_⟩
  · intro hempty
    exact .inl (hkind.trans (hname hempty))
  · intro htype
    cases h : s.name with
    | nil =>
      have hspace : (s.entityOf content detail).kind = .namespace := hkind.trans (hname h)
      rw [hspace] at htype
      cases htype
    | cons c cs =>
      rw [entityOf, h]
      rfl

variable {data : Value} {acc acc' : Graph}

/-- The record is read as one entity, which is added before what it holds. -/
def ReadAs (s : Site) (data : Value) (e : Entity) : Prop :=
  s.Makes e ∧ ∀ acc, s.load acc data = (acc.with? e >>= fun g => s.items.foldlM s.inside.load g)

section

variable {content : Content} (hdata : data.entries = .ok s.fields) (hshaped : s.Shaped)
  (hvalid : s.Valid) (hshow : s.Showable) (hcontent : readContent s.fields = .ok content)

include hdata hshaped hvalid hcontent

lemma readAs_assembly (hkind : s.kind = .assembly) : ∃ e, s.ReadAs data e := by
  have hname := (readName_eq (hvalid.name (by rw [hkind]; decide)) "Assembly".toList).1
  have hid : readId s.fields (.ok ("A:".toList ++ s.name)) = .ok (.text s.id) :=
    readId_eq hshaped fun _ => by rw [defaultId, hkind]
  have hitems := (itemsUnder_eq hshaped (by rw [hkind]; rfl)).1
  refine ⟨s.entityOf content .assembly, makes_entityOf hvalid hcontent hkind.symm trivial, ?_⟩
  intro acc
  simp only [Place.load, inside, entityOf, Place.parent, hkind, loadAssembly, hdata, hname, hid,
    hcontent, hitems, bind, Except.bind]

lemma readAs_parameter (hkind : s.kind = .parameter) : ∃ e, s.ReadAs data e := by
  have hname := (readName_eq (hvalid.name (by rw [hkind]; decide)) "Parameter".toList).1
  have hid : readId s.fields ((Value.text s.owner).shown.map (· ++ '/' :: s.name)) =
      .ok (.text s.id) :=
    readId_eq hshaped fun _ => by rw [defaultId, hkind]; rfl
  have hitems : s.items = [] := by simp only [items, hkind, EntityKind.partsKey?]
  refine ⟨s.entityOf content (.parameter (Value.get s.fields "type".toList)),
    makes_entityOf hvalid hcontent hkind.symm trivial, ?_⟩
  intro acc
  rw [hitems]
  simp only [Place.load, entityOf, Place.parent, hkind, loadParameter, hdata, hname, hid,
    hcontent, bind, Except.bind, List.foldlM_nil]
  cases acc.with? _ <;> rfl

include hshow

lemma readAs_namespace (hkind : s.kind = .namespace) : ∃ e, s.ReadAs data e := by
  have hname : (givenOr s.fields "name".toList (.text [])).shown = .ok s.name :=
    shown_eq_ok.2 ⟨hshow.name hkind, rfl⟩
  have hid : readId s.fields (.ok ("N:".toList ++ s.name)) = .ok (.text s.id) :=
    readId_eq hshaped fun _ => by rw [defaultId, hkind]
  have hitems := (itemsUnder_eq hshaped (by rw [hkind]; rfl)).1
  refine ⟨s.entityOf content .namespace, makes_entityOf hvalid hcontent hkind.symm trivial, ?_⟩
  intro acc
  simp only [Place.load, inside, entityOf, Place.parent, hkind, loadNamespace, hdata, hname, hid,
    hcontent, hitems, bind, Except.bind]
  rfl

lemma readAs_type (hkind : s.kind = .type) : ∃ e, s.ReadAs data e := by
  obtain ⟨hname, hne⟩ := readName_eq (hvalid.name (by rw [hkind]; decide)) "Type".toList
  obtain ⟨w, hw⟩ : ∃ w, Value.word "TypeKind".toList TypeKind.all TypeKind.text
      (Value.get s.fields "kind".toList) = .ok w := exists_word_iff.2 (hvalid.typeKind hkind)
  have hid : readId s.fields (s.fullName.shown.map ("T:".toList ++ ·)) = .ok (.text s.id) := by
    refine readId_eq hshaped fun hunset => ?_
    rw [shown_eq_ok.2 ⟨hshow.fullName hkind hunset, rfl⟩, defaultId, hkind]
    rfl
  have hitems := (itemsUnder_eq hshaped (by rw [hkind]; rfl)).1
  refine ⟨s.entityOf content (.type s.fullName (.proper (w.getD .classType))
    (.bool (Value.get s.fields "external".toList).holds)),
    makes_entityOf hvalid hcontent hkind.symm (holds_fullName hne), ?_⟩
  intro acc
  unfold fullName at hid
  simp only [Place.load, inside, entityOf, Place.parent, hkind, loadType, hdata, hname, hid, hw,
    hcontent, hitems, fullName, bind, Except.bind]

lemma readAs_member (hkind : s.kind = .member) : ∃ e, s.ReadAs data e := by
  have hname := (readName_eq (hvalid.name (by rw [hkind]; decide)) "Member".toList).1
  obtain ⟨w, hw⟩ : ∃ w, Value.word "MemberKind".toList MemberKind.all MemberKind.text
      (Value.get s.fields "kind".toList) = .ok w := exists_word_iff.2 (hvalid.memberKind hkind)
  have hid : readId s.fields (s.stem.shown.map
      ((w.getD .method).letter :: ':' :: · ++ '.' :: s.name)) = .ok (.text s.id) := by
    refine readId_eq hshaped fun hunset => ?_
    rw [shown_eq_ok.2 ⟨hshow.stem hkind hunset, rfl⟩, defaultId, hkind, memberKind_eq hw]
    rfl
  have hitems := (itemsUnder_eq hshaped (by rw [hkind]; rfl)).1
  refine ⟨(s.entityOf content (.member (.proper (w.getD .method))
    (Value.get s.fields "declaring_type".toList)
    (.bool (Value.get s.fields "extension".toList).holds)
    (Value.get s.fields "extends".toList))).completed, ?_, ?_⟩
  · rw [Entity.completed_member rfl]
    exact makes_entityOf hvalid hcontent hkind.symm trivial
  · intro acc
    simp only [Place.load, inside, entityOf, Place.parent, hkind, loadMember, hdata, hname, hid,
      hw, hcontent, hitems, bind, Except.bind]

end

/-- A valid record can be read. -/
theorem exists_readAs (hdata : data.fields? = some s.fields) (hshaped : s.Shaped)
    (hvalid : s.Valid) (hshow : s.Showable) : ∃ e, s.ReadAs data e := by
  have hentries := entries_of_fields? hdata
  obtain ⟨content, hcontent⟩ := (exists_readContent_iff hshaped).2
    ⟨fun record hrecord => ⟨hvalid.references record hrecord, hshow.references record hrecord⟩,
      hshow.exceptions⟩
  cases hkind : s.kind with
  | assembly => exact readAs_assembly hentries hshaped hvalid hcontent hkind
  | «namespace» => exact readAs_namespace hentries hshaped hvalid hshow hcontent hkind
  | type => exact readAs_type hentries hshaped hvalid hshow hcontent hkind
  | member => exact readAs_member hentries hshaped hvalid hshow hcontent hkind
  | parameter => exact readAs_parameter hentries hshaped hvalid hcontent hkind

/-- The default of an id that is read could be shown. -/
lemma isShowable_of_readId {v id : Value} {f : Text → Text}
    (h : readId s.fields (v.shown.map f) = .ok id) (hunset : (s.get "id".toList).holds = false) :
    v.isShowable = true := by
  rw [readId, show (Value.get s.fields "id".toList).holds = false from hunset] at h
  obtain ⟨t, ht, -⟩ := map_eq_ok.1 h
  obtain ⟨t, ht, -⟩ := map_eq_ok.1 ht
  exact (shown_eq_ok.1 ht).1

lemma valid_of_readContent {content : Content} (hshaped : s.Shaped)
    (hcontent : readContent s.fields = .ok content)
    (hname : s.kind ≠ .namespace → isName (s.get "name".toList) = true)
    (hspace : s.kind = .namespace →
      (givenOr s.fields "name".toList (.text [])).isShowable = true)
    (htype : s.kind = .type →
      (s.get "kind".toList).Spells (TypeKind.all.map TypeKind.text) ∧
        ((s.get "id".toList).holds = false → s.fullName.isShowable = true))
    (hmember : s.kind = .member →
      (s.get "kind".toList).Spells (MemberKind.all.map MemberKind.text) ∧
        ((s.get "id".toList).holds = false → s.stem.isShowable = true)) :
    s.Valid ∧ s.Showable := by
  obtain ⟨hreferences, hexceptions⟩ := (exists_readContent_iff hshaped).1 ⟨content, hcontent⟩
  constructor
  · exact ⟨hname, fun hkind => (htype hkind).1, fun hkind => (hmember hkind).1,
      fun record hrecord => (hreferences record hrecord).1⟩
  · exact ⟨hspace, fun hkind => (htype hkind).2, fun hkind => (hmember hkind).2,
      fun record hrecord => (hreferences record hrecord).2, hexceptions⟩

/-- A record that can be read is valid. -/
theorem valid_of_load (hdata : data.fields? = some s.fields) (hshaped : s.Shaped)
    (h : s.load acc data = .ok acc') : s.Valid ∧ s.Showable := by
  have hentries := entries_of_fields? hdata
  cases hkind : s.kind with
  | assembly =>
    simp only [Place.load, hkind] at h
    obtain ⟨_, hrecord, h⟩ := bind_eq_ok.1 h
    obtain rfl := Except.ok.inj (hentries.symm.trans hrecord)
    obtain ⟨name, hname, h⟩ := bind_eq_ok.1 h
    obtain ⟨id, -, h⟩ := bind_eq_ok.1 h
    obtain ⟨content, hcontent, -⟩ := bind_eq_ok.1 h
    exact valid_of_readContent hshaped hcontent (fun _ => (isName_of_readName hname).1)
      (by simp [hkind]) (by simp [hkind]) (by simp [hkind])
  | «namespace» =>
    simp only [Place.load, hkind] at h
    obtain ⟨_, hrecord, h⟩ := bind_eq_ok.1 h
    obtain rfl := Except.ok.inj (hentries.symm.trans hrecord)
    obtain ⟨name, hname, h⟩ := bind_eq_ok.1 h
    obtain ⟨id, -, h⟩ := bind_eq_ok.1 h
    obtain ⟨content, hcontent, -⟩ := bind_eq_ok.1 h
    exact valid_of_readContent hshaped hcontent (by simp [hkind])
      (fun _ => (shown_eq_ok.1 hname).1) (by simp [hkind]) (by simp [hkind])
  | type =>
    simp only [Place.load, hkind] at h
    obtain ⟨_, hrecord, h⟩ := bind_eq_ok.1 h
    obtain rfl := Except.ok.inj (hentries.symm.trans hrecord)
    obtain ⟨name, hname, h⟩ := bind_eq_ok.1 h
    obtain ⟨id, hid, h⟩ := bind_eq_ok.1 h
    obtain ⟨w, hw, h⟩ := bind_eq_ok.1 h
    obtain ⟨content, hcontent, -⟩ := bind_eq_ok.1 h
    -- The default id is made of the name, so the name that was read has to be that of the record.
    obtain ⟨hisName, rfl⟩ := isName_of_readName hname
    exact valid_of_readContent hshaped hcontent (fun _ => hisName) (by simp [hkind])
      (fun _ => ⟨exists_word_iff.1 ⟨w, hw⟩, isShowable_of_readId hid⟩) (by simp [hkind])
  | member =>
    simp only [Place.load, hkind] at h
    obtain ⟨_, hrecord, h⟩ := bind_eq_ok.1 h
    obtain rfl := Except.ok.inj (hentries.symm.trans hrecord)
    obtain ⟨name, hname, h⟩ := bind_eq_ok.1 h
    obtain ⟨w, hw, h⟩ := bind_eq_ok.1 h
    obtain ⟨id, hid, h⟩ := bind_eq_ok.1 h
    obtain ⟨content, hcontent, -⟩ := bind_eq_ok.1 h
    exact valid_of_readContent hshaped hcontent (fun _ => (isName_of_readName hname).1)
      (by simp [hkind]) (by simp [hkind])
      (fun _ => ⟨exists_word_iff.1 ⟨w, hw⟩, isShowable_of_readId hid⟩)
  | parameter =>
    simp only [Place.load, hkind] at h
    obtain ⟨_, hrecord, h⟩ := bind_eq_ok.1 h
    obtain rfl := Except.ok.inj (hentries.symm.trans hrecord)
    obtain ⟨name, hname, h⟩ := bind_eq_ok.1 h
    obtain ⟨id, -, h⟩ := bind_eq_ok.1 h
    obtain ⟨content, hcontent, -⟩ := bind_eq_ok.1 h
    exact valid_of_readContent hshaped hcontent (fun _ => (isName_of_readName hname).1)
      (by simp [hkind]) (by simp [hkind]) (by simp [hkind])

end Site

end Graph

end LinkedDocs
