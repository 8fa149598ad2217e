import LinkedDocs.Proofs.Records

/-!
# Records of entities

The record of an entity holds the records of its children. Writing an entity gives this record, and
reading the record adds the entity, as it is restored, and then what it holds. Some values that do
not count as given are not restored, which is what `Entity.restored` says.
-/

namespace LinkedDocs

namespace Graph

variable {key : Text} {v : Value} {k : Scalar} {e : Entity}

/-! ### Writing an entity -/

/-- The word in a field, where there is one. -/
def wordOf {α : Type} (text : α → Text) : Loose α → Value
  | .proper a => .text (text a)
  | .stray _ => .null

/-- A flag, which is written only if it is set. -/
def flag (v : Value) : Value :=
  if v.holds then .bool true else .null

/-- The declaring type of a member as it is written: only if it is not the parent. -/
def foreignType (parent declaring : Value) : Value :=
  if declaring.holds && !declaring.equals parent then declaring else .null

/-- The fields that an entity has besides. Its children have been written as `parts`. -/
def ownFields (e : Entity) (parts : List Value) : List (Text × Value) :=
  match e.detail with
  | .assembly => [("namespaces".toList, .list parts)]
  | .namespace => [("types".toList, .list parts)]
  | .type fullName kind isExternal =>
    [("full_name".toList, fullName), ("kind".toList, wordOf TypeKind.text kind),
      ("external".toList, flag isExternal), ("members".toList, .list parts)]
  | .member kind declaring isExtension extended =>
    [("kind".toList, wordOf MemberKind.text kind), ("extension".toList, flag isExtension),
      ("extends".toList, given extended),
      ("declaring_type".toList, foreignType e.parent declaring),
      ("parameters".toList, listIfAny parts)]
  | .parameter typeName => [("type".toList, given typeName)]

/-- The record of an entity whose children have been written as `parts`. -/
def record (e : Entity) (parts : List Value) : Value :=
  .map (compact (contentFields e ++ ownFields e parts))

lemma keys_nodup (e : Entity) (parts : List Value) :
    (contentKeys ++ (ownFields e parts).map (·.1)).Nodup := by
  unfold ownFields
  cases e.detail <;> simp only [List.map_cons, List.map_nil] <;> decide

/-- How an entity of any kind is written. -/
def dumpEntity (g : Graph) (e : Entity) : Except Fault Value :=
  match e.kind with
  | .assembly => g.dumpAssembly e
  | .namespace => g.dumpNamespace e
  | .type => g.dumpType e
  | .member => g.dumpMember e
  | .parameter => dumpParameter e

section

variable {g : Graph} {children : List Entity} {parts : List Value}

lemma fieldUnlessNull_flag {b : Value} : fieldUnlessNull key (flag b) =
    if b.holds then [field key (.bool true)] else [] := by
  unfold flag
  split <;> rfl

lemma fieldUnlessNull_foreignType {parent declaring : Value} :
    fieldUnlessNull key (foreignType parent declaring) =
      if declaring.holds && !declaring.equals parent then [field key declaring] else [] := by
  unfold foreignType
  split
  case isTrue h =>
    rw [Bool.and_eq_true] at h
    rw [fieldUnlessNull_of_not_null (isNull_of_holds h.1)]
  case isFalse => rfl

lemma fieldUnlessNull_listIfAny : fieldUnlessNull key (listIfAny parts) =
    if parts.isEmpty then [] else [field key (.list parts)] := by
  cases parts <;> rfl

/-- Writing an entity gives its record, once its children have been written. -/
theorem dumpEntity_eq (h : e.Readable) (hid : e.id = .scalar k) (hk : k.holds = true)
    (hchildren : g.childrenOf e = .ok children)
    (hkinds : ∀ c ∈ children, c.kind.parentKind? = some e.kind)
    (hparts : children.mapM g.dumpEntity = .ok parts) :
    g.dumpEntity e = .ok (record e parts) := by
  have hcontent := dumpContent_eq h hid hk
  have hdetail := h.detail
  have hlist : ∀ key : Text, fieldUnlessNull key (.list parts) = [field key (.list parts)] :=
    fun _ => rfl
  have htext : ∀ (key t : Text), fieldUnlessNull key (.text t) = [field key (.text t)] :=
    fun _ _ => rfl
  -- The children are all of one kind, so that one function writes them.
  have hpart : ∀ {f : Entity → Except Fault Value},
      (∀ c, c.kind.parentKind? = some e.kind → g.dumpEntity c = f c) →
        children.mapM f = .ok parts := by
    intro f hf
    rw [← hparts]
    exact mapM_congr fun c hc => (hf c (hkinds c hc)).symm
  unfold record
  rw [compact_append]
  cases hd : e.detail with
  | assembly =>
    have hkind : e.kind = .assembly := by rw [Entity.kind, hd]; rfl
    rw [hkind] at hpart
    have hspaces := hpart (f := g.dumpNamespace) (by
      intro c hc
      cases hck : c.kind <;> simp_all [EntityKind.parentKind?, dumpEntity])
    simp only [dumpEntity, hkind, dumpAssembly, hcontent, hchildren, hspaces, bind, Except.bind,
      pure, Except.pure, ownFields, hd, compact, List.flatMap_cons, List.flatMap_nil,
      List.append_nil, hlist]
  | «namespace» =>
    have hkind : e.kind = .namespace := by rw [Entity.kind, hd]; rfl
    rw [hkind] at hpart
    have htypes := hpart (f := g.dumpType) (by
      intro c hc
      cases hck : c.kind <;> simp_all [EntityKind.parentKind?, dumpEntity])
    simp only [dumpEntity, hkind, dumpNamespace, hcontent, hchildren, htypes, bind, Except.bind,
      pure, Except.pure, ownFields, hd, compact, List.flatMap_cons, List.flatMap_nil,
      List.append_nil, hlist]
  | type fullName kind isExternal =>
    have hkind : e.kind = .type := by rw [Entity.kind, hd]; rfl
    rw [hkind] at hpart
    have hmembers := hpart (f := g.dumpMember) (by
      intro c hc
      cases hck : c.kind <;> simp_all [EntityKind.parentKind?, dumpEntity])
    rw [hd] at hdetail
    obtain ⟨word, rfl⟩ : ∃ word, kind = .proper word := by
      cases kind with
      | proper word => exact ⟨word, rfl⟩
      | stray v => exact hdetail.elim
    have hfullName : fullName.holds = true := by
      unfold Detail.Readable at hdetail
      split at hdetail <;> simp_all
    simp only [dumpEntity, hkind, dumpType, hcontent, hchildren, hmembers, bind, Except.bind,
      pure, Except.pure, ownFields, hd, compact, List.flatMap_cons, List.flatMap_nil,
      List.append_nil, hlist, dumpWord, wordOf, htext, fieldUnlessNull_flag,
      fieldUnlessNull_of_not_null (isNull_of_holds hfullName), List.append_assoc]
    rfl
  | member kind declaring isExtension extended =>
    have hkind : e.kind = .member := by rw [Entity.kind, hd]; rfl
    rw [hkind] at hpart
    have hparameters := hpart (f := dumpParameter) (by
      intro c hc
      cases hck : c.kind <;> simp_all [EntityKind.parentKind?, dumpEntity])
    rw [hd] at hdetail
    obtain ⟨word, rfl⟩ : ∃ word, kind = .proper word := by
      cases kind with
      | proper word => exact ⟨word, rfl⟩
      | stray v => exact hdetail.elim
    simp only [dumpEntity, hkind, dumpMember, hcontent, hchildren, hparameters, bind, Except.bind,
      pure, Except.pure, ownFields, hd, compact, List.flatMap_cons, List.flatMap_nil,
      List.append_nil, dumpWord, wordOf, htext, fieldUnlessNull_flag, fieldUnlessNull_foreignType,
      fieldUnlessNull_listIfAny, fieldIfGiven_eq, List.append_assoc]
  | parameter typeName =>
    have hkind : e.kind = .parameter := by rw [Entity.kind, hd]; rfl
    simp only [dumpEntity, hkind, dumpParameter, hcontent, bind, Except.bind, pure, Except.pure,
      ownFields, hd, compact, List.flatMap_cons, List.flatMap_nil, List.append_nil,
      fieldIfGiven_eq]

end

/-! ### Reading an entity -/

end Graph

/-- The entity as it is read from its record: a member whose declaring type is not given or equals
its parent was declared by its parent. -/
def Entity.restored (e : Entity) : Entity :=
  { e with
    detail := match e.detail with
      | .member kind declaring isExtension extended =>
        .member kind
          (if declaring.holds && !declaring.equals e.parent then declaring else e.parent)
          isExtension (Graph.given extended)
      | .parameter typeName => .parameter (Graph.given typeName)
      | other => other }

/-- The entity as it is when it has just been read. -/
def Entity.leaf (e : Entity) : Entity :=
  e.restored.withChildren []

namespace Graph

variable {k : Scalar} {e : Entity} {parts : List Value} {acc : Graph}

/-- How the children of an entity are read. Without an entity, assemblies are read. -/
def loader : Option Entity → Graph → Value → Except Fault Graph
  | none => loadAssembly
  | some p =>
    match p.detail with
    | .assembly => loadNamespace p.id
    | .namespace => loadType p.id (match p.name with
      | .scalar (.text name) => name
      | _ => [])
    | .type fullName _ _ => loadMember p.id fullName
    | .member .. => loadParameter p.id
    | .parameter _ => fun g _ => .ok g

lemma loader_assembly {p : Entity} (h : p.kind = .assembly) :
    loader (some p) = loadNamespace p.id := by
  unfold loader
  cases hd : p.detail <;> simp_all [Entity.kind, Detail.kind]

lemma loader_namespace {p : Entity} (h : p.kind = .namespace) :
    ∃ name, loader (some p) = loadType p.id name := by
  unfold loader
  cases hd : p.detail <;> simp_all [Entity.kind, Detail.kind]

lemma loader_type {p : Entity} (h : p.kind = .type) :
    ∃ fullName, loader (some p) = loadMember p.id fullName := by
  unfold loader
  cases hd : p.detail <;> simp_all [Entity.kind, Detail.kind]

lemma loader_member {p : Entity} (h : p.kind = .member) :
    loader (some p) = loadParameter p.id := by
  unfold loader
  cases hd : p.detail <;> simp_all [Entity.kind, Detail.kind]

lemma holds_flag {v : Value} {b : Bool} (h : v = .bool b) :
    Value.bool (flag v).holds = v := by
  cases b <;> rw [h] <;> rfl

lemma leaf_eq (h : e.Readable) (hid : e.id = .scalar k) {t : Text} (hname : e.name = .text t) :
    e.leaf = {
      id := .scalar k
      name := .text t
      detail := e.restored.detail
      parent := e.parent
      notes := e.notes
      references := e.references
      exceptions := e.exceptions } := by
  rw [← hid, ← hname]
  simp only [Entity.leaf, Entity.restored, Entity.withChildren, h.further, List.map_nil]

/-- A field that an entity has besides is found in its record. -/
lemma get_own (i : Nat) {key : Text} {v : Value} (h : (ownFields e parts)[i]? = some (key, v)) :
    Value.get (compact (contentFields e ++ ownFields e parts)) key = v :=
  get_rest (keys_nodup e parts) (List.mem_of_getElem? h)

section

variable (h : e.Readable) (hid : e.id = .scalar k) (hk : k.holds = true) {t : Text}
  (hname : e.name = .text t)

include h hid hk hname

lemma loadParameter_record {typeName : Value} (ht : t ≠ [])
    (hdetail : e.detail = .parameter typeName) :
    loadParameter e.parent acc (record e parts) = acc.with? e.leaf := by
  have hkeys := keys_nodup e parts
  have hown : ownFields e parts = [("type".toList, given typeName)] := by
    simp only [ownFields, hdetail]
  have htype := get_own 0 (by rw [hown]; rfl)
  simp only [loadParameter, record, Value.entries, Value.untied, bind, Except.bind,
    readName_compact hkeys hname ht, readId_compact hkeys hid hk, readContent_compact hkeys h,
    leaf_eq h hid hname, Entity.restored, hdetail]
  rw [htype]

lemma loadMember_record {kind : MemberKind} {declaring extended fullName : Value} {b : Bool}
    (ht : t ≠ []) (hdetail : e.detail = .member (.proper kind) declaring (.bool b) extended) :
    loadMember e.parent fullName acc (record e parts) =
      (acc.with? e.leaf >>= fun g => parts.foldlM (loadParameter e.id) g) := by
  have hkeys := keys_nodup e parts
  have hown : ownFields e parts =
      [("kind".toList, .text kind.text), ("extension".toList, flag (.bool b)),
        ("extends".toList, given extended),
        ("declaring_type".toList, foreignType e.parent declaring),
        ("parameters".toList, listIfAny parts)] := by
    simp only [ownFields, hdetail, wordOf]
  have hkind := get_own 0 (by rw [hown]; rfl)
  have hextension := get_own 1 (by rw [hown]; rfl)
  have hextends := get_own 2 (by rw [hown]; rfl)
  have hdeclaring := get_own 3 (by rw [hown]; rfl)
  have hparts := itemsUnder_of_listIfAny (get_own 4 (by rw [hown]; rfl))
  have hword : Value.word "MemberKind".toList MemberKind.all MemberKind.text
      (.text kind.text) = .ok (some kind) := word_text (by cases kind <;> decide)
  have hforeign : (if (foreignType e.parent declaring).isNull then e.parent
      else foreignType e.parent declaring) =
      if declaring.holds && !declaring.equals e.parent then declaring else e.parent := by
    unfold foreignType
    split
    case isTrue hgiven =>
      rw [Bool.and_eq_true] at hgiven
      simp [isNull_of_holds hgiven.1]
    case isFalse => rfl
  simp only [loadMember, record, Value.entries, Value.untied, bind, Except.bind,
    readName_compact hkeys hname ht, readId_compact hkeys hid hk, readContent_compact hkeys h,
    leaf_eq h hid hname, Entity.restored, hdetail]
  rw [hkind, hextension, hextends, hdeclaring, hparts, hword, holds_flag rfl]
  simp only [Option.getD_some]
  rw [Entity.completed_member rfl]
  simp only [hforeign, hid]

lemma loadType_record {kind : TypeKind} {fullName : Value} {spaceName : Text} {b : Bool}
    (ht : t ≠ []) (hdetail : e.detail = .type fullName (.proper kind) (.bool b)) :
    loadType e.parent spaceName acc (record e parts) =
      (acc.with? e.leaf >>= fun g => parts.foldlM (loadMember e.id fullName) g) := by
  have hkeys := keys_nodup e parts
  have hown : ownFields e parts =
      [("full_name".toList, fullName), ("kind".toList, .text kind.text),
        ("external".toList, flag (.bool b)), ("members".toList, .list parts)] := by
    simp only [ownFields, hdetail, wordOf]
  have hfullName := get_own 0 (by rw [hown]; rfl)
  have hkind := get_own 1 (by rw [hown]; rfl)
  have hexternal := get_own 2 (by rw [hown]; rfl)
  have hparts := itemsUnder_of_list (get_own 3 (by rw [hown]; rfl))
  have hword : Value.word "TypeKind".toList TypeKind.all TypeKind.text
      (.text kind.text) = .ok (some kind) := word_text (by cases kind <;> decide)
  have hgiven : fullName.holds = true := by
    have hreadable := h.detail
    rwa [hdetail] at hreadable
  simp only [loadType, givenOr, record, Value.entries, Value.untied, bind, Except.bind,
    readName_compact hkeys hname ht, readId_compact hkeys hid hk, readContent_compact hkeys h,
    leaf_eq h hid hname, Entity.restored, hdetail]
  rw [hfullName, hkind, hexternal, hparts, hword, holds_flag rfl]
  simp only [hgiven, if_true, hid]
  rfl

lemma loadNamespace_record (hdetail : e.detail = .namespace) :
    loadNamespace e.parent acc (record e parts) =
      (acc.with? e.leaf >>= fun g => parts.foldlM (loadType e.id t) g) := by
  have hkeys := keys_nodup e parts
  have hown : ownFields e parts = [("types".toList, .list parts)] := by
    simp only [ownFields, hdetail]
  have hparts := itemsUnder_of_list (get_own 0 (by rw [hown]; rfl))
  have hget := get_content (e := e) hkeys (List.mem_of_getElem? (i := 1) rfl)
  have hshown : (givenOr (compact (contentFields e ++ ownFields e parts)) "name".toList
      (.text [])).shown = .ok t := by
    rw [givenOr, hget, hname]
    cases t <;> rfl
  simp only [loadNamespace, record, Value.entries, Value.untied, bind, Except.bind,
    readId_compact hkeys hid hk, readContent_compact hkeys h, leaf_eq h hid hname,
    Entity.restored, hdetail]
  rw [hshown, hparts]
  simp only [hid]

lemma loadAssembly_record (ht : t ≠ []) (hdetail : e.detail = .assembly)
    (hparent : e.parent = .null) :
    loadAssembly acc (record e parts) =
      (acc.with? e.leaf >>= fun g => parts.foldlM (loadNamespace e.id) g) := by
  have hkeys := keys_nodup e parts
  have hown : ownFields e parts = [("namespaces".toList, .list parts)] := by
    simp only [ownFields, hdetail]
  have hparts := itemsUnder_of_list (get_own 0 (by rw [hown]; rfl))
  simp only [loadAssembly, record, Value.entries, Value.untied, bind, Except.bind,
    readName_compact hkeys hname ht, readId_compact hkeys hid hk, readContent_compact hkeys h,
    leaf_eq h hid hname, Entity.restored, hdetail]
  rw [hparts]
  simp only [hid, hparent]

end

/-- The entity can be read where the children of the other are, or where assemblies are. -/
structure Under (p? : Option Entity) (e : Entity) : Prop where
  kind : e.kind.parentKind? = p?.map Entity.kind
  parent : e.parent = (p?.map Entity.id).getD .null

/-- Reading the record of an entity adds the entity and then what it holds. -/
theorem loader_record {p? : Option Entity} (h : e.Readable) (hid : e.id = .scalar k)
    (hk : k.holds = true) (hnamed : e.kind ≠ .namespace → e.name ≠ .text [])
    (hunder : Under p? e) (hparts : e.kind = .parameter → parts = []) :
    loader p? acc (record e parts) =
      (acc.with? e.leaf >>= fun g => parts.foldlM (loader (some e.leaf)) g) := by
  obtain ⟨t, hname, -⟩ := h.name
  have ht : e.kind ≠ .namespace → t ≠ [] := by
    rintro hkind rfl
    exact hnamed hkind hname
  have hreadable := h.detail
  have hid_eq : ∀ {p}, p? = some p → p.id = e.parent := by
    rintro p rfl
    exact hunder.parent.symm
  -- The kind of the parent is known from the kind of the entity.
  have hkind : e.detail.kind.parentKind? = p?.map Entity.kind := hunder.kind
  cases hd : e.detail with
  | assembly =>
    rw [hd] at hkind
    obtain rfl : p? = none := Option.map_eq_none_iff.1 hkind.symm
    rw [loader, loadAssembly_record h hid hk hname (ht (by simp [Entity.kind, hd, Detail.kind])) hd
      hunder.parent]
    simp [loader, Entity.leaf, Entity.restored, hd]
  | «namespace» =>
    rw [hd] at hkind
    obtain ⟨p, hp, hpkind⟩ := Option.map_eq_some_iff.1 hkind.symm
    rw [hp, loader_assembly hpkind, hid_eq hp, loadNamespace_record h hid hk hname hd]
    simp [loader, Entity.leaf, Entity.restored, Entity.withChildren, hd, hname]
  | type fullName kind isExternal =>
    rw [hd] at hkind hreadable
    obtain ⟨p, hp, hpkind⟩ := Option.map_eq_some_iff.1 hkind.symm
    obtain ⟨space, hspace⟩ := loader_namespace hpkind
    obtain ⟨word, b, rfl, rfl⟩ : ∃ word b, kind = .proper word ∧ isExternal = .bool b := by
      unfold Detail.Readable at hreadable
      split at hreadable <;> simp_all
    rw [hp, hspace, hid_eq hp, loadType_record h hid hk hname
      (ht (by simp [Entity.kind, hd, Detail.kind])) hd]
    simp [loader, Entity.leaf, Entity.restored, hd]
  | member kind declaring isExtension extended =>
    rw [hd] at hkind hreadable
    obtain ⟨p, hp, hpkind⟩ := Option.map_eq_some_iff.1 hkind.symm
    obtain ⟨fullName, htype⟩ := loader_type hpkind
    obtain ⟨word, b, rfl, rfl⟩ : ∃ word b, kind = .proper word ∧ isExtension = .bool b := by
      unfold Detail.Readable at hreadable
      split at hreadable <;> simp_all
    rw [hp, htype, hid_eq hp, loadMember_record h hid hk hname
      (ht (by simp [Entity.kind, hd, Detail.kind])) hd]
    simp [loader, Entity.leaf, Entity.restored, hd]
  | parameter typeName =>
    rw [hd] at hkind
    obtain ⟨p, hp, hpkind⟩ := Option.map_eq_some_iff.1 hkind.symm
    rw [hp, loader_member hpkind, hid_eq hp, loadParameter_record h hid hk hname
      (ht (by simp [Entity.kind, hd, Detail.kind])) hd,
      hparts (by simp [Entity.kind, hd, Detail.kind])]
    cases acc.with? e.leaf <;> rfl

end Graph

end LinkedDocs
