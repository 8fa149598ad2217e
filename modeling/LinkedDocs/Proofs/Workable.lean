import LinkedDocs.Proofs.Loading
import LinkedDocs.Proofs.Pruning

/-!
# Graphs that can be worked on

A relocation moves every member to the type it extends, whatever the ids are. The undefined number
is not taken from a list that has it, so a member with that id may be listed by types that are not
its parent. `Workable` is what stays true even then, and it is enough: a relocation of a workable
graph ends without a fault if the extended types are texts, and leaves a workable graph.
-/

namespace LinkedDocs

/-- Whether an entity has the names and kinds that are used to move and to index it. -/
structure Entity.Usable (e : Entity) : Prop where
  name : ∃ t, e.name = .text t ∧ (t = [] → e.kind ≠ .member)
  fullName : e.kind = .type → ∃ t, e.fullName = .text t
  memberKind : ∀ {kind declaring isExtension extended},
    e.detail = .member kind declaring isExtension extended → ∃ k, kind = .proper k

/-- The type that a member says it extends. -/
def Entity.extended? (e : Entity) : Option Value :=
  match e.detail with
  | .member _ _ _ extended => some extended
  | _ => none

namespace Entity

variable {e m : Entity} {v : Value}

lemma Usable.withChildren (h : e.Usable) (ids : List Scalar) : (e.withChildren ids).Usable :=
  ⟨h.name, h.fullName, h.memberKind⟩

lemma Usable.losing (h : e.Usable) (k : Scalar) : (e.losing k).Usable := by
  unfold Entity.losing
  split
  · exact h.withChildren _
  · exact h

lemma Usable.rehomed (h : m.Usable) (v : Value) : (Relocation.rehomed m v).Usable := by
  cases hd : m.detail with
  | member kind declaring isExtension extended =>
    have hkind : m.kind = .member := by rw [Entity.kind, hd]; rfl
    obtain ⟨t, ht, hne⟩ := h.name
    obtain ⟨k, rfl⟩ := h.memberKind hd
    constructor
    · refine ⟨t, by simpa [Relocation.rehomed, hd] using ht, ?_⟩
      rw [Relocation.kind_rehomed]
      exact hne
    · intro htype
      rw [Relocation.kind_rehomed, hkind] at htype
      cases htype
    · intro kind' declaring' isExtension' extended' hd'
      simp only [Relocation.rehomed, hd, Detail.member.injEq] at hd'
      exact ⟨k, hd'.1.symm⟩
  | _ => simpa [Relocation.rehomed, hd] using h

lemma extended?_rehomed : (Relocation.rehomed m v).extended? = m.extended? := by
  unfold Relocation.rehomed
  split
  case h_1 hd => simp [extended?, hd]
  case h_2 => rfl

lemma isSpelled_iff : Relocation.IsSpelled m ↔ ∃ t, m.extended? = some (.text t) := by
  unfold Relocation.IsSpelled extended?
  cases m.detail <;> simp

lemma kind_of_extended? (h : m.extended? = some v) : m.kind = .member := by
  unfold extended? at h
  unfold kind
  split at h
  case h_1 hd => rw [hd]; rfl
  · cases h

lemma Readable.usable (h : e.Readable) (hnames : e.kind = .type → ∃ t, e.fullName = .text t) :
    e.Usable := by
  obtain ⟨t, ht, hempty⟩ := h.name
  refine ⟨⟨t, ht, ?_⟩, hnames, ?_⟩
  · intro hnil hkind
    rcases hempty hnil with hk | hk <;> rw [hkind] at hk <;> cases hk
  · intro kind declaring isExtension extended hd
    have hdetail := h.detail
    rw [hd] at hdetail
    unfold Detail.Readable at hdetail
    split at hdetail <;> simp_all

end Entity

namespace Graph

variable {g b : Graph} {k j mk tk : Scalar} {e x m t : Entity} {ids : Scalar → List Scalar}

/-- A graph that can be moved about in, indexed and walked. -/
structure Workable (g : Graph) : Prop where
  linked : g.Linked (· ≠ .member)
  null : g.contains .null = false
  usable : ∀ {k e}, (k, e) ∈ g.entries → e.Usable

lemma Sound.workable (h : g.Sound) (hnames : Relocation.HasTextNames g) : g.Workable where
  linked := h.linked.linked _
  null := h.contains_null
  usable he := (h.readable he).usable (hnames _ he)

lemma Workable.key_ne_null (h : g.Workable) (he : (k, e) ∈ g.entries) : k ≠ .null := by
  rintro rfl
  exact not_mem_keys_of_free h.null (mem_keys_of_mem he)

/-! ### Additions -/

lemma usable_madeNamespace (id name : Text) (assembly : Value) :
    (madeNamespace id name assembly).Usable := by
  refine ⟨⟨name, rfl, ?_⟩, ?_, ?_⟩
  · intro _ hkind
    cases hkind
  · intro hkind
    cases hkind
  · intro _ _ _ _ hd
    cases hd

lemma usable_madeType (id name fullName : Text) (space remark : Value) :
    (madeType id name fullName space remark).Usable := by
  refine ⟨⟨name, rfl, ?_⟩, fun _ => ⟨fullName, rfl⟩, ?_⟩
  · intro _ hkind
    cases hkind
  · intro _ _ _ _ hd
    cases hd

lemma Workable.grown {created : List (Text × Scalar)} (h : g.Workable)
    (hgrown : Grown g created b) : b.Workable := by
  refine ⟨hgrown.linked h.linked, hgrown.contains_null h.null, ?_⟩
  have hattach : ∀ {b : Graph} {k : Scalar} {e : Entity}, e.Usable →
      (∀ {j x}, (j, x) ∈ b.entries → x.Usable) →
      ∀ {j x}, (j, x) ∈ (b.attach k e).entries → x.Usable := by
    intro b k e he hb j x hx
    rcases mem_attach.1 hx with ⟨y, hy, rfl⟩ | ⟨rfl, rfl⟩
    · split
      · exact (hb hy).withChildren _
      · exact hb hy
    · exact he
  induction hgrown with
  | refl => exact h.usable
  | issue n _ ih => exact ih
  | space _ _ _ _ _ ih => exact hattach (usable_madeNamespace _ _ _) ih
  | placeholder _ _ _ _ _ _ ih => exact hattach (usable_madeType _ _ _ _ _) ih

/-- Types and members are not changed by additions. -/
lemma Grown.mem_of_low {created : List (Text × Scalar)} {P : EntityKind → Prop}
    (hgrown : Grown g created b) (h : g.Linked P) (hx : (j, x) ∈ g.entries)
    (hlow : x.kind.height ≤ 2) : (j, x) ∈ b.entries := by
  induction hgrown with
  | refl => exact hx
  | issue n _ ih => exact ih
  | space hgrown _ _ hadmits _ ih =>
    refine mem_attach.2 (.inl ⟨x, ih, (if_neg ?_).symm⟩)
    exact hadmits.holder?_ne (hgrown.linked h) (Nat.le_succ 2) ih hlow
  | placeholder hgrown _ _ hadmits _ _ ih =>
    refine mem_attach.2 (.inl ⟨x, ih, (if_neg ?_).symm⟩)
    exact hadmits.holder?_ne (hgrown.linked h) (Nat.le_refl _) ih hlow

/-! ### Moves -/

/-- The graph with other child lists, and a member with a type for its parent. -/
def rearranged (g : Graph) (mk tk : Scalar) (ids : Scalar → List Scalar) : Graph :=
  g.mapEntries fun j x =>
    if j = mk then Relocation.rehomed (x.withChildren (ids j)) (.scalar tk)
    else x.withChildren (ids j)

/-- What the child lists may be once a member is moved to a type: the type has it, and nothing else
is new or lost. -/
structure Rearranges (g : Graph) (mk tk : Scalar) (ids : Scalar → List Scalar) : Prop where
  nodup : ∀ {j x}, (j, x) ∈ g.entries → (ids j).Nodup
  old : ∀ {j x i}, (j, x) ∈ g.entries → i ∈ ids j → i ∈ x.childIds ∨ i = mk ∧ j = tk
  kept : ∀ {j x i}, (j, x) ∈ g.entries → i ∈ x.childIds → i ≠ mk → i ∈ ids j
  new : mk ∈ ids tk

section

variable (hm : (mk, m) ∈ g.entries) (hmkind : m.kind = .member) (ht : (tk, t) ∈ g.entries)
  (htkind : t.kind = .type)

lemma exists_of_mem_rearranged (hx : (j, x) ∈ (g.rearranged mk tk ids).entries) :
    ∃ y, (j, y) ∈ g.entries ∧ x.id = y.id ∧ x.kind = y.kind ∧ x.childIds = ids j ∧
      x.children = .list ((ids j).map .scalar) ∧ (j ≠ mk → x = y.withChildren (ids j)) := by
  obtain ⟨y, hy, rfl⟩ := mem_mapEntries.1 hx
  refine ⟨y, hy, ?_⟩
  split
  case isTrue hj => simp [hj]
  case isFalse hj => simp

lemma mem_rearranged (hx : (j, x) ∈ g.entries) :
    ∃ y, (j, y) ∈ (g.rearranged mk tk ids).entries ∧ y.kind = x.kind ∧ y.childIds = ids j ∧
      (j ≠ mk → y.holder? = x.holder?) := by
  refine ⟨_, mem_mapEntries_of_mem hx, ?_⟩
  split
  case isTrue hj => simp [hj]
  case isFalse hj => simp [Entity.holder?]

include hm hmkind ht htkind

/-- A move keeps what is left of the links, whatever the id of the member. -/
theorem Linked.rearranged (h : g.Linked (· ≠ .member)) (hr : g.Rearranges mk tk ids)
    (hnull : tk ≠ .null) : (g.rearranged mk tk ids).Linked (· ≠ .member) := by
  constructor
  · exact h.distinct.mapEntries _
  · intro j x hx
    obtain ⟨y, hy, hid, -⟩ := exists_of_mem_rearranged hx
    rw [hid, h.id_eq hy]
  · intro j x hx
    obtain ⟨y, -, -, -, hids, hchildren, -⟩ := exists_of_mem_rearranged hx
    rw [hids, hchildren]
  · intro j x hx
    obtain ⟨y, hy, -, -, hids, -⟩ := exists_of_mem_rearranged hx
    rw [hids]
    exact hr.nodup hy
  · intro j x i hx hi
    obtain ⟨y, hy, -, hkind, hids, -⟩ := exists_of_mem_rearranged hx
    rw [hids] at hi
    rcases hr.old hy hi with hi | ⟨rfl, rfl⟩
    · obtain ⟨c, hc, hckind, hholder⟩ := h.child hy hi
      obtain ⟨c', hc', hkind', -, hholder'⟩ := mem_rearranged hc
      refine ⟨c', hc', by rw [hkind', hckind, hkind], ?_⟩
      intro hP
      rw [hkind'] at hP
      rw [hholder', hholder hP]
      rintro rfl
      rw [h.distinct.entity_unique hc hm, hmkind] at hP
      exact hP rfl
    · obtain ⟨c', hc', hkind', -⟩ := mem_rearranged hm
      refine ⟨c', hc', ?_, fun hP => absurd (hkind'.trans hmkind) hP⟩
      rw [hkind', hmkind, hkind, h.distinct.entity_unique hy ht, htkind]
      rfl
  · intro j x hx hset
    obtain ⟨y, hy, -, hkind, -, -, hother⟩ := exists_of_mem_rearranged hx
    by_cases hj : j = mk
    · subst hj
      obtain ⟨t', ht', -, hids, -⟩ := mem_rearranged ht
      refine ⟨tk, t', ht', ?_, by rw [hids]; exact hr.new⟩
      obtain ⟨y', hy', rfl⟩ := mem_mapEntries.1 hx
      rw [if_pos rfl, Relocation.holder?_rehomed _ hnull]
      rw [h.distinct.entity_unique hy' hm]
      exact hmkind
    · obtain rfl := hother hj
      obtain ⟨k, p, hp, hholder, hmem⟩ := h.parent hy hset
      obtain ⟨p', hp', -, hids, -⟩ := mem_rearranged hp
      exact ⟨k, p', hp', hholder, by rw [hids]; exact hr.kept hp hmem hj⟩

lemma Workable.rearranged (h : g.Workable) (hr : g.Rearranges mk tk ids) :
    (g.rearranged mk tk ids).Workable := by
  refine ⟨h.linked.rearranged hm hmkind ht htkind hr (h.key_ne_null ht), ?_, ?_⟩
  · rw [contains_eq_false, Graph.rearranged, keys_mapEntries]
    exact contains_eq_false.1 h.null
  · intro j x hx
    obtain ⟨y, hy, rfl⟩ := mem_mapEntries.1 hx
    split
    · exact ((h.usable hy).withChildren _).rehomed _
    · exact (h.usable hy).withChildren _

end

end Graph

namespace Relocation

open LinkedDocs.Graph

variable {config : Config} {g : Graph} {p : Pass} {k j mk tk : Scalar} {e x m t : Entity}

lemma loseMember_eq_withChildren (hx : x.children = .list (x.childIds.map .scalar)) :
    loseMember (.scalar mk) x =
      x.withChildren (x.childIds.filter fun i => !(Value.scalar i).equals (.scalar mk)) := by
  have hitems : x.children.items = .ok (x.childIds.map .scalar) := by
    rw [hx]
    rfl
  simp [loseMember, hitems, Entity.withChildren, List.filter_map, Function.comp_def]

lemma loseMember_loseMember (id : Value) (x : Entity) :
    loseMember id (loseMember id x) = loseMember id x := by
  cases hitems : x.children.items with
  | error fault => simp only [loseMember, hitems]
  | ok items =>
    have hlost : loseMember id x = { x with children := .list (items.filter (!·.equals id)) } := by
      simp only [loseMember, hitems]
    have hagain : (Value.list (items.filter (!·.equals id))).items =
        .ok (items.filter (!·.equals id)) := rfl
    rw [hlost]
    simp [loseMember, hagain]

/-- Every list has lost the id or is as it was. -/
lemma exists_loseMembers (g : Graph) (owners : List (Scalar × Entity)) (id : Value) :
    ∃ f, loseMembers g owners id = g.mapEntries f ∧ ∀ j x, f j x = x ∨ f j x = loseMember id x := by
  induction owners generalizing g with
  | nil => exact ⟨fun _ x => x, (mapEntries_eq_self fun _ _ _ => rfl).symm, fun _ _ => .inl rfl⟩
  | cons owner owners ih =>
    obtain ⟨f, hf, hcases⟩ := ih (g.modify owner.1 (loseMember id))
    rw [modify_eq_mapEntries] at hf
    refine ⟨_, hf.trans mapEntries_mapEntries, ?_⟩
    intro j x
    rcases hcases j (if j.same owner.1 then loseMember id x else x) with h | h
    · rw [h]
      split
      · exact .inr rfl
      · exact .inl rfl
    · rw [h]
      split
      · exact .inr (loseMember_loseMember id x)
      · exact .inr rfl

lemma formerOwners_ok {P : EntityKind → Prop} (h : g.Linked P) (hm : (mk, m) ∈ g.entries)
    (t : Entity) : ∃ owners, formerOwners g m t = .ok owners ∧ ∀ y ∈ owners, y ∈ g.entries := by
  have howners : g.ownersOf (.scalar mk) =
      .ok ((g.entries.filter (·.2.kind = .type)).filter fun y => hasId y.2.childIds mk) := by
    refine filterM_eq_ok ?_
    rintro ⟨i, y⟩ hy
    dsimp only
    rw [h.lists (List.mem_of_mem_filter hy), has_scalar]
  refine ⟨_, by rw [formerOwners, h.id_eq hm, howners]; rfl, ?_⟩
  intro y hy
  exact List.mem_of_mem_filter (List.mem_of_mem_filter (List.mem_of_mem_filter hy))

/-- The lists once the former owners have lost the member and the target has got it. -/
lemma exists_rearranges {P : EntityKind → Prop} (h : g.Linked P) (hm : (mk, m) ∈ g.entries)
    (ht : (tk, t) ∈ g.entries) (hne : tk ≠ mk) (owners : List (Scalar × Entity)) :
    ∃ children ids,
      withId (((loseMembers g owners (.scalar mk)).get? tk).getD t).children (.scalar mk) =
        .ok children ∧
      g.Rearranges mk tk ids ∧
      (((loseMembers g owners (.scalar mk)).modify tk fun x => { x with children }).modify mk
        (rehomed · (.scalar tk))) = g.rearranged mk tk ids := by
  obtain ⟨f, hlost, hcases⟩ := exists_loseMembers g owners (.scalar mk)
  have hmk := mem_keys_of_mem hm
  have htk := mem_keys_of_mem ht
  -- Nothing but the member itself is lost.
  have hf : ∀ {j x}, (j, x) ∈ g.entries → f j x = x.withChildren (f j x).childIds ∧
      (f j x).childIds.Sublist x.childIds ∧ ∀ i ∈ x.childIds, i ≠ mk → i ∈ (f j x).childIds := by
    intro j x hx
    rcases hcases j x with heq | heq
    · rw [heq]
      exact ⟨(Entity.withChildren_childIds (h.lists hx)).symm, List.Sublist.refl _,
        fun i hi _ => hi⟩
    · rw [heq, loseMember_eq_withChildren (h.lists hx)]
      refine ⟨by simp, by simp, ?_⟩
      intro i hi hik
      have hsame := h.distinct.same_eq_false (h.mem_keys_of_listed hx hi) hmk hik
      simp [hi, Value.equals_scalar, hsame]
  let before := (f tk t).childIds
  let after := if mk ∈ before then before else before ++ [mk]
  have hsub : ∀ i ∈ before, i ∈ g.keys := by
    intro i hi
    exact h.mem_keys_of_listed ht ((hf ht).2.1.subset hi)
  have hwith : withId (f tk t).children (.scalar mk) = .ok (.list (after.map .scalar)) := by
    rw [(hf ht).1]
    have hiff := hasId_iff h.distinct hsub hmk
    by_cases hmem : mk ∈ before
    · have hhas : hasId before mk = true := hiff.2 hmem
      simp [withId, has_scalar, before, after, hmem, hhas, bind, Except.bind, pure, Except.pure]
    · have hhas : hasId before mk = false := by
        rw [← Bool.not_eq_true, hiff]
        exact hmem
      simp [withId, has_scalar, before, after, hmem, hhas, bind, Except.bind, pure, Except.pure,
        Value.untied]
  let ids : Scalar → List Scalar := fun j =>
    if j = tk then after else ((g.get? j).map fun x => (f j x).childIds).getD []
  have hids : ∀ {j x}, (j, x) ∈ g.entries → j ≠ tk → ids j = (f j x).childIds := by
    intro j x hx hj
    simp [ids, hj, h.distinct.get?_eq hx]
  refine ⟨.list (after.map .scalar), ids, ?_, ?_, ?_⟩
  · rw [hlost, (h.distinct.mapEntries f).get?_eq (mem_mapEntries_of_mem ht), Option.getD_some,
      hwith]
  · have hafter : ids tk = after := by simp [ids]
    constructor
    · intro j x hx
      by_cases hj : j = tk
      · subst hj
        have hnodup := (hf ht).2.1.nodup (h.nodup ht)
        rw [hafter]
        by_cases hmem : mk ∈ before
        · simpa [after, hmem] using hnodup
        · simp only [after, hmem, if_false]
          exact hnodup.append (List.nodup_singleton mk) (List.disjoint_singleton.2 hmem)
      · rw [hids hx hj]
        exact (hf hx).2.1.nodup (h.nodup hx)
    · intro j x i hx hi
      by_cases hj : j = tk
      · subst hj
        rw [hafter] at hi
        have hi' : i ∈ before ∨ i = mk := by
          by_cases hmem : mk ∈ before
          · exact .inl (by simpa [after, hmem] using hi)
          · simpa [after, hmem] using hi
        rw [h.distinct.entity_unique hx ht]
        exact hi'.imp (fun hi' => (hf ht).2.1.subset hi') fun hik => ⟨hik, rfl⟩
      · rw [hids hx hj] at hi
        exact .inl ((hf hx).2.1.subset hi)
    · intro j x i hx hi hik
      have hkept := (hf hx).2.2 i hi hik
      by_cases hj : j = tk
      · subst hj
        rw [h.distinct.entity_unique hx ht] at hkept
        rw [hafter]
        by_cases hmem : mk ∈ before <;> simp [after, hmem, before, hkept]
      · rwa [hids hx hj]
    · rw [hafter]
      by_cases hmem : mk ∈ before <;> simp [after, hmem]
  · have hd := h.distinct.mapEntries f
    rw [hlost, hd.modify_eq (by simpa using htk), (hd.mapEntries _).modify_eq (by simpa using hmk),
      mapEntries_mapEntries, mapEntries_mapEntries, rearranged]
    refine mapEntries_congr ?_
    intro j x hx
    by_cases hj : j = tk
    · subst hj
      rw [if_neg hne, if_neg hne, if_pos rfl, (hf hx).1]
      simp [ids, Entity.withChildren]
    · rw [if_neg hj, hids hx hj, ← (hf hx).1]

lemma mem_appendNew {ids more : List Value} {v : Value} (h : v ∈ appendNew ids more) :
    v ∈ ids ∨ v ∈ more := by
  induction more generalizing ids with
  | nil => exact .inl h
  | cons id more ih =>
    rcases ih h with hv | hv
    · split at hv
      · exact .inl hv
      · rcases List.mem_append.1 hv with hv | hv
        · exact .inl hv
        · exact .inr (by simp [List.mem_singleton.1 hv])
    · exact .inr (by simp [hv])

/-- Placing a member ends without a fault, whatever its id. -/
theorem place_ok {P : EntityKind → Prop} (h : p.graph.Linked P) (hm : (mk, m) ∈ p.graph.entries)
    (hmkind : m.kind = .member) (ht : (tk, t) ∈ p.graph.entries) (htkind : t.kind = .type) :
    ∃ p', place p mk m tk t = (p', none) ∧ p'.types = p.types ∧
      (∀ v ∈ p'.losers, v ∈ p.losers ∨ ∃ s ∈ p.graph.keys, v = .scalar s) ∧
      (p'.graph = p.graph ∨
        ∃ ids, p.graph.Rearranges mk tk ids ∧ p'.graph = p.graph.rearranged mk tk ids) := by
  have hne : tk ≠ mk := by
    rintro rfl
    rw [h.distinct.entity_unique hm ht, htkind] at hmkind
    cases hmkind
  obtain ⟨owners, howners, hmem⟩ := formerOwners_ok h hm t
  obtain ⟨children, ids, hwith, hr, hgraph⟩ := exists_rearranges h hm ht hne owners
  have hhas : t.children.has m.id = .ok (hasId t.childIds mk) := by
    rw [h.lists ht, h.id_eq hm, has_scalar]
  by_cases hstays : owners = [] ∧ hasId t.childIds mk = true
  · refine ⟨p, ?_, rfl, fun v hv => .inl hv, .inl rfl⟩
    simp only [place, howners, hhas, hstays]
  · have hplace : place p mk m tk t = ({ p with
        graph := p.graph.rearranged mk tk ids
        losers := appendNew p.losers (owners.map (·.2.id))
        result := { p.result with relocated := p.result.relocated + 1 }
        events := p.events ++ [.moved m.id t.fullName] }, none) := by
      rw [h.id_eq hm] at hhas
      cases owners with
      | nil =>
        have hunlisted : hasId t.childIds mk = false := by simpa using hstays
        simp only [place, howners, h.id_eq hm, hhas, hunlisted, hwith, h.id_eq ht, hgraph]
      | cons owner owners =>
        simp only [place, howners, h.id_eq hm, hwith, h.id_eq ht, hgraph]
    refine ⟨_, hplace, rfl, ?_, .inr ⟨ids, hr, rfl⟩⟩
    intro v hv
    rcases mem_appendNew hv with hv | hv
    · exact .inl hv
    · obtain ⟨⟨i, y⟩, hy, rfl⟩ := List.mem_map.1 hv
      exact .inr ⟨i, mem_keys_of_mem (hmem _ hy), h.id_eq (hmem _ hy)⟩

/-! ### The pass over the members -/

/-- What holds of a relocation under way. -/
structure Underway (p : Pass) : Prop where
  workable : p.graph.Workable
  types : ∀ {y}, y ∈ p.types → ∃ t, (y.2, t) ∈ p.graph.entries ∧ t.kind = .type
  losers : ∀ {v}, v ∈ p.losers → ∃ s ∈ p.graph.keys, v = .scalar s

/-- Whether every member of a graph is in another, with the type it extends. -/
def Carried (g g' : Graph) : Prop :=
  ∀ {k m v}, (k, m) ∈ g.entries → m.extended? = some v →
    ∃ m', (k, m') ∈ g'.entries ∧ m'.extended? = some v

lemma Carried.trans {g₁ g₂ g₃ : Graph} (h : Carried g₁ g₂) (h' : Carried g₂ g₃) :
    Carried g₁ g₃ := by
  intro k m v hm hv
  obtain ⟨m', hm', hv'⟩ := h hm hv
  exact h' hm' hv'

lemma carried_rearranged (ids : Scalar → List Scalar) : Carried g (g.rearranged mk tk ids) := by
  intro k m v hm hv
  refine ⟨_, mem_mapEntries_of_mem hm, ?_⟩
  split
  · rw [Entity.extended?_rehomed]
    exact hv
  · exact hv

lemma carried_grown {created : List (Text × Scalar)} {b : Graph} (h : g.Workable)
    (hgrown : Grown g created b) : Carried g b := by
  intro k m v hm hv
  refine ⟨m, hgrown.mem_of_low h.linked hm ?_, hv⟩
  rw [Entity.kind_of_extended? hv]
  decide

lemma Underway.place (h : Underway p) (hm : (mk, m) ∈ p.graph.entries) (hmkind : m.kind = .member)
    (ht : (tk, t) ∈ p.graph.entries) (htkind : t.kind = .type) :
    ∃ p', place p mk m tk t = (p', none) ∧ Underway p' ∧ Carried p.graph p'.graph := by
  obtain ⟨p', hplace, htypes, hlosers, hgraph⟩ :=
    place_ok h.workable.linked hm hmkind ht htkind
  have hkeys : p'.graph.keys = p.graph.keys := by
    rcases hgraph with hgraph | ⟨ids, -, hgraph⟩
    · rw [hgraph]
    · rw [hgraph, rearranged, keys_mapEntries]
  have hlost : ∀ {v}, v ∈ p'.losers → ∃ s ∈ p'.graph.keys, v = .scalar s := by
    intro v hv
    rw [hkeys]
    rcases hlosers v hv with hv | hv
    · exact h.losers hv
    · exact hv
  refine ⟨p', hplace, ?_⟩
  rcases hgraph with hgraph | ⟨ids, hr, hgraph⟩
  · refine ⟨⟨hgraph ▸ h.workable, ?_, hlost⟩, ?_⟩
    · intro y hy
      rw [hgraph]
      exact h.types (htypes ▸ hy)
    · rw [hgraph]
      intro k m v hm hv
      exact ⟨m, hm, hv⟩
  · refine ⟨⟨hgraph ▸ h.workable.rearranged hm hmkind ht htkind hr, ?_, hlost⟩, ?_⟩
    · intro y hy
      obtain ⟨t', ht', hkind⟩ := h.types (htypes ▸ hy)
      obtain ⟨t'', ht'', hkind', -⟩ := mem_rearranged ht'
      exact ⟨t'', hgraph ▸ ht'', hkind'.trans hkind⟩
    · rw [hgraph]
      exact carried_rearranged ids

lemma Underway.skip (h : Underway p) (m : Entity) : Underway (skip p m) :=
  ⟨h.workable, h.types, h.losers⟩

/-- A target is found or made, unless the member is to stay. -/
lemma Underway.targetFor (h : Underway p) (config : Config) (hm : (mk, m) ∈ p.graph.entries)
    (hmkind : m.kind = .member) (typeName extended : Text) :
    ∃ p' target?, targetFor config p m typeName extended = (p', .ok target?) ∧ Underway p' ∧
      Carried p.graph p'.graph ∧ (mk, m) ∈ p'.graph.entries ∧
      ∀ tk, target? = some tk → ∃ t, (tk, t) ∈ p'.graph.entries ∧ t.kind = .type := by
  cases hlookup : p.types.lookup typeName with
  | some tk =>
    refine ⟨p, some tk, by simp only [Relocation.targetFor, hlookup], h, ?_, hm, ?_⟩
    · intro k m v hm hv
      exact ⟨m, hm, hv⟩
    · intro tk' htk
      obtain rfl := Option.some.inj htk
      exact h.types (Run.mem_of_lookup hlookup)
  | none =>
    by_cases hcreate : config.createPlaceholders = true
    · obtain ⟨g', count, events, tk, t, hmade, hgrown, ht, htkind⟩ :=
        createPlaceholder_spec config typeName extended h.workable.linked h.workable.null hm hmkind
      have hlow : ∀ {j x}, (j, x) ∈ p.graph.entries → x.kind.height ≤ 2 → (j, x) ∈ g'.entries :=
        fun hx hle => hgrown.mem_of_low h.workable.linked hx hle
      refine ⟨_, some tk,
        by simp only [Relocation.targetFor, hlookup, hcreate, if_true, hmade]; rfl,
        ⟨h.workable.grown hgrown, ?_, ?_⟩, carried_grown h.workable hgrown,
        hlow hm (by rw [hmkind]; decide), ?_⟩
      · intro y hy
        rcases List.mem_append.1 hy with hy | hy
        · obtain ⟨t', ht', hkind'⟩ := h.types hy
          exact ⟨t', hlow ht' (by rw [hkind']; decide), hkind'⟩
        · rw [List.mem_singleton.1 hy]
          exact ⟨t, ht, htkind⟩
      · intro v hv
        obtain ⟨s, hs, rfl⟩ := h.losers hv
        exact ⟨s, hgrown.keys_subset hs, rfl⟩
      · intro tk' htk
        obtain rfl := Option.some.inj htk
        exact ⟨t, ht, htkind⟩
    · have htarget : Relocation.targetFor config p m typeName extended =
          ({ p with events := p.events ++ [.leftInPlace typeName m.id] }, .ok none) := by
        simp only [Relocation.targetFor, hlookup]
        exact if_neg hcreate
      refine ⟨_, none, htarget, ⟨h.workable, h.types, h.losers⟩, ?_, hm, by simp⟩
      intro k m v hm hv
      exact ⟨m, hm, hv⟩

/-- Moving one member ends without a fault if it says what it extends, and only then. -/
lemma Underway.moveOne (h : Underway p) (config : Config) (hm : (mk, m) ∈ p.graph.entries)
    (hmkind : m.kind = .member) :
    (IsSpelled m →
      ∃ p', moveOne config p mk = (p', none) ∧ Underway p' ∧ Carried p.graph p'.graph) ∧
    (¬IsSpelled m → ∃ p' fault, moveOne config p mk = (p', some fault)) := by
  have hget := h.workable.linked.distinct.get?_eq hm
  constructor
  · intro hspelled
    obtain ⟨_, _, _, extended, hd⟩ := hspelled
    by_cases hne : Symbol.normalize extended = []
    · refine ⟨Relocation.skip p m, ?_, h.skip m, fun {k m v} hm hv => ⟨m, hm, hv⟩⟩
      simp only [Relocation.moveOne, hget, hd, Value.expectText, hne, if_true]
    · obtain ⟨p₁, target?, htarget, h₁, hcarried, hm₁, hkind⟩ :=
        h.targetFor config hm hmkind (Symbol.normalize extended) extended
      cases target? with
      | none =>
        refine ⟨Relocation.skip p₁ m, ?_, h₁.skip m, hcarried⟩
        simp only [Relocation.moveOne, hget, hd, Value.expectText, hne, if_false, htarget]
      | some tk =>
        obtain ⟨t, ht, htkind⟩ := hkind tk rfl
        obtain ⟨p₂, hplace, h₂, hcarried₂⟩ := h₁.place hm₁ hmkind ht htkind
        refine ⟨p₂, ?_, h₂, hcarried.trans hcarried₂⟩
        simp only [Relocation.moveOne, hget, hd, Value.expectText, hne, if_false, htarget,
          h₁.workable.linked.distinct.get?_eq ht, hplace]
  · intro hspelled
    obtain ⟨kind, declaring, isExtension, extended, hd⟩ := exists_detail hmkind
    cases hexpect : extended.expectText "strip".toList with
    | error fault => exact ⟨p, fault, by simp only [Relocation.moveOne, hget, hd, hexpect]⟩
    | ok t =>
      rw [expectText_eq_ok hexpect] at hd
      exact absurd ⟨_, _, _, _, hd⟩ hspelled

/-- The whole pass ends without a fault if all members say what they extend, and only then. -/
theorem Underway.moveAll (h : Underway p) (config : Config) (keys : List Scalar)
    (hkeys : ∀ k ∈ keys, ∃ m, (k, m) ∈ p.graph.entries ∧ m.kind = .member) :
    ((∀ k ∈ keys, ∀ m, (k, m) ∈ p.graph.entries → IsSpelled m) →
      ∃ p', moveAll config p keys = (p', none) ∧ Underway p') ∧
    ((¬∀ k ∈ keys, ∀ m, (k, m) ∈ p.graph.entries → IsSpelled m) →
      ∃ p' fault, moveAll config p keys = (p', some fault)) := by
  induction keys generalizing p with
  | nil => exact ⟨fun _ => ⟨p, rfl, h⟩, fun hnot => absurd (by simp) hnot⟩
  | cons k keys ih =>
    obtain ⟨m, hm, hmkind⟩ := hkeys k (by simp)
    have hone := h.moveOne config hm hmkind
    have hunique : ∀ {m'}, (k, m') ∈ p.graph.entries → m' = m :=
      fun hm' => h.workable.linked.distinct.entity_unique hm' hm
    by_cases hspelled : IsSpelled m
    · obtain ⟨p₁, hone, h₁, hcarried⟩ := hone.1 hspelled
      -- The members that are left say the same as before.
      have hsame : ∀ {k m m'}, (k, m) ∈ p.graph.entries → m.kind = .member →
          (k, m') ∈ p₁.graph.entries → (IsSpelled m' ↔ IsSpelled m) := by
        intro k m m' hm hkind hm'
        obtain ⟨_, _, _, extended, hd⟩ := exists_detail hkind
        have hv : m.extended? = some extended := by simp [Entity.extended?, hd]
        obtain ⟨m'', hm'', hv''⟩ := hcarried hm hv
        rw [h₁.workable.linked.distinct.entity_unique hm' hm'', Entity.isSpelled_iff,
          Entity.isSpelled_iff, hv'', hv]
      have hkeys₁ : ∀ k ∈ keys, ∃ m, (k, m) ∈ p₁.graph.entries ∧ m.kind = .member := by
        intro i hi
        obtain ⟨x, hx, hxkind⟩ := hkeys i (by simp [hi])
        obtain ⟨_, _, _, extended, hd⟩ := exists_detail hxkind
        obtain ⟨x', hx', hv⟩ := hcarried hx (v := extended) (by simp [Entity.extended?, hd])
        exact ⟨x', hx', Entity.kind_of_extended? hv⟩
      have hrest : (∀ i ∈ keys, ∀ x, (i, x) ∈ p₁.graph.entries → IsSpelled x) ↔
          ∀ i ∈ k :: keys, ∀ x, (i, x) ∈ p.graph.entries → IsSpelled x := by
        constructor
        · intro hall i hi x hx
          rcases List.mem_cons.1 hi with rfl | hi
          · rwa [hunique hx]
          · obtain ⟨y, hy, hykind⟩ := hkeys i (by simp [hi])
            obtain ⟨y', hy', -⟩ := hkeys₁ i hi
            rw [h.workable.linked.distinct.entity_unique hx hy]
            exact (hsame hy hykind hy').1 (hall i hi y' hy')
        · intro hall i hi x hx
          obtain ⟨y, hy, hykind⟩ := hkeys i (by simp [hi])
          exact (hsame hy hykind hx).2 (hall i (by simp [hi]) y hy)
      have hih := ih h₁ hkeys₁
      rw [hrest] at hih
      rw [Relocation.moveAll, hone]
      exact hih
    · obtain ⟨p₁, fault, hone⟩ := hone.2 hspelled
      refine ⟨fun hall => absurd (hall k (by simp) m hm) hspelled, fun _ => ⟨p₁, fault, ?_⟩⟩
      rw [Relocation.moveAll, hone]

/-! ### Removing what has been emptied -/

lemma workable_detach (h : g.Workable) (he : (k, e) ∈ g.entries) (hleaf : e.childIds = []) :
    (g.detach k).Workable := by
  refine ⟨h.linked.detach he hleaf, ?_, ?_⟩
  · rw [contains_eq_false, keys_detach]
    exact fun i hi => contains_eq_false.1 h.null i (List.mem_of_mem_filter hi)
  · intro j x hx
    obtain ⟨-, y, hy, rfl⟩ := mem_detach.1 hx
    exact (h.usable hy).losing k

/-- An id of a type that is there is to be spelled as its key. -/
lemma removeEmptied_ok (ids : List Value) (h : p.graph.Workable)
    (hids : ∀ v ∈ ids, ∃ s, v = .scalar s ∧ ∀ k ∈ p.graph.keys, k.same s = true → k = s) :
    ∃ p', removeEmptied p ids = (p', none) ∧ p'.graph.Workable := by
  induction ids generalizing p with
  | nil => exact ⟨p, rfl, h⟩
  | cons v ids ih =>
    obtain ⟨s, rfl, hexact⟩ := hids v (by simp)
    have hrest : ∀ v ∈ ids, ∃ s, v = .scalar s ∧ ∀ k ∈ p.graph.keys, k.same s = true → k = s :=
      fun v hv => hids v (by simp [hv])
    have hfind : p.graph.find (.scalar s) = .ok (p.graph.get? s) := rfl
    cases hget : p.graph.get? s with
    | none =>
      obtain ⟨p', hp', hworkable⟩ := ih h hrest
      exact ⟨p', by simp only [removeEmptied, hfind, hget, hp'], hworkable⟩
    | some e =>
      obtain ⟨k, he, hs⟩ := exists_of_get? hget
      obtain rfl := hexact k (mem_keys_of_mem he) hs
      by_cases hgone : (decide (e.kind = .type) && !e.children.holds) = true
      · have hkind : e.kind = .type := by simp_all
        have hleaf : e.childIds = [] := by
          have hempty : e.children.holds = false := by simp_all
          rw [h.linked.lists he] at hempty
          simpa [Value.holds] using hempty
        have hremove := remove_leaf h.linked h.null he (by simp [hkind]) hleaf
        obtain ⟨p', hp', hworkable⟩ := ih (p := { p with
          graph := p.graph.detach k
          result := { p.result with
            containersRemoved := p.result.containersRemoved ++ [.scalar k] } })
          (workable_detach h he hleaf) (by
            intro v hv
            obtain ⟨s, hs, hexact⟩ := hrest v hv
            refine ⟨s, hs, fun i hi => hexact i ?_⟩
            rw [keys_detach] at hi
            exact List.mem_of_mem_filter hi)
        refine ⟨p', ?_, hworkable⟩
        simp only [removeEmptied, hfind, hget, hgone, if_true, hremove, hp']
      · obtain ⟨p', hp', hworkable⟩ := ih h hrest
        refine ⟨p', ?_, hworkable⟩
        simp only [removeEmptied, hfind, hget, if_neg hgone, hp']

/-- A relocation of a workable graph ends without a fault if the extended types are texts, and only
then. -/
theorem relocate_ok (h : g.Workable) (config : Config) :
    (HasTextTargets g →
      ∃ g' r events, g.relocate config = ⟨g', .ok (r, events)⟩ ∧ g'.Workable) ∧
    (¬HasTextTargets g → ∃ g' fault, g.relocate config = ⟨g', .error fault⟩) := by
  have htypes := namedTypes_eq fun y hy => (h.usable (k := y.1) (e := y.2) hy).fullName
  have hspelled : HasTextTargets g ↔
      ∀ k ∈ candidates g, ∀ m, (k, m) ∈ g.entries → IsSpelled m := by
    constructor
    · intro hall k hk m hm
      obtain ⟨m', hm', hcandidate⟩ := mem_candidates.1 hk
      rw [h.linked.distinct.entity_unique hm hm']
      exact hall _ hm' hcandidate
    · intro hall y hy hcandidate
      exact hall y.1 (mem_candidates.2 ⟨y.2, hy, hcandidate⟩) y.2 hy
  cases hcandidates : candidates g with
  | nil =>
    refine ⟨fun _ => ⟨g, {}, [], by simp only [Graph.relocate, hcandidates], h⟩, ?_⟩
    intro hnot
    exact absurd (hspelled.2 (by simp [hcandidates])) hnot
  | cons k keys =>
    have hstart : Underway { graph := g, types := typeTable g } :=
      ⟨h, fun hy => namedTypes_table htypes hy, by simp⟩
    obtain ⟨hpass, hfault⟩ := hstart.moveAll config (candidates g) (by
      intro k hk
      obtain ⟨m, hm, hcandidate⟩ := mem_candidates.1 hk
      exact ⟨m, hm, kind_of_isCandidate hcandidate⟩)
    rw [← hspelled, hcandidates] at hpass hfault
    constructor
    · intro htargets
      obtain ⟨p, hp, hunderway⟩ := hpass htargets
      obtain ⟨p', hp', hworkable⟩ := removeEmptied_ok p.losers hunderway.workable (by
        intro v hv
        obtain ⟨s, hs, rfl⟩ := hunderway.losers hv
        exact ⟨s, rfl, fun i hi => hunderway.workable.linked.distinct.eq_of_same hi hs⟩)
      refine ⟨p'.graph, p'.result, p'.events ++ [.completed], ?_, hworkable⟩
      simp only [Graph.relocate, hcandidates, htypes, hp, hp']
    · intro htargets
      obtain ⟨p, fault, hp⟩ := hfault htargets
      refine ⟨p.graph, fault, ?_⟩
      simp only [Graph.relocate, hcandidates, htypes, hp]

end Relocation

end LinkedDocs
