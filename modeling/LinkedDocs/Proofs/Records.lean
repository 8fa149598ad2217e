import LinkedDocs.Graph.Dump
import LinkedDocs.Proofs.Loading

/-!
# Records that are written and read

A record is written field by field, and a field without a value is left out. Reading looks for each
field by its key. This file states what is found in a written record, and that the content of an
entity, its references and its exceptions are read as they were written.
-/

namespace LinkedDocs.Graph

variable {fields rest : List (Text × Value)} {key : Text} {v : Value} {k : Scalar} {e : Entity}

/-! ### Fields -/

/-- The record of the fields that are not null. -/
def compact (fields : List (Text × Value)) : List (Scalar × Value) :=
  fields.flatMap fun f => fieldUnlessNull f.1 f.2

lemma compact_append : compact (fields ++ rest) = compact fields ++ compact rest :=
  List.flatMap_append

lemma fieldUnlessNull_of_not_null (h : v.isNull = false) :
    fieldUnlessNull key v = [field key v] := by
  simp [fieldUnlessNull, h]

lemma isNull_of_holds (h : v.holds = true) : v.isNull = false := by
  cases v with
  | scalar s => cases s <;> simp_all [Value.isNull, Value.holds, Scalar.holds]
  | list | map | tuple | set | knot => rfl

/-- A value that counts as given, or null. -/
def given (v : Value) : Value :=
  if v.holds then v else .null

lemma fieldIfGiven_eq : fieldIfGiven key v = fieldUnlessNull key (given v) := by
  by_cases h : v.holds = true
  · simp [fieldIfGiven, fieldUnlessNull, given, h, isNull_of_holds h]
  · simp [fieldIfGiven, fieldUnlessNull, given, h, Value.isNull]

lemma lookup?_compact_cons {other : Text} :
    Value.lookup? (compact ((other, v) :: fields)) (.text key) =
      if other = key ∧ v.isNull = false then some v
      else Value.lookup? (compact fields) (.text key) := by
  have hcons : compact ((other, v) :: fields) = fieldUnlessNull other v ++ compact fields := rfl
  rw [hcons]
  cases hnull : v.isNull with
  | true => simp [fieldUnlessNull, hnull]
  | false =>
    rw [fieldUnlessNull_of_not_null hnull]
    by_cases heq : other = key
    · simp [Value.lookup?, field, heq, Scalar.same_self]
    · have hne : (Scalar.text other).same (.text key) = false := by
        rw [Bool.eq_false_iff]
        intro hsame
        exact heq (Scalar.text.inj (Scalar.same_text.1 hsame))
      simp [Value.lookup?, field, heq, hne]

lemma lookup?_compact_of_not_mem (h : key ∉ fields.map (·.1)) :
    Value.lookup? (compact fields) (.text key) = none := by
  induction fields with
  | nil => rfl
  | cons f fields ih =>
    rw [List.map_cons, List.mem_cons, not_or] at h
    rw [lookup?_compact_cons, if_neg, ih h.2]
    rintro ⟨rfl, -⟩
    exact h.1 rfl

/-- A field is found under its key unless it is null. -/
lemma lookup?_compact (hkeys : (fields.map (·.1)).Nodup) (h : (key, v) ∈ fields) :
    Value.lookup? (compact fields) (.text key) = if v.isNull then none else some v := by
  induction fields with
  | nil => cases h
  | cons f fields ih =>
    obtain ⟨hnew, hkeys⟩ := List.nodup_cons.1 hkeys
    rw [lookup?_compact_cons]
    rcases List.mem_cons.1 h with rfl | h
    · rw [lookup?_compact_of_not_mem hnew]
      cases v.isNull <;> simp
    · have hne : f.1 ≠ key := by
        intro heq
        exact hnew (List.mem_map.2 ⟨_, h, heq.symm⟩)
      rw [if_neg (fun hf => hne hf.1), ih hkeys h]

lemma get_compact (hkeys : (fields.map (·.1)).Nodup) (h : (key, v) ∈ fields) :
    Value.get (compact fields) key = v := by
  rw [Value.get, lookup?_compact hkeys h]
  cases hnull : v.isNull with
  | false => rfl
  | true =>
    have hv : v = .null := by
      cases v with
      | scalar s => cases s <;> simp_all [Value.isNull]
      | list | map | tuple | set | knot => cases hnull
    rw [hv]
    rfl

/-! ### Values -/

@[simp] lemma shown_text (t : Text) : (Value.text t).shown = .ok t := rfl

lemma itemsUnder_of_list {record : List (Scalar × Value)} {items : List Value}
    (h : Value.get record key = .list items) : Value.itemsUnder record key = .ok items := by
  cases items <;> simp [Value.itemsUnder, h, Value.holds, Value.items, Value.untied]

/-- A list that is written only if it has items. -/
def listIfAny (items : List Value) : Value :=
  if items.isEmpty then .null else .list items

lemma itemsUnder_of_listIfAny {record : List (Scalar × Value)} {items : List Value}
    (h : Value.get record key = listIfAny items) : Value.itemsUnder record key = .ok items := by
  cases items with
  | nil => simp [Value.itemsUnder, h, listIfAny, Value.holds, Scalar.holds]
  | cons a items => exact itemsUnder_of_list h

lemma word_text {α : Type} {title : Text} {all : List α} {text : α → Text} {a : α}
    (h : (all.find? fun b => text b == Text.lower (text a)) = some a) :
    Value.word title all text (.text (text a)) = .ok (some a) := by
  simp [Value.word, Value.isNull, h, bind, Except.bind, pure, Except.pure]

/-- The word of an enumeration, if there is one, is read as it was written. -/
lemma word_ofText? {α : Type} {title : Text} {all : List α} {text : α → Text}
    (h : ∀ a, (all.find? fun b => text b == Text.lower (text a)) = some a) (a? : Option α) :
    Value.word title all text (.ofText? (a?.map text)) = .ok a? := by
  cases a? with
  | none => rfl
  | some a => exact word_text (h a)

/-! ### References and exceptions -/

/-- The fields of a reference. -/
def referenceFields (r : Reference) : List (Text × Value) :=
  [("raw".toList, r.raw),
    ("kind".toList, .ofText? (r.kind.map ReferenceKind.text)),
    ("state".toList, .ofText? (r.state.map ResolutionState.text)),
    ("target".toList, r.target),
    ("display_name".toList, r.displayName),
    ("target_id".toList, r.targetId),
    ("symbol_kind".toList, if r.symbolKind = .unknown then .null else .text r.symbolKind.text)]

lemma referenceFields_nodup (r : Reference) : ((referenceFields r).map (·.1)).Nodup := by
  show ["raw".toList, "kind".toList, "state".toList, "target".toList, "display_name".toList,
    "target_id".toList, "symbol_kind".toList].Nodup
  decide

lemma dumpReference_eq {r : Reference} (h : r.raw.isNull = false) :
    dumpReference r = .map (compact (referenceFields r)) := by
  have hword : ∀ {α : Type} (key : Text) (text : α → Text) (a? : Option α),
      a?.toList.map (fun a => field key (.text (text a))) =
        fieldUnlessNull key (.ofText? (a?.map text)) := by
    intro α key text a?
    cases a? <;> rfl
  have hsymbol : (if r.symbolKind = .unknown then []
      else [field "symbol_kind".toList (.text r.symbolKind.text)]) =
      fieldUnlessNull "symbol_kind".toList
        (if r.symbolKind = .unknown then .null else .text r.symbolKind.text) := by
    split <;> rfl
  rw [dumpReference, hword, hword, hsymbol, ← fieldUnlessNull_of_not_null h]
  simp only [compact, referenceFields, List.flatMap_cons, List.flatMap_nil, List.append_nil,
    List.append_assoc]

lemma readReference_dumpReference {r : Reference} (h : ∃ t, r.raw = .text t) :
    readReference (dumpReference r) = .ok r := by
  obtain ⟨t, ht⟩ := h
  have hraw : r.raw.isNull = false := by rw [ht]; rfl
  have hget : ∀ {i key v}, (referenceFields r)[i]? = some (key, v) →
      Value.get (compact (referenceFields r)) key = v :=
    fun hi => get_compact (referenceFields_nodup r) (List.mem_of_getElem? hi)
  let symbol? := if r.symbolKind = .unknown then none else some r.symbolKind
  have hsymbol : Value.word "SymbolKind".toList SymbolKind.all SymbolKind.text
      (if r.symbolKind = .unknown then .null else .text r.symbolKind.text) = .ok symbol? := by
    simp only [symbol?]
    split
    · rfl
    · exact word_text (by cases r.symbolKind <;> decide)
  have hgetD : symbol?.getD .unknown = r.symbolKind := by
    simp only [symbol?]
    split
    case isTrue hunknown => exact hunknown.symm
    case isFalse => rfl
  rw [dumpReference_eq hraw, readReference]
  · refine bind_eq_ok.2 ⟨_, rfl, bind_eq_ok.2 ⟨t, ?_, bind_eq_ok.2 ⟨r.kind, ?_,
      bind_eq_ok.2 ⟨r.state, ?_, bind_eq_ok.2 ⟨symbol?, ?_, ?_⟩⟩⟩⟩⟩
    · rw [lookup?_compact (referenceFields_nodup r) (List.mem_cons_self ..), hraw, ht]
      rfl
    · rw [hget (i := 1) rfl]
      exact word_ofText? (by intro a; cases a <;> decide) r.kind
    · rw [hget (i := 2) rfl]
      exact word_ofText? (by intro a; cases a <;> decide) r.state
    · rw [hget (i := 6) rfl]
      exact hsymbol
    · rw [hget (i := 3) rfl, hget (i := 4) rfl, hget (i := 5) rfl, ← ht, hgetD]
      rfl
  · simp

lemma readThrown_dumpThrown {x : Thrown} (h : ∃ t, x.type = .text t) :
    readThrown (dumpThrown x) = .ok x := by
  obtain ⟨type, description⟩ := x
  obtain ⟨t, rfl⟩ := h
  rfl

/-! ### The content of an entity -/

/-- The records in a field, where there are any. -/
def recordsOf {α : Type} : Loose (List α) → List α
  | .proper records => records
  | .stray _ => []

/-- The fields that every entity has. -/
def contentFields (e : Entity) : List (Text × Value) :=
  [("id".toList, e.id), ("name".toList, e.name)] ++
    (Slot.all.map fun slot => (slot.name, e.notes.get slot)) ++
    [("references".toList, listIfAny ((recordsOf e.references).map dumpReference)),
      ("exceptions".toList, listIfAny ((recordsOf e.exceptions).map dumpThrown))]

/-- The keys of the fields that every entity has. -/
def contentKeys : List Text :=
  ["id".toList, "name".toList] ++ Slot.all.map Slot.name ++
    ["references".toList, "exceptions".toList]

lemma keys_contentFields : (contentFields e).map (·.1) = contentKeys := rfl

lemma recordsField_proper {α : Type} {part : String} {dumpOne : α → Value} (records : List α) :
    recordsField key part dumpOne (.proper records) =
      .ok (fieldUnlessNull key (listIfAny (records.map dumpOne))) := by
  cases records <;> rfl

lemma dumpContent_eq (h : e.Readable) (hid : e.id = .scalar k) (hk : k.holds = true) :
    dumpContent e = .ok (compact (contentFields e)) := by
  obtain ⟨t, hname, -⟩ := h.name
  obtain ⟨rs, hrs, -⟩ := h.references
  obtain ⟨ts, hts, -⟩ := h.exceptions
  have hnull : (Value.scalar k).isNull = false := isNull_of_holds hk
  rw [dumpContent, hrs, hts, recordsField_proper, recordsField_proper]
  simp only [bind, Except.bind, pure, Except.pure, contentFields, compact, hid, hname, hrs, hts,
    recordsOf, List.flatMap_append, List.flatMap_map, List.flatMap_cons, List.flatMap_nil,
    List.append_nil, List.append_assoc, fieldUnlessNull_of_not_null hnull]
  rfl

section

variable (hkeys : (contentKeys ++ rest.map (·.1)).Nodup)

include hkeys

lemma get_content (h : (key, v) ∈ contentFields e) :
    Value.get (compact (contentFields e ++ rest)) key = v := by
  refine get_compact ?_ (List.mem_append_left _ h)
  rwa [List.map_append, keys_contentFields]

lemma get_rest (h : (key, v) ∈ rest) : Value.get (compact (contentFields e ++ rest)) key = v := by
  refine get_compact ?_ (List.mem_append_right _ h)
  rwa [List.map_append, keys_contentFields]

lemma readId_compact (hid : e.id = .scalar k) (hk : k.holds = true)
    (default : Except Fault Text) :
    readId (compact (contentFields e ++ rest)) default = .ok (.scalar k) := by
  have hget := get_content (e := e) hkeys (List.mem_of_getElem? (i := 0) rfl)
  rw [readId, hget, hid]
  simp [Value.holds, hk]

lemma readName_compact {t : Text} (hname : e.name = .text t) (ht : t ≠ []) (what : Text) :
    readName (compact (contentFields e ++ rest)) what = .ok t := by
  have hget := get_content (e := e) hkeys (List.mem_of_getElem? (i := 1) rfl)
  rw [readName, hget, hname]
  cases t with
  | nil => exact absurd rfl ht
  | cons c cs => rfl

lemma readContent_compact (h : e.Readable) :
    readContent (compact (contentFields e ++ rest)) = .ok ⟨e.notes, e.references, e.exceptions⟩ := by
  obtain ⟨rs, hrs, hraw⟩ := h.references
  obtain ⟨ts, hts, htype⟩ := h.exceptions
  have hreferences := get_content (e := e) hkeys (List.mem_of_getElem? (i := 11) rfl)
  have hexceptions := get_content (e := e) hkeys (List.mem_of_getElem? (i := 12) rfl)
  have hnotes : Notes.ofFn (fun slot => Value.get (compact (contentFields e ++ rest)) slot.name) =
      e.notes := by
    have hslot : ∀ slot : Slot,
        Value.get (compact (contentFields e ++ rest)) slot.name = e.notes.get slot := by
      intro slot
      refine get_content hkeys (List.mem_append_left _ (List.mem_append_right _ ?_))
      exact List.mem_map.2 ⟨slot, by cases slot <;> decide, rfl⟩
    simp only [hslot]
    rfl
  refine bind_eq_ok.2 ⟨rs.map dumpReference, ?_, bind_eq_ok.2 ⟨rs, ?_,
    bind_eq_ok.2 ⟨ts.map dumpThrown, ?_, bind_eq_ok.2 ⟨ts, ?_, ?_⟩⟩⟩⟩
  · rw [hrs] at hreferences
    exact itemsUnder_of_listIfAny hreferences
  · rw [mapM_eq_ok, List.forall₂_map_left_iff, List.forall₂_same]
    exact fun r hr => readReference_dumpReference (hraw r hr)
  · rw [hts] at hexceptions
    exact itemsUnder_of_listIfAny hexceptions
  · rw [mapM_eq_ok, List.forall₂_map_left_iff, List.forall₂_same]
    exact fun x hx => readThrown_dumpThrown (htype x hx)
  · rw [hnotes, hrs, hts]
    rfl

end

end LinkedDocs.Graph
