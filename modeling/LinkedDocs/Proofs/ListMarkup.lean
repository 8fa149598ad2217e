import LinkedDocs.Proofs.Listings
import LinkedDocs.Proofs.Scanning

/-!
# Lists as they are written

A list element has a header or none, and items. An item has a term and a description, or text of its
own; text beside them is passed over. Main statement: a list without other tags is laid out by what
is in its terms and descriptions, in their order.
-/

namespace LinkedDocs.Markup

open Text

/-- An item or a header: the text in it before its parts, the contents of its parts with the text
behind each, and the text behind the whole. -/
structure Entry (γ : Type) where
  lead : γ
  term : Option (γ × γ)
  description : Option (γ × γ)
  after : γ

/-- A list: the attributes of its tag, the text behind it, a header and items. -/
structure ListMarkup (γ : Type) where
  attributes : Text
  lead : γ
  header : Option (Entry γ)
  items : List (Entry γ)

variable {γ δ : Type}

/-! ### Writing

What is written is a row of tags and of texts between them. -/

namespace Entry

/-- A part in its tags, with the text behind it. -/
def part (name : Text) : Option (γ × γ) → List (Text ⊕ γ)
  | none => []
  | some (content, after) =>
    [.inl (openTag name), .inr content, .inl (closeTag name), .inr after]

/-- What is between the tags of an item. -/
def inner (e : Entry γ) : List (Text ⊕ γ) :=
  .inr e.lead :: (part "term".toList e.term ++ part "description".toList e.description)

/-- The whole item. -/
def segments (name : Text) (e : Entry γ) : List (Text ⊕ γ) :=
  .inl (openTag name) :: (e.inner ++ [.inl (closeTag name), .inr e.after])

def map (g : γ → δ) (e : Entry γ) : Entry δ :=
  ⟨g e.lead, e.term.map (Prod.map g g), e.description.map (Prod.map g g), g e.after⟩

/-- What counts as the term and as the description. -/
def cells (e : Entry γ) : Option γ × Option γ :=
  match e.term, e.description with
  | none, none => (none, some e.lead)
  | term, description => (term.map Prod.fst, description.map Prod.fst)

/-- The item that an entry is read as. -/
def item (e : Entry Text) : ListItem :=
  ⟨(e.cells.1.map collapseBlanks).getD [], (e.cells.2.map collapseBlanks).getD []⟩

end Entry

namespace ListMarkup

/-- The tag that opens the list. -/
def opening (l : ListMarkup γ) : Text :=
  '<' :: ("list".toList ++ l.attributes ++ ['>'])

/-- What is between the tags of the list. -/
def body (l : ListMarkup γ) : List (Text ⊕ γ) :=
  .inr l.lead :: (l.header.toList.flatMap (Entry.segments "listheader".toList) ++
    l.items.flatMap (Entry.segments "item".toList))

/-- The whole list. -/
def segments (l : ListMarkup γ) : List (Text ⊕ γ) :=
  .inl l.opening :: (l.body ++ [.inl (closeTag "list".toList)])

def map (g : γ → δ) (l : ListMarkup γ) : ListMarkup δ :=
  ⟨l.attributes, g l.lead, l.header.map (Entry.map g), l.items.map (Entry.map g)⟩

end ListMarkup

/-- What is in an item or in the header is in the list. -/
lemma ListMarkup.mem_segments {l : ListMarkup γ} {e : Entry γ} {segment : Text ⊕ γ}
    (he : l.header = some e ∨ e ∈ l.items) (h : segment ∈ e.inner) : segment ∈ l.segments := by
  have hbody : segment ∈ l.body := by
    simp only [body, List.mem_cons, List.mem_append, List.mem_flatMap]
    rcases he with he | he
    · exact .inr (.inl ⟨e, Option.mem_toList.2 he, by simp [Entry.segments, h]⟩)
    · exact .inr (.inr ⟨e, he, by simp [Entry.segments, h]⟩)
  simp [segments, hbody]

/-! ### The same list with other texts -/

lemma Entry.segments_map (g : γ → δ) (name : Text) (e : Entry γ) :
    (e.map g).segments name = (e.segments name).map (Sum.map id g) := by
  obtain ⟨lead, term, description, after⟩ := e
  cases term <;> cases description <;> rfl

lemma Entry.flatMap_segments_map (g : γ → δ) (name : Text) (es : List (Entry γ)) :
    (es.map (Entry.map g)).flatMap (segments name) =
      (es.flatMap (segments name)).map (Sum.map id g) := by
  rw [List.flatMap_map, List.map_flatMap]
  exact List.flatMap_congr fun e _ => segments_map g name e

lemma ListMarkup.segments_map (g : γ → δ) (l : ListMarkup γ) :
    (l.map g).segments = l.segments.map (Sum.map id g) := by
  obtain ⟨attributes, lead, header, items⟩ := l
  cases header with
  | none => simp [segments, body, map, opening, Entry.flatMap_segments_map]
  | some h => simp [segments, body, map, opening, Entry.flatMap_segments_map, Entry.segments_map]

variable {g : γ → δ} {row : List (Text ⊕ γ)} {more : List (Text ⊕ δ)} {name tag : Text} {x : δ}

lemma exists_of_map_inl (h : row.map (Sum.map id g) = .inl tag :: more) :
    ∃ rest, row = .inl tag :: rest ∧ rest.map (Sum.map id g) = more := by
  obtain ⟨segment, rest, rfl, hsegment, hmore⟩ := List.map_eq_cons_iff.1 h
  cases segment with
  | inl t => exact ⟨rest, by rw [← Sum.inl.inj hsegment]; rfl, hmore⟩
  | inr y => cases hsegment

lemma exists_of_map_inr (h : row.map (Sum.map id g) = .inr x :: more) :
    ∃ y rest, row = .inr y :: rest ∧ g y = x ∧ rest.map (Sum.map id g) = more := by
  obtain ⟨segment, rest, rfl, hsegment, hmore⟩ := List.map_eq_cons_iff.1 h
  cases segment with
  | inl t => cases hsegment
  | inr y => exact ⟨y, rest, rfl, Sum.inr.inj hsegment, hmore⟩

namespace Entry

lemma exists_part {p : Option (δ × δ)} (h : row.map (Sum.map id g) = part name p) :
    ∃ q : Option (γ × γ), part name q = row ∧ q.map (Prod.map g g) = p := by
  cases p with
  | none => exact ⟨none, (List.map_eq_nil_iff.1 h).symm, rfl⟩
  | some x =>
    obtain ⟨a, rfl, ha⟩ := exists_of_map_inl h
    obtain ⟨content, b, rfl, hcontent, hb⟩ := exists_of_map_inr ha
    obtain ⟨d, rfl, hd⟩ := exists_of_map_inl hb
    obtain ⟨after, e, rfl, hafter, he⟩ := exists_of_map_inr hd
    obtain rfl := List.map_eq_nil_iff.1 he
    exact ⟨some (content, after), rfl, congrArg some (Prod.ext hcontent hafter)⟩

lemma exists_segments {e : Entry δ} (h : row.map (Sum.map id g) = e.segments name) :
    ∃ e' : Entry γ, e'.segments name = row ∧ e'.map g = e := by
  obtain ⟨a, rfl, ha⟩ := exists_of_map_inl h
  obtain ⟨inner, ends, rfl, hinner, hends⟩ := List.map_eq_append_iff.1 ha
  obtain ⟨lead, parts, rfl, hlead, hparts⟩ := exists_of_map_inr hinner
  obtain ⟨b, d, rfl, hterm, hdescription⟩ := List.map_eq_append_iff.1 hparts
  obtain ⟨close, rfl, hclose⟩ := exists_of_map_inl hends
  obtain ⟨after, last, rfl, hafter, hlast⟩ := exists_of_map_inr hclose
  obtain rfl := List.map_eq_nil_iff.1 hlast
  obtain ⟨p, rfl, hp⟩ := exists_part hterm
  obtain ⟨q, rfl, hq⟩ := exists_part hdescription
  exact ⟨⟨lead, p, q, after⟩, rfl, by rw [map, hlead, hp, hq, hafter]⟩

lemma exists_flatMap_segments {es : List (Entry δ)}
    (h : row.map (Sum.map id g) = es.flatMap (segments name)) :
    ∃ es' : List (Entry γ), es'.flatMap (segments name) = row ∧ es'.map (map g) = es :=
  exists_flatMap_of_map (fun _ _ => exists_segments) h

end Entry

/-- A row that is written like a list but for its texts is a list with these texts. -/
lemma ListMarkup.exists_segments {l : ListMarkup δ} (h : row.map (Sum.map id g) = l.segments) :
    ∃ l' : ListMarkup γ, l'.segments = row ∧ l'.map g = l := by
  obtain ⟨attributes, lead, header, items⟩ := l
  obtain ⟨a, rfl, ha⟩ := exists_of_map_inl h
  obtain ⟨body, close, rfl, hbody, hclose⟩ := List.map_eq_append_iff.1 ha
  obtain ⟨last, rfl, hlast⟩ := exists_of_map_inl hclose
  obtain rfl := List.map_eq_nil_iff.1 hlast
  obtain ⟨first, entries, rfl, hlead, hentries⟩ := exists_of_map_inr hbody
  obtain ⟨top, rest, rfl, htop, hrest⟩ := List.map_eq_append_iff.1 hentries
  obtain ⟨es, rfl, hes⟩ := Entry.exists_flatMap_segments hrest
  have hheader : ∃ header' : Option (Entry γ),
      header'.toList.flatMap (Entry.segments "listheader".toList) = top ∧
        header'.map (Entry.map g) = header := by
    cases header with
    | none => exact ⟨none, (List.map_eq_nil_iff.1 htop).symm, rfl⟩
    | some h =>
      obtain ⟨es', rfl, hes'⟩ := Entry.exists_flatMap_segments htop
      obtain ⟨e', rfl, he⟩ := List.map_eq_singleton_iff.1 hes'
      exact ⟨some e', rfl, congrArg some he⟩
  obtain ⟨header', rfl, hheader⟩ := hheader
  exact ⟨⟨attributes, first, header', es⟩, rfl, by rw [map, hlead, hheader, hes]⟩

/-- The text of a row of tags and texts. -/
def flatten (row : List (Text ⊕ Text)) : Text :=
  row.flatMap (Sum.elim id id)

/-- No tag is in the texts. -/
def Bare (row : List (Text ⊕ Text)) : Prop :=
  ∀ t, .inr t ∈ row → '<' ∉ t

/-- The tags in an item. -/
def partTags : List Text :=
  ["term".toList, "description".toList].flatMap fun name => [openTag name, closeTag name]

/-- The tags in a list. -/
def listTags : List Text :=
  ["listheader".toList, "item".toList].flatMap (fun name => [openTag name, closeTag name]) ++
    partTags

variable {name t rest : Text} {before : Option Char} {P : Text → Prop} {row : List (Text ⊕ Text)}
  {e : Entry Text} {es : List (Entry Text)} {l : ListMarkup Text}

@[simp] lemma flatten_nil : flatten [] = [] := rfl

@[simp] lemma flatten_inl : flatten (.inl t :: row) = t ++ flatten row := rfl

@[simp] lemma flatten_inr : flatten (.inr t :: row) = t ++ flatten row := rfl

@[simp] lemma flatten_append (a b : List (Text ⊕ Text)) :
    flatten (a ++ b) = flatten a ++ flatten b :=
  List.flatMap_append

lemma Bare.of_subset {a b : List (Text ⊕ Text)} (h : Bare b) (hsub : a ⊆ b) : Bare a :=
  fun t ht => h t (hsub ht)

/-! ### Going past tags and texts -/

/-- What begins at no tag of the row and only with an angle bracket begins nowhere in it. -/
lemma throughout_flatten (hP : ∀ c t, c ≠ '<' → P (c :: t)) (hbare : Bare row)
    (htags : ∀ tag, .inl tag ∈ row → tag ∈ listTags ∧ ∀ rest, P (tag ++ rest)) :
    Throughout P (flatten row) := by
  have hshape : ∀ tag ∈ listTags, tag.head? = some '<' ∧ '<' ∉ tag.tail := by decide
  induction row with
  | nil => exact throughout_of_head (by simp)
  | cons segment row ih =>
    refine Throughout.append ?_ (ih (hbare.of_subset (List.subset_cons_self _ _))
      fun tag htag => htags tag (List.mem_cons_of_mem _ htag))
    cases segment with
    | inr t =>
      have ht := hbare t List.mem_cons_self
      exact throughout_of_head fun c hc u => hP c u fun heq => ht (heq ▸ hc)
    | inl tag =>
      obtain ⟨hmem, hrest⟩ := htags tag List.mem_cons_self
      obtain ⟨hhead, htail⟩ := hshape tag hmem
      obtain ⟨u, rfl⟩ := List.head?_eq_some_iff.1 hhead
      exact throughout_tag hP htail hrest

/-- A tag is no opening tag of another name, whatever follows. -/
lemma afterOpen?_listTag (hname : Named name) {tag : Text} (htag : tag ∈ listTags)
    (h : afterOpen? name tag = none) (rest : Text) : afterOpen? name (tag ++ rest) = none := by
  have hends : ∀ tag ∈ listTags, tag.getLast? = some '>' ∧ tag ≠ [] := by decide
  obtain ⟨hlast, hne⟩ := hends tag htag
  rw [afterOpen?_seam hname (.inl hlast) hne, h]
  rfl

lemma afterClose?_listTag (hname : Named name) {tag : Text} (htag : tag ∈ listTags)
    (h : afterClose? name tag = none) (rest : Text) : afterClose? name (tag ++ rest) = none := by
  have hends : ∀ tag ∈ listTags, tag.getLast? = some '>' ∧ tag ≠ [] := by decide
  obtain ⟨hlast, hne⟩ := hends tag htag
  rw [afterClose?_seam hname (.inl hlast) hne, h]
  rfl

/-- No closing tag of a name is found in a row that has none. -/
lemma throughout_afterClose? (hname : Named name) (hbare : Bare row)
    (htags : ∀ tag, .inl tag ∈ row → tag ∈ listTags ∧ afterClose? name tag = none) :
    Throughout (afterClose? name · = none) (flatten row) :=
  throughout_flatten (fun _ _ => afterClose?_of_ne) hbare fun tag htag =>
    ⟨(htags tag htag).1, afterClose?_listTag hname (htags tag htag).1 (htags tag htag).2⟩

/-- No element of a name is found in a row without an opening tag of it. -/
lemma throughout_element (hname : Named name) (hbare : Bare row)
    (htags : ∀ tag, .inl tag ∈ row → tag ∈ listTags ∧ afterOpen? name tag = none) :
    Throughout (fun t => ∀ before, element name before t = none) (flatten row) := by
  have hopen : Throughout (afterOpen? name · = none) (flatten row) :=
    throughout_flatten (fun _ _ => afterOpen?_of_ne) hbare fun tag htag =>
      ⟨(htags tag htag).1, afterOpen?_listTag hname (htags tag htag).1 (htags tag htag).2⟩
  refine hopen.mono fun t ht before => ?_
  rw [element, ht]
  rfl

lemma tag_mem_part {tag : Text} {p : Option (γ × γ)} (h : .inl tag ∈ Entry.part name p) :
    tag = openTag name ∨ tag = closeTag name := by
  cases p with
  | none => cases h
  | some x => simpa [Entry.part] using h

lemma tag_mem_inner {tag : Text} {e : Entry γ} (h : .inl tag ∈ e.inner) : tag ∈ partTags := by
  have hparts : .inl tag ∈ Entry.part "term".toList e.term ∨
      .inl tag ∈ Entry.part "description".toList e.description := by
    simpa [Entry.inner] using h
  rcases hparts with h | h <;> rcases tag_mem_part h with rfl | rfl <;> decide

lemma tag_mem_segments {tag : Text} {e : Entry γ} (h : .inl tag ∈ e.segments name) :
    tag = openTag name ∨ tag = closeTag name ∨ tag ∈ partTags := by
  have hparts : tag = openTag name ∨ .inl tag ∈ e.inner ∨ tag = closeTag name := by
    simpa [Entry.segments] using h
  rcases hparts with h | h | h
  · exact .inl h
  · exact .inr (.inr (tag_mem_inner h))
  · exact .inr (.inl h)

/-! ### Reading an item -/

lemma firstFind?_eq_none {α : Type} {m : Recogniser α}
    (h : Throughout (fun t => ∀ before, m before t = none) t) : firstFind? m before t = none := by
  have hfind := @firstFind?_append α m t [] before fun a c v ht => h a c v [] ht _
  rwa [List.append_nil] at hfind

/-- The first element of a name is the part of that name, if no other one comes before it. -/
lemma firstElement?_part {a b : List (Text ⊕ Text)} {p : Option (Text × Text)}
    (hletters : name.map letter = name) (hname : Named name)
    (hbare : Bare (a ++ Entry.part name p ++ b))
    (htags : ∀ tag, .inl tag ∈ a ++ b → tag ∈ listTags ∧ afterOpen? name tag = none) :
    firstElement? name (flatten (a ++ Entry.part name p ++ b)) = p.map Prod.fst := by
  cases p with
  | none =>
    rw [Entry.part, List.append_nil] at hbare ⊢
    rw [firstElement?, firstFind?_eq_none (throughout_element hname hbare htags)]
    rfl
  | some x =>
    obtain ⟨content, after⟩ := x
    have hcontent : '<' ∉ content := hbare content (by simp [Entry.part])
    have hflat : flatten (a ++ Entry.part name (some (content, after)) ++ b) =
        flatten a ++ (openTag name ++ (content ++ (closeTag name ++ (after ++ flatten b)))) := by
      simp [Entry.part]
    have hpass := throughout_element hname (hbare.of_subset (a := a) (by simp))
      fun tag htag => htags tag (List.mem_append_left b htag)
    have hfound := @element_tags name content (after ++ flatten b) ((flatten a).getLast?.or none)
      hletters fun u c v hu => afterClose?_of_ne fun hc => hcontent (by simp [hu, hc])
    rw [firstElement?, hflat, firstFind?_append fun u c v hu => hpass u c v _ hu _]
    have hassoc : openTag name ++ (content ++ (closeTag name ++ (after ++ flatten b))) =
        openTag name ++ (content ++ closeTag name) ++ (after ++ flatten b) := by simp
    rw [hassoc] at hfound ⊢
    rw [firstFind?_append_of_found hfound (by simp [openTag])]
    rfl

lemma lt_mem_of_partTag {x : Unit × Text} (h : partTag before t = some x) : '<' ∈ t := by
  cases t with
  | nil => cases h
  | cons c t =>
    by_cases hc : c = '<'
    · simp [hc]
    · simp [partTag, List.findSome?, afterOpen?_of_ne hc, afterClose?_of_ne hc] at h

/-- An item is read by its term and its description. -/
lemma parseItem_inner (hbare : Bare e.inner) : parseItem (flatten e.inner) = e.item := by
  have hterm : firstElement? "term".toList (flatten e.inner) = e.term.map Prod.fst := by
    have htags : ∀ tag, .inl tag ∈ [.inr e.lead] ++ Entry.part "description".toList e.description →
        tag ∈ listTags ∧ afterOpen? "term".toList tag = none := by
      intro tag htag
      have hpart : .inl tag ∈ Entry.part "description".toList e.description := by simpa using htag
      rcases tag_mem_part hpart with rfl | rfl <;> decide
    exact firstElement?_part (by decide) (by decide) hbare htags
  have hdescription : firstElement? "description".toList (flatten e.inner) =
      e.description.map Prod.fst := by
    have hinner : e.inner = .inr e.lead :: Entry.part "term".toList e.term ++
        Entry.part "description".toList e.description ++ [] := by
      simp [Entry.inner]
    have htags : ∀ tag, .inl tag ∈ .inr e.lead :: Entry.part "term".toList e.term ++ [] →
        tag ∈ listTags ∧ afterOpen? "description".toList tag = none := by
      intro tag htag
      have hpart : .inl tag ∈ Entry.part "term".toList e.term := by simpa using htag
      rcases tag_mem_part hpart with rfl | rfl <;> decide
    rw [hinner] at hbare ⊢
    exact firstElement?_part (by decide) (by decide) hbare htags
  rw [parseItem, hterm, hdescription]
  obtain ⟨lead, term, description, after⟩ := e
  cases term with
  | some x => cases description <;> rfl
  | none =>
    cases description with
    | some x => rfl
    | none =>
      have hlead : '<' ∉ lead := hbare lead List.mem_cons_self
      have hsame : replace partTag (fun _ => []) (flatten (Entry.inner ⟨lead, none, none, after⟩)) =
          lead := by
        have hflat : flatten (Entry.inner ⟨lead, none, none, after⟩) = lead := by
          simp [Entry.inner, Entry.part]
        rw [hflat]
        exact replace_eq_self _ (pieces_eq_map_of_not_mem lt_mem_of_partTag hlead)
      simp only [Option.map_none, hsame]
      rfl

/-! ### Reading a list -/

/-- An item or a header is found as a whole. -/
lemma element_entry (hletters : name.map letter = name) (hname : Named name)
    (htags : ∀ tag ∈ partTags, afterClose? name tag = none) (hbare : Bare e.inner) :
    element name before (openTag name ++ (flatten e.inner ++ (closeTag name ++ rest))) =
      some (flatten e.inner, rest) := by
  have hlist : partTags ⊆ listTags := by decide
  have hpass := throughout_afterClose? hname hbare fun tag htag =>
    ⟨hlist (tag_mem_inner htag), htags tag (tag_mem_inner htag)⟩
  exact element_tags hletters fun a c v h => hpass a c v _ h

lemma flatten_segments (e : Entry Text) (name rest : Text) :
    flatten (e.segments name) ++ rest =
      openTag name ++ (flatten e.inner ++ (closeTag name ++ (e.after ++ rest))) := by
  simp [Entry.segments]

lemma bare_inner (hbare : Bare (e.segments name)) : Bare e.inner :=
  hbare.of_subset fun segment h => by simp [Entry.segments, h]

lemma lt_not_mem_after (hbare : Bare (e.segments name)) : '<' ∉ e.after :=
  hbare e.after (by simp [Entry.segments])

/-- No element is found in a text without tags. -/
lemma element_of_not_mem {a v : Text} {c : Char} (ht : '<' ∉ t) (h : t = a ++ c :: v) :
    element name before (c :: v ++ rest) = none := by
  have hc : c ≠ '<' := fun heq => ht (by simp [h, heq])
  rw [element, List.cons_append, afterOpen?_of_ne hc]
  rfl

lemma findsOf_map_plain_append {α : Type} (t : Text) (row : List (Piece α)) :
    findsOf (t.map .plain ++ row) = findsOf row := by
  rw [findsOf_append, findsOf_map_plain, List.nil_append]

/-- The items of a list are found in their order. -/
lemma findsOf_items (hbare : ∀ e ∈ es, Bare (e.segments "item".toList)) :
    findsOf (pieces (element "item".toList) before
        (flatten (es.flatMap (Entry.segments "item".toList)))) =
      es.map fun e => flatten e.inner := by
  induction es generalizing before with
  | nil => simp [pieces, findsOf]
  | cons e es ih =>
    have hentry := hbare e List.mem_cons_self
    have hfound := @element_entry "item".toList
      (e.after ++ flatten (es.flatMap (Entry.segments "item".toList))) before e (by decide)
      (by decide) (by decide) (bare_inner hentry)
    rw [List.flatMap_cons, flatten_append, flatten_segments]
    rw [← List.append_assoc (flatten e.inner), ← List.append_assoc] at hfound ⊢
    rw [pieces_append_of_found hfound (by simp [openTag]), findsOf_found,
      pieces_append_of_none fun a c v h => element_of_not_mem (lt_not_mem_after hentry) h,
      findsOf_map_plain_append, ih fun e he => hbare e (List.mem_cons_of_mem _ he)]
    rfl

lemma finds_eq {α : Type} (m : Recogniser α) (t : Text) : finds m t = findsOf (pieces m none t) :=
  rfl

lemma finds_items (ht : '<' ∉ t) (hbare : ∀ e ∈ es, Bare (e.segments "item".toList)) :
    finds (element "item".toList) (t ++ flatten (es.flatMap (Entry.segments "item".toList))) =
      es.map fun e => flatten e.inner := by
  rw [finds_eq, pieces_append_of_none fun a c v h => element_of_not_mem ht h,
    findsOf_map_plain_append, findsOf_items hbare]

lemma ListMarkup.bare_entry (hbare : Bare l.body) :
    '<' ∉ l.lead ∧ (∀ h ∈ l.header, Bare (h.segments "listheader".toList)) ∧
      ∀ e ∈ l.items, Bare (e.segments "item".toList) := by
  refine ⟨hbare l.lead List.mem_cons_self, fun h hh => hbare.of_subset fun segment hmem => ?_,
    fun e he => hbare.of_subset fun segment hmem => ?_⟩
  all_goals simp only [ListMarkup.body, List.mem_cons, List.mem_append, List.mem_flatMap]
  · exact .inr (.inl ⟨h, Option.mem_toList.2 hh, hmem⟩)
  · exact .inr (.inr ⟨e, he, hmem⟩)

/-- The header is the first thing that is looked for. -/
lemma firstFind?_header (hbare : Bare l.body) :
    firstFind? (element "listheader".toList) none (flatten l.body) = l.header.map fun h =>
      (l.lead, flatten h.inner,
        h.after ++ flatten (l.items.flatMap (Entry.segments "item".toList))) := by
  obtain ⟨attributes, lead, header, items⟩ := l
  obtain ⟨hlead, hheader, -⟩ := ListMarkup.bare_entry hbare
  cases header with
  | none =>
    have hparts : ∀ tag ∈ partTags, tag ∈ listTags ∧ afterOpen? "listheader".toList tag = none := by
      decide
    refine firstFind?_eq_none (throughout_element (by decide) hbare fun tag htag => ?_)
    have hmem : ∃ e ∈ items, .inl tag ∈ e.segments "item".toList := by
      simpa [ListMarkup.body] using htag
    obtain ⟨e, -, htag⟩ := hmem
    rcases tag_mem_segments htag with rfl | rfl | htag
    · decide
    · decide
    · exact hparts tag htag
  | some h =>
    have hfound := @element_entry "listheader".toList
      (h.after ++ flatten (items.flatMap (Entry.segments "item".toList))) (lead.getLast?.or none) h
      (by decide) (by decide) (by decide) (bare_inner (hheader h rfl))
    have hflat : flatten (ListMarkup.body ⟨attributes, lead, some h, items⟩) =
        lead ++ (openTag "listheader".toList ++ (flatten h.inner ++ (closeTag "listheader".toList ++
          (h.after ++ flatten (items.flatMap (Entry.segments "item".toList)))))) := by
      simp [ListMarkup.body, flatten_segments]
    rw [hflat, firstFind?_append fun a c v h => element_of_not_mem hlead h]
    rw [← List.append_assoc (flatten h.inner), ← List.append_assoc] at hfound ⊢
    rw [firstFind?_append_of_found hfound (by simp [openTag])]
    simp

/-- A list is read by its header and its items. -/
lemma parseList_body (hbare : Bare l.body) :
    parseList (flatten l.body) = (l.header.map Entry.item, l.items.map Entry.item) := by
  obtain ⟨hlead, hheader, hitems⟩ := ListMarkup.bare_entry hbare
  have hread (t : Text) (ht : '<' ∉ t) : (finds (element "item".toList)
      (t ++ flatten (l.items.flatMap (Entry.segments "item".toList)))).map parseItem =
      l.items.map Entry.item := by
    rw [finds_items ht hitems, List.map_map]
    exact List.map_congr_left fun e he => parseItem_inner (bare_inner (hitems e he))
  rw [parseList, firstFind?_header hbare]
  cases hh : l.header with
  | none =>
    have hflat : flatten l.body =
        l.lead ++ flatten (l.items.flatMap (Entry.segments "item".toList)) := by
      simp [ListMarkup.body, hh]
    simp only [Option.map_none, hflat, hread l.lead hlead]
  | some h =>
    have hentry := hheader h hh
    have hafter : '<' ∉ l.lead ++ h.after := by
      rw [List.mem_append, not_or]
      exact ⟨hlead, lt_not_mem_after hentry⟩
    simp only [Option.map_some, ← List.append_assoc, hread _ hafter,
      parseItem_inner (bare_inner hentry)]

/-! ### Laying out a list -/

lemma startsList_of_ne {c : Char} (hc : c ≠ '<') : startsList (c :: t) = false := by
  unfold startsList
  split
  case h_1 heq => exact absurd (List.cons.inj heq).1 hc
  · rfl

lemma tag_mem_body {tag : Text} {l : ListMarkup γ} (h : .inl tag ∈ l.body) : tag ∈ listTags := by
  have hlist : partTags ⊆ listTags := by decide
  have hmem : (∃ h ∈ l.header, .inl tag ∈ h.segments "listheader".toList) ∨
      ∃ e ∈ l.items, .inl tag ∈ e.segments "item".toList := by
    simpa [ListMarkup.body] using h
  rcases hmem with ⟨h, -, htag⟩ | ⟨e, -, htag⟩ <;>
    rcases tag_mem_segments htag with rfl | rfl | htag
  · decide
  · decide
  · exact hlist htag
  · decide
  · decide
  · exact hlist htag

lemma ListMarkup.tag_mem_segments {tag : Text} {l : ListMarkup γ} (h : .inl tag ∈ l.segments) :
    tag = l.opening ∨ tag ∈ closeTag "list".toList :: listTags := by
  have hparts : tag = l.opening ∨ .inl tag ∈ l.body ∨ tag = closeTag "list".toList := by
    simpa [ListMarkup.segments] using h
  rcases hparts with h | h | h
  · exact .inl h
  · exact .inr (List.mem_cons_of_mem _ (tag_mem_body h))
  · exact .inr (h ▸ List.mem_cons_self)

lemma startsList_append {tag : Text} (hlast : tag.getLast? = some '>')
    (h : startsList tag = false) : startsList (tag ++ rest) = false := by
  cases tag with
  | nil => cases hlast
  | cons c u =>
    by_cases hc : c = '<'
    · subst hc
      have hseam {rest : Text} : Seam u rest := Seam.tail (c := '<') (.inl hlast) (by decide)
      have hafter := (@afterName?_seam "list".toList u rest (by decide) hseam).1
      have hend := (@afterName?_seam "list".toList u [] (by decide) hseam).2
      rw [startsList] at h
      rw [List.cons_append, startsList, hafter]
      cases hv : afterName? "list".toList u with
      | none => rfl
      | some v =>
        cases v with
        | nil => simpa [Seam] using hend [] hv
        | cons d v =>
          rw [hv] at h
          exact h
    · exact startsList_of_ne hc

/-- A list is found as a whole. -/
lemma listElement_segments (hbare : Bare l.body) (hattributes : '>' ∉ l.attributes) :
    listElement before (flatten l.segments) = some (⟨l.attributes, flatten l.body⟩, []) := by
  have htags : ∀ tag ∈ listTags, tag.getLast? = some '>' ∧ afterClose? "list".toList tag = none ∧
      startsList tag = false := by decide
  have hclose := @throughout_afterClose? "list".toList l.body (by decide) hbare fun tag htag =>
    ⟨tag_mem_body htag, (htags tag (tag_mem_body htag)).2.1⟩
  have hstarts : Throughout (startsList · = false) (flatten l.body) :=
    throughout_flatten (fun _ _ => startsList_of_ne) hbare fun tag htag => by
      obtain ⟨hlast, -, hstart⟩ := htags tag (tag_mem_body htag)
      exact ⟨tag_mem_body htag, fun rest => startsList_append hlast hstart⟩
  have hsource : flatten l.segments = '<' :: ("list".toList ++
      (l.attributes ++ '>' :: (flatten l.body ++ closeTag "list".toList))) := by
    simp [ListMarkup.segments, ListMarkup.opening]
  have hname : afterName? "list".toList ("list".toList ++
      (l.attributes ++ '>' :: (flatten l.body ++ closeTag "list".toList))) =
      some (l.attributes ++ '>' :: (flatten l.body ++ closeTag "list".toList)) :=
    afterName?_spelling (by decide)
  have hall : ∀ c ∈ l.attributes, (c != '>') = true := fun c hc =>
    bne_iff_ne.2 fun heq => hattributes (heq ▸ hc)
  have hbody : upToWithout? (afterClose? "list".toList) startsList
      (flatten l.body ++ closeTag "list".toList) = some (flatten l.body, []) := by
    rw [upToWithout?_append (fun a c v h => hclose a c v _ h) fun a c v h => hstarts a c v _ h]
    have hend : upToWithout? (afterClose? "list".toList) startsList (closeTag "list".toList) =
        some ([], []) := by decide +kernel
    rw [hend]
    simp
  rw [hsource, listElement]
  simp only [hname]
  rw [List.dropWhile_append_of_pos hall, List.takeWhile_append_of_pos hall,
    List.dropWhile_cons_of_neg (by decide), List.takeWhile_cons_of_neg (by decide)]
  simp only [hbody, List.append_nil, Option.map_some]

/-- The names of the elements that are formatted. -/
def formatNames : List Text :=
  ["para".toList, "b".toList, "i".toList]

/-- Nothing that is formatted begins here. -/
def Unformatted (t : Text) : Prop :=
  (∀ name ∈ formatNames, afterOpen? name t = none) ∧
    (t.head? = some '<' → ∀ name ∈ ["para".toList, "br".toList], afterName? name t.tail = none)

instance : DecidablePred Unformatted := fun _ => inferInstanceAs (Decidable (_ ∧ _))

lemma emptyTag_of_unformatted (h : Unformatted t) : emptyTag "para".toList before t = none := by
  unfold emptyTag
  split
  case h_1 cs =>
    have hnone : afterName? "para".toList cs = none := h.2 rfl _ (by simp)
    rw [hnone]
    rfl
  · rfl

/-- A line break begins with its tag or with a space before it. -/
lemma hardBreak_of_unformatted {c : Char} (h : Unformatted (c :: t))
    (hnext : ∀ d u, t = d :: u → Unformatted (d :: u)) : hardBreak before (c :: t) = none := by
  have hnone {u : Text} (hu : Unformatted ('<' :: u)) : afterName? "br".toList u = none :=
    hu.2 rfl _ (by simp)
  rw [Option.eq_none_iff_forall_ne_some]
  intro x hx
  unfold hardBreak at hx
  dsimp only at hx
  split at hx
  case h_1 rest htag =>
    split at htag
    case h_1 cs heq =>
      obtain ⟨-, rfl⟩ := List.cons.inj heq
      rw [Option.bind_some, hnone (hnext _ _ rfl)] at htag
      cases htag
    case h_2 cs heq =>
      obtain ⟨rfl, rfl⟩ := List.cons.inj heq
      rw [Option.bind_some, hnone h] at htag
      cases htag
    case h_3 => cases htag
  case h_2 => cases hx

lemma format_of_unformatted (h : ∀ a c v, t = a ++ c :: v → Unformatted (c :: v)) :
    format t = t := by
  have hinnermost (name : Text) (hname : name ∈ formatNames) (image : Text → Text) :
      replace (innermost name) image t = t := by
    refine replace_eq_self image (pieces_eq_map_of_none fun a c v ht => ?_)
    rw [innermost, (h a c v ht).1 name hname]
    rfl
  have hround : formatRound t = t := by
    rw [formatRound, hinnermost "para".toList (by decide), hinnermost "b".toList (by decide),
      hinnermost "i".toList (by decide)]
  have hempty : replace (emptyTag "para".toList) (fun _ => "\n\n".toList) t = t :=
    replace_eq_self _ (pieces_eq_map_of_none fun a c v ht => emptyTag_of_unformatted (h a c v ht))
  have hbreak : replace hardBreak (fun _ => "  \n".toList) t = t := by
    refine replace_eq_self _ (pieces_eq_map_of_none fun a c v ht => ?_)
    refine hardBreak_of_unformatted (h a c v ht) fun d u hv => h (a ++ [c]) d u ?_
    rw [ht, hv]
    simp
  simp only [format, hempty, settle, hround, if_true, hbreak]

lemma unformatted_of_ne {c : Char} (hc : c ≠ '<') : Unformatted (c :: t) :=
  ⟨fun _ _ => afterOpen?_of_ne hc, fun hlt => absurd (Option.some.inj hlt) hc⟩

lemma Unformatted.append (h : Unformatted t) (hlast : t.getLast? = some '>') :
    Unformatted (t ++ rest) := by
  have hnames : (∀ name ∈ formatNames, Named name) ∧
      ∀ name ∈ ["para".toList, "br".toList], Named name := by decide
  have hne : t ≠ [] := by
    rintro rfl
    cases hlast
  refine ⟨fun name hname => ?_, fun hhead name hname => ?_⟩
  · rw [afterOpen?_seam (hnames.1 name hname) (.inl hlast) hne, h.1 name hname]
    rfl
  · obtain ⟨c, u, rfl⟩ := List.exists_cons_of_ne_nil hne
    obtain rfl : c = '<' := by simpa using hhead
    have hseam : Seam u rest := Seam.tail (c := '<') (.inl hlast) (by decide)
    have hnone : afterName? name u = none := h.2 rfl name hname
    change afterName? name (u ++ rest) = none
    rw [(afterName?_seam (hnames.2 name hname) hseam).1, hnone]
    rfl

/-- What begins at no tag of the list begins nowhere in it. -/
lemma throughout_segments (hP : ∀ c t, c ≠ '<' → P (c :: t)) (hbare : Bare l.body)
    (hattributes : '<' ∉ l.attributes) (hopening : ∀ rest, P (l.opening ++ rest))
    (htags : ∀ tag ∈ closeTag "list".toList :: listTags, ∀ rest, P (tag ++ rest)) :
    Throughout P (flatten l.segments) := by
  have hopen : Throughout P l.opening := by
    refine throughout_tag hP ?_ hopening
    simpa using hattributes
  have hclose : Throughout P (closeTag "list".toList) :=
    throughout_tag hP (by decide) (htags _ List.mem_cons_self)
  have hbody := throughout_flatten hP hbare fun tag htag =>
    ⟨tag_mem_body htag, htags tag (List.mem_cons_of_mem _ (tag_mem_body htag))⟩
  have hwhole := hopen.append (hbody.append hclose)
  simpa [ListMarkup.segments] using hwhole

/-- The tag of a list is no tag of a name that begins with another letter. -/
lemma afterName?_opening {l : ListMarkup γ} (h : name ≠ [] ∧ name.head? ≠ some (letter 'l')) :
    afterName? name (l.opening ++ rest).tail = none := by
  obtain ⟨p, name, rfl⟩ := List.exists_cons_of_ne_nil h.1
  have hopening : (l.opening ++ rest).tail =
      'l' :: ("ist".toList ++ l.attributes ++ ['>'] ++ rest) := rfl
  rw [hopening, afterName?, if_neg]
  exact fun heq => h.2 (congrArg some heq.symm)

lemma afterOpen?_opening {l : ListMarkup γ} (h : name ≠ [] ∧ name.head? ≠ some (letter 'l')) :
    afterOpen? name (l.opening ++ rest) = none := by
  change (afterName? name (l.opening ++ rest).tail).bind afterTagEnd? = none
  rw [afterName?_opening h]
  rfl

/-- Nothing in a list without other tags is formatted. -/
lemma format_segments (hbare : Bare l.body) (hattributes : '<' ∉ l.attributes) :
    format (flatten l.segments) = flatten l.segments := by
  have htags : ∀ tag ∈ closeTag "list".toList :: listTags,
      Unformatted tag ∧ tag.getLast? = some '>' := by decide
  have hopening (rest : Text) : Unformatted (l.opening ++ rest) := by
    have hformat : ∀ name ∈ formatNames, name ≠ [] ∧ name.head? ≠ some (letter 'l') := by decide
    have hbreaks : ∀ name ∈ ["para".toList, "br".toList],
        name ≠ [] ∧ name.head? ≠ some (letter 'l') := by decide
    refine ⟨fun name hname => ?_, fun _ name hname => ?_⟩
    · exact afterOpen?_opening (hformat name hname)
    · exact afterName?_opening (hbreaks name hname)
  have hthroughout := throughout_segments (fun _ _ => unformatted_of_ne) hbare hattributes hopening
    fun tag htag rest => (htags tag htag).1.append (htags tag htag).2
  exact format_of_unformatted fun a c v h => by simpa using hthroughout a c v [] h

/-- What a list is read as, in Markdown. -/
def ListMarkup.rendered (l : ListMarkup Text) : Text :=
  renderList (listKind l.attributes) (l.header.map Entry.item) (l.items.map Entry.item)

/-- Laying out is done after a round that leaves no tag. -/
lemma layOutLists_of_listRound {u : Text} (h : listRound t = u) (hu : '<' ∉ u) :
    layOutLists t = .ok u := by
  have hfirst : layOutLists t = layOutLists u := atRest_of_step (congrArg Except.ok h)
  rw [hfirst, layOutLists_eq_self hu]

/-- A text that is a list is laid out as the list is read. -/
lemma layOutLists_segments (hbare : Bare l.body) (hattributes : '>' ∉ l.attributes)
    (hlt : '<' ∉ l.rendered) : layOutLists (flatten l.segments) =
      .ok (if l.rendered = [] then "\n\n".toList
        else "\n\n".toList ++ l.rendered ++ "\n\n".toList) := by
  have hlist : layOutList ⟨l.attributes, flatten l.body⟩ = if l.rendered = [] then "\n\n".toList
      else "\n\n".toList ++ l.rendered ++ "\n\n".toList := by
    simp only [layOutList, parseList_body hbare, List.isEmpty_iff]
    rfl
  have hsource : flatten l.segments ≠ [] := by simp [ListMarkup.segments, ListMarkup.opening]
  have hfound := @listElement_segments none l hbare hattributes
  refine layOutLists_of_listRound ?_ ?_
  · rw [← List.append_nil (flatten l.segments)] at hfound ⊢
    rw [listRound, replace_eq_flatMap, pieces_append_of_found hfound hsource, pieces]
    simpa [Piece.text] using hlist
  · split
    · decide
    · simpa using hlt

/-! ### Tidy lines -/

lemma calm_lines {k : Nat} {line : Text} {more : List Text} (h : ∀ u ∈ line :: more, InLine u)
    (hrest : Calm 0 rest) : Calm k (line ++ more.flatMap ('\n' :: ·) ++ rest) := by
  induction more generalizing line k with
  | nil =>
    rw [List.flatMap_nil, List.append_nil, (h line List.mem_cons_self).calm_append]
    exact hrest
  | cons next more ih =>
    obtain ⟨hline, hmore⟩ := List.forall_mem_cons.1 h
    rw [List.append_assoc, hline.calm_append, List.flatMap_cons, List.cons_append, List.cons_append,
      Calm, if_pos rfl]
    exact ⟨by decide, ih hmore⟩

lemma escapeAngles_lines (line : Text) (more : List Text) :
    escapeAngles (line ++ more.flatMap ('\n' :: ·)) =
      escapeAngles line ++ (more.map escapeAngles).flatMap ('\n' :: ·) := by
  induction more generalizing line with
  | nil => simp
  | cons next more ih =>
    rw [List.flatMap_cons, List.cons_append, escapeAngles_append, List.map_cons, List.flatMap_cons]
    congr 1
    rw [List.cons_append, ← ih next]
    rfl

/-- For the layout an escaped character counts as the character. -/
lemma layout_escapeAngles (t : Text) :
    (Calm 0 (escapeAngles t) ↔ Calm 0 t) ∧ (Trimmed (escapeAngles t) ↔ Trimmed t) := by
  have hchars : escapeAngles t = t.flatMap fun c => escapeAngles [c] := by simp [escapeAngles]
  have hsame (c : Char) :
      escapeAngles [c] = [id c] ∨ InLine (escapeAngles [c]) ∧ InLine [id c] := by
    by_cases hlt : c = '<'
    · subst hlt
      exact .inr (by decide)
    by_cases hgt : c = '>'
    · subst hgt
      exact .inr (by decide)
    exact .inl (by simp [escapeAngles, hlt, hgt])
  rw [hchars, calm_flatMap_iff fun c _ => hsame c, trimmed_flatMap_iff fun c _ => hsame c,
    List.map_id]
  exact ⟨Iff.rfl, Iff.rfl⟩

/-- Lines between blank lines are tidy but for their angle brackets. -/
lemma tidy_lines {line : Text} {more : List Text} (h : ∀ u ∈ line :: more, InLine u) :
    tidy ("\n\n".toList ++ join ['\n'] (line :: more) ++ "\n\n".toList) =
      join ['\n'] ((line :: more).map escapeAngles) := by
  have hcalm : Calm 0 ("\n\n".toList ++ join ['\n'] (line :: more) ++ "\n\n".toList) := by
    rw [join_cons]
    exact ⟨by decide, by decide, calm_lines h ⟨by decide, by decide, trivial⟩⟩
  have htrimmed : Trimmed (escapeAngles (join ['\n'] (line :: more))) := by
    rw [(layout_escapeAngles _).2]
    exact trimmed_join h
  rw [tidy, ((layout_escapeAngles _).1.2 hcalm).collapseBlankLines, escapeAngles_append,
    escapeAngles_append]
  have hfeeds : escapeAngles "\n\n".toList = "\n\n".toList := by decide
  have hblanks : ∀ c ∈ "\n\n".toList, isBlank c = true := List.all_eq_true.1 (by decide)
  rw [hfeeds, htrimmed.strip_between hblanks hblanks, join_cons, escapeAngles_lines,
    List.map_cons, join_cons]

end LinkedDocs.Markup
