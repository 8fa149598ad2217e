import LinkedDocs.Proofs.InlineCode

/-!
# Text with code in it

Text between tags has characters, code spans and inline code. Main statement: once the code has been
taken out, there are tokens in the places of the spans and of the inline code, and the stash has
the spans as they are and the inline code as it is shown.
-/

namespace LinkedDocs.Markup

open Text

deriving instance DecidableEq for Piece

variable {α β : Type}

/-- A bit of a text: a character or a code span, or inline code with these in it. -/
inductive Bit (α : Type) where
  | piece (p : Piece α)
  | code (inner : List (Piece α))

namespace Bit

/-- The characters and the spans of a bit. -/
def content : Bit α → List (Piece α)
  | piece p => [p]
  | code inner => inner

/-- The bit as it is written. -/
def source : Bit α → List (Piece α)
  | piece p => [p]
  | code inner => (openTag "c".toList).map .plain ++ inner ++ (closeTag "c".toList).map .plain

/-- The bit as it is shown. Inline code is a span in one line, or nothing. -/
def shown : Bit Text → List (Piece Text)
  | piece p => [p]
  | code inner =>
    if joinLines inner = [] then [] else [.found (inlineSpan (written id (joinLines inner)))]

def map (g : α → β) : Bit α → Bit β
  | piece p => piece (p.map g)
  | code inner => code (inner.map (Piece.map g))

def isCode : Bit α → Bool
  | piece _ => false
  | code _ => true

end Bit

/-- The source of a text of tags and bits. -/
def mixedSource (bits : List (Text ⊕ Bit α)) : List (Piece α) :=
  bits.flatMap (Sum.elim (List.map .plain) Bit.source)

/-- The text as it is shown, with its tags. -/
def mixedShown (bits : List (Text ⊕ Bit Text)) : List (Piece Text) :=
  bits.flatMap (Sum.elim (List.map .plain) Bit.shown)

/-- The number of bits that are inline code. -/
def codes (bits : List (Text ⊕ Bit α)) : Nat :=
  bits.countP (Sum.elim (fun _ => false) Bit.isCode)

/-- Code spans and inline code are all the markup of a text besides its tags: it has no fences and
no references, its spans are those of its bits, and its bits have no tags. -/
structure Readable (t : Text) (bits : List (Text ⊕ Bit Text)) : Prop where
  fences : finds fence t = []
  quiet : ∀ u ∈ t.tails, Quiet u
  spans : pieces codeSpan none t = mixedSource bits
  tags : ∀ b, .inr b ∈ bits → .plain '<' ∉ b.content

instance (t : Text) (bits : List (Text ⊕ Bit Text)) : Decidable (Readable t bits) :=
  decidable_of_iff ((finds fence t).isEmpty = true ∧ (∀ u ∈ t.tails, Quiet u) ∧
      pieces codeSpan none t = mixedSource bits ∧
      ∀ b ∈ bits.filterMap Sum.getRight?, .plain '<' ∉ b.content)
    ⟨fun h => ⟨List.isEmpty_iff.1 h.1, h.2.1, h.2.2.1, fun b hb =>
        h.2.2.2 b (List.mem_filterMap.2 ⟨.inr b, hb, rfl⟩)⟩,
      fun h => ⟨List.isEmpty_iff.2 h.fences, h.quiet, h.spans, fun b hb => by
        obtain ⟨segment, hsegment, hright⟩ := List.mem_filterMap.1 hb
        exact h.tags b (Sum.getRight?_eq_some_iff.1 hright ▸ hsegment)⟩⟩

variable {resolver : Resolver} {t u rest body : Text} {before : Option Char}

/-! ### Numbers for spans -/

lemma eq_map_plain {g : α → β} {row : List (Piece α)}
    (h : row.map (Piece.map g) = t.map .plain) : row = t.map .plain := by
  induction t generalizing row with
  | nil => exact List.map_eq_nil_iff.1 h
  | cons c t ih =>
    obtain ⟨piece, row, rfl, hpiece, hrow⟩ := List.map_eq_cons_iff.1 h
    cases piece with
    | plain d => rw [ih hrow, Piece.plain.inj hpiece, List.map_cons]
    | found x => cases hpiece

lemma Bit.exists_source {g : α → β} {row : List (Piece α)} {b : Bit β}
    (h : row.map (Piece.map g) = b.source) : ∃ b' : Bit α, b'.source = row ∧ b'.map g = b := by
  cases b with
  | piece p =>
    obtain ⟨q, rfl, rfl⟩ := List.map_eq_singleton_iff.1 h
    exact ⟨piece q, rfl, rfl⟩
  | code inner =>
    obtain ⟨front, last, rfl, hfront, hlast⟩ := List.map_eq_append_iff.1 h
    obtain ⟨first, inner, rfl, hfirst, rfl⟩ := List.map_eq_append_iff.1 hfront
    rw [eq_map_plain hfirst, eq_map_plain hlast]
    exact ⟨code inner, rfl, rfl⟩

/-- A row that is the source of bits but for its spans is the source of bits with these spans. -/
lemma exists_mixedSource {g : α → β} {row : List (Piece α)} {bits : List (Text ⊕ Bit β)}
    (h : row.map (Piece.map g) = mixedSource bits) :
    ∃ bits' : List (Text ⊕ Bit α),
      mixedSource bits' = row ∧ bits'.map (Sum.map id (Bit.map g)) = bits := by
  refine exists_flatMap_of_map (fun row segment hrow => ?_) h
  cases segment with
  | inl tag => exact ⟨.inl tag, (eq_map_plain hrow).symm, rfl⟩
  | inr b =>
    obtain ⟨b', rfl, rfl⟩ := Bit.exists_source hrow
    exact ⟨.inr b', rfl, rfl⟩

/-! ### Taking inline code out -/

/-- The text with its inline code taken out. -/
def inlined (s : Except NoResult Stash) (before : Option Char) (t : Text) :
    Text × Except NoResult Stash :=
  weave stashInline s (pieces (element "c".toList) before t)

lemma inlined_error (cause : NoResult) (before : Option Char) (t : Text) :
    (inlined (.error cause) before t).2 = .error cause :=
  weave_stashInline_error _

lemma inlined_append (s : Except NoResult Stash)
    (hu : Throughout (fun t => ∀ before, element "c".toList before t = none) u) :
    inlined s before (u ++ rest) = (u ++ (inlined s (u.getLast?.or before) rest).1,
      (inlined s (u.getLast?.or before) rest).2) := by
  rw [inlined, pieces_append_of_none fun a c v h => hu a c v rest h _, weave_append,
    weave_map_plain]
  rfl

lemma inlined_code (s : Except NoResult Stash) (hbody : '<' ∉ body) :
    ∃ place, inlined s before (openTag "c".toList ++ body ++ closeTag "c".toList ++ rest) =
      ((stashInline s body).1 ++ (inlined (stashInline s body).2 place rest).1,
        (inlined (stashInline s body).2 place rest).2) := by
  have hfound := @element_tags "c".toList body rest before (by decide) fun a c v h =>
    afterClose?_of_ne fun hc => hbody (by rw [h, hc]; simp)
  rw [← List.append_assoc, ← List.append_assoc] at hfound
  rw [inlined, pieces_append_of_found hfound (by simp [openTag])]
  exact ⟨_, rfl⟩

/-- The stash has the spans of a bit, and there are no tags and no marks in the bit. -/
structure Bit.Ready (s : Stash) (b : Bit (Nat × Text)) : Prop where
  tags : .plain '<' ∉ b.content
  marks : .plain tokenOpen ∉ b.content
  items : ∀ y, .found y ∈ b.content → s.items[y.1]? = some y.2 ∧ tokenOpen ∉ y.2

/-- The stash has the texts of the finds of a row. -/
def Stash.Holds (s : Stash) (row : List (Piece (Nat × Text))) : Prop :=
  ∀ y, .found y ∈ row → s.items[y.1]? = some y.2

variable {s s' s'' : Stash} {row row' marked marked' : List (Piece (Nat × Text))}

lemma getElem?_of_kept (h : s.items <+: s'.items) {n : Nat} (hn : s.items[n]? = some t) :
    s'.items[n]? = some t := by
  obtain ⟨more, hmore⟩ := h
  rw [← hmore, List.getElem?_append_left (List.getElem?_eq_some_iff.1 hn).1, hn]

lemma Bit.Ready.mono {b : Bit (Nat × Text)} (h : b.Ready s) (hs : s.items <+: s'.items) :
    b.Ready s' :=
  ⟨h.tags, h.marks, fun y hy => ⟨getElem?_of_kept hs (h.items y hy).1, (h.items y hy).2⟩⟩

/-- With its inline code taken out, a stretch becomes another one and the stash grows. -/
structure Inlines (s : Stash) (marked row : List (Piece (Nat × Text))) (s' : Stash) : Prop where
  takes : ∀ before rest, ∃ place, inlined (.ok s) before (withTokens marked ++ rest) =
    (withTokens row ++ (inlined (.ok s') place rest).1, (inlined (.ok s') place rest).2)
  kept : s.items <+: s'.items
  holds : s'.Holds row

lemma Inlines.nil (s : Stash) : Inlines s [] [] s :=
  ⟨fun before _ => ⟨before, rfl⟩, List.prefix_refl _, fun _ hy => absurd hy (by simp)⟩

lemma withTokens_append (a b : List (Piece (Nat × Text))) :
    withTokens (a ++ b) = withTokens a ++ withTokens b :=
  written_append

lemma withTokens_map_plain (t : Text) : withTokens (t.map (Piece.plain (α := Nat × Text))) = t :=
  written_map_plain _ t

lemma Inlines.append (h : Inlines s marked row s') (h' : Inlines s' marked' row' s'') :
    Inlines s (marked ++ marked') (row ++ row') s'' := by
  refine ⟨fun before rest => ?_, h.kept.trans h'.kept, fun y hy => ?_⟩
  · obtain ⟨place, hplace⟩ := h.takes before (withTokens marked' ++ rest)
    obtain ⟨next, hnext⟩ := h'.takes place rest
    refine ⟨next, ?_⟩
    rw [withTokens_append, List.append_assoc, hplace, hnext, withTokens_append, List.append_assoc]
  · rcases List.mem_append.1 hy with hy | hy
    · exact getElem?_of_kept h'.kept (h.holds y hy)
    · exact h'.holds y hy

/-- A stretch in which no inline code begins stays as it is. -/
lemma Inlines.of_none (hnone : Throughout (fun t => ∀ before, element "c".toList before t = none)
    (withTokens row)) (hholds : s.Holds row) : Inlines s row row s :=
  ⟨fun _ _ => ⟨_, inlined_append _ hnone⟩, List.prefix_refl _, hholds⟩

/-- Inline code cannot be taken out, as it has a token that cannot be read. -/
def Chokes (s : Stash) (marked : List (Piece (Nat × Text))) : Prop :=
  ∃ l, ∀ before rest,
    (inlined (.ok s) before (withTokens marked ++ rest)).2 = .error (.fault (.longInteger l))

lemma lt_not_mem_withTokens (h : .plain '<' ∉ row) : '<' ∉ withTokens row :=
  not_mem_withTokens h fun _ hmem => (of_mem_token hmem).2.1 rfl

/-- Inline code is one token, or nothing if there is no code. -/
lemma Bit.Ready.inlines_code {inner : List (Piece (Nat × Text))} (h : (code inner).Ready s) :
    (∃ row s', Inlines s (code inner).source row s' ∧
      row.map (Piece.map Prod.snd) = ((code inner).map Prod.snd).shown ∧
      s'.items.length ≤ s.items.length + 1) ∨
    s.Overfull ∧ Chokes s (code inner).source := by
  have hsource : withTokens (code inner).source =
      openTag "c".toList ++ withTokens inner ++ closeTag "c".toList := by
    simp only [source, withTokens_append, withTokens_map_plain]
  have hempty : joinLines (inner.map (Piece.map Prod.snd)) = [] ↔ joinLines inner = [] := by
    rw [joinLines_map, List.map_eq_nil_iff]
  have htakes {out : Text × Except NoResult Stash}
      (hout : stashInline (.ok s) (withTokens inner) = out) (before : Option Char) (rest : Text) :
      ∃ place, inlined (.ok s) before (withTokens (code inner).source ++ rest) =
        (out.1 ++ (inlined out.2 place rest).1, (inlined out.2 place rest).2) := by
    rw [hsource, ← hout]
    exact inlined_code _ (lt_not_mem_withTokens h.tags)
  rcases @stashInline_withTokens inner s h.marks h.items with heq | ⟨hfull, l, herror⟩
  · left
    split at heq
    case isTrue hnil =>
      refine ⟨[], s, ⟨htakes heq, List.prefix_refl _, fun y hy => absurd hy (by simp)⟩, ?_,
        Nat.le_succ _⟩
      rw [map, shown, if_pos (hempty.2 hnil), List.map_nil]
    case isFalse hne =>
      have htoken (n : Nat) (x : Text) : withTokens [.found (n, x)] = token n :=
        List.append_nil _
      refine ⟨[.found (s.items.length, inlineSpan (written Prod.snd (joinLines inner)))], _,
        ⟨by rw [htoken]; exact htakes heq, List.prefix_append _ _, fun y hy => ?_⟩, ?_, by simp⟩
      · obtain rfl := Piece.found.inj (List.mem_singleton.1 hy)
        simp
      · rw [map, shown, if_neg (mt hempty.1 hne), joinLines_map, written_map]
        rfl
  · refine .inr ⟨hfull, l, fun before rest => ?_⟩
    obtain ⟨place, hplace⟩ := htakes herror before rest
    rw [hplace]
    exact inlined_error _ _ _

/-- A tag or a bit by itself. -/
lemma inlines_segment {segment : Text ⊕ Bit (Nat × Text)}
    (htag : ∀ tag, segment = .inl tag →
      Throughout (fun t => ∀ before, element "c".toList before t = none) tag)
    (hready : ∀ b, segment = .inr b → b.Ready s) :
    (∃ row s', Inlines s (mixedSource [segment]) row s' ∧
      row.map (Piece.map Prod.snd) = mixedShown [segment.map id (Bit.map Prod.snd)] ∧
      s'.items.length ≤ s.items.length + codes [segment]) ∨
    s.Overfull ∧ Chokes s (mixedSource [segment]) := by
  have hsource : mixedSource [segment] = Sum.elim (List.map .plain) Bit.source segment :=
    List.flatMap_singleton _ _
  have hshown : mixedShown [segment.map id (Bit.map Prod.snd)] =
      Sum.elim (List.map .plain) Bit.shown (segment.map id (Bit.map Prod.snd)) :=
    List.flatMap_singleton _ _
  rw [hsource, hshown]
  cases segment with
  | inl tag =>
    refine .inl ⟨tag.map .plain, s, .of_none ?_ fun y hy => ?_, ?_, Nat.le_add_right _ _⟩
    · exact (withTokens_map_plain tag).symm ▸ htag tag rfl
    · simp at hy
    · rw [List.map_map]
      rfl
  | inr b =>
    have hb := hready b rfl
    cases b with
    | piece p =>
      have hlt := lt_not_mem_withTokens hb.tags
      refine .inl ⟨[p], s, .of_none ?_ fun y hy => (hb.items y hy).1, rfl, Nat.le_add_right _ _⟩
      refine throughout_of_head fun c hc t before => ?_
      rw [element, afterOpen?_of_ne fun heq => hlt (heq ▸ hc)]
      rfl
    | code inner => exact hb.inlines_code

/-- Inline code between tags and bits is taken out where it stands. -/
lemma inlines_mixed {bits : List (Text ⊕ Bit (Nat × Text))}
    (htags : ∀ tag, .inl tag ∈ bits →
      Throughout (fun t => ∀ before, element "c".toList before t = none) tag)
    (hready : ∀ b, .inr b ∈ bits → b.Ready s) :
    (∃ row s', Inlines s (mixedSource bits) row s' ∧
      row.map (Piece.map Prod.snd) = mixedShown (bits.map (Sum.map id (Bit.map Prod.snd)))) ∨
    10 ^ Numeral.maxDigits < s.items.length + codes bits ∧ Chokes s (mixedSource bits) := by
  induction bits generalizing s with
  | nil => exact .inl ⟨[], s, .nil s, rfl⟩
  | cons segment bits ih =>
    have hcons : mixedSource (segment :: bits) = mixedSource [segment] ++ mixedSource bits := by
      simp [mixedSource]
    have hcount : codes (segment :: bits) = codes [segment] + codes bits := by
      rw [codes, ← List.singleton_append, List.countP_append]
      rfl
    rw [hcons, hcount]
    rcases @inlines_segment s segment (fun tag h => htags tag (by simp [h]))
      (fun b h => hready b (by simp [h])) with ⟨row, s', hrow, hshown, hsize⟩ | ⟨hfull, l, hl⟩
    -- The stash only grows, so the bits that follow are ready for what it is now.
    · rcases @ih s' (fun tag h => htags tag (List.mem_cons_of_mem _ h))
        (fun b h => (hready b (List.mem_cons_of_mem _ h)).mono hrow.kept)
        with ⟨more, s'', hmore, hrest⟩ | ⟨hfull, l, hl⟩
      · refine .inl ⟨row ++ more, s'', hrow.append hmore, ?_⟩
        rw [List.map_append, hshown, hrest]
        simp [mixedShown]
      · refine .inr ⟨by omega, l, fun before rest => ?_⟩
        obtain ⟨place, hplace⟩ := hrow.takes before (withTokens (mixedSource bits) ++ rest)
        rw [withTokens_append, List.append_assoc, hplace]
        exact hl place rest
    · refine .inr ⟨Nat.lt_of_lt_of_le hfull (Nat.le_add_right _ _), l, fun before rest => ?_⟩
      rw [withTokens_append, List.append_assoc]
      exact hl before _

/-! ### Taking all code out -/

/-- If nothing is found, then nothing begins anywhere. -/
lemma none_of_findsOf_eq_nil {m : Recogniser α}
    (hm : ∀ {before t a rest}, m before t = some (a, rest) → rest.length < t.length)
    (h : findsOf (pieces m before t) = []) {a v : Text} {c : Char} (ht : t = a ++ c :: v) :
    m (a.getLast?.or before) (c :: v) = none := by
  have hnone {before : Option Char} {c : Char} {v : Text}
      (h : findsOf (pieces m before (c :: v)) = []) : m before (c :: v) = none := by
    rw [Option.eq_none_iff_forall_ne_some]
    rintro ⟨x, rest⟩ hfound
    have hlength := hm hfound
    rw [List.length_cons] at hlength
    rw [pieces, hfound] at h
    dsimp only at h
    rw [if_pos (by omega)] at h
    cases h
  induction a generalizing t before with
  | nil =>
    subst ht
    exact hnone h
  | cons d a ih =>
    rw [ht, List.cons_append] at h
    rw [pieces_cons_of_none (hnone h), findsOf_plain] at h
    rw [getLast?_cons_or]
    exact ih h rfl

lemma length_lt_of_fence {f : Fence} (h : fence before t = some (f, rest)) :
    rest.length < t.length := by
  obtain ⟨after, inner, lines, hmarker, hinner, hlines, -⟩ := fence_eq_some h
  have hrest := (linesToClosing?_subset hlines).2.length_le
  have hafter := hinner.length_le
  have hlead : leads after < leads t := leads_afterMarker?_lt hmarker
  obtain ⟨u, rfl⟩ := afterMarker?_suffix hmarker
  have hne : u ≠ [] := by
    rintro rfl
    exact Nat.lt_irrefl _ hlead
  have hpos := List.length_pos_iff.2 hne
  rw [List.length_append]
  omega

/-- The source of a readable text is the text. -/
lemma Readable.written_source {bits : List (Text ⊕ Bit Text)} (h : Readable t bits) :
    written id (mixedSource bits) = t := by
  rw [← h.spans]
  exact flatMap_pieces reads_codeSpan

lemma Readable.tokenOpen_not_mem {bits : List (Text ⊕ Bit Text)} (h : Readable t bits)
    (hmarks : Unmarked t) {piece : Piece Text} (hpiece : piece ∈ mixedSource bits) :
    tokenOpen ∉ piece.text id := by
  intro hmark
  refine (unmarked_iff.1 hmarks).1 ?_
  rw [← h.written_source]
  exact List.mem_flatMap.2 ⟨piece, hpiece, hmark⟩

lemma content_subset_source (b : Bit α) : b.content ⊆ b.source := by
  cases b with
  | piece p => exact List.Subset.refl _
  | code inner =>
    exact List.Subset.trans (List.subset_append_right _ _) (List.subset_append_left _ _)

lemma mem_mixedSource {bits : List (Text ⊕ Bit α)} {b : Bit α} {piece : Piece α}
    (hb : .inr b ∈ bits) (h : piece ∈ b.content) : piece ∈ mixedSource bits :=
  List.mem_flatMap.2 ⟨.inr b, hb, content_subset_source b h⟩

/-- Every piece of inline code has a tag. -/
lemma codes_le_leads (bits : List (Text ⊕ Bit (Nat × Text))) :
    codes bits ≤ leads (withTokens (mixedSource bits)) := by
  induction bits with
  | nil => exact Nat.zero_le _
  | cons segment bits ih =>
    have hcons : mixedSource (segment :: bits) =
        Sum.elim (List.map .plain) Bit.source segment ++ mixedSource bits := by
      simp [mixedSource]
    rw [hcons, withTokens_append, leads_append, codes, List.countP_cons]
    match segment with
    | .inl tag => exact Nat.le_add_left_of_le ih
    | .inr (.piece p) => exact Nat.le_add_left_of_le ih
    | .inr (.code inner) =>
      have hpos : 1 ≤ leads (withTokens (Bit.code inner).source) := by
        have hsource : withTokens (Bit.code inner).source =
            '<' :: ("c>".toList ++ withTokens inner ++ closeTag "c".toList) := by
          simp [Bit.source, withTokens, written_map_plain, openTag, Piece.text]
        rw [hsource, leads_lt]
        omega
      simp only [Sum.elim_inr, Bit.isCode, if_true]
      rw [codes] at ih
      omega

/-- Of a readable text, its spans are taken out. -/
lemma Readable.spanned_eq {bits : List (Text ⊕ Bit Text)} (h : Readable (dropTokenMarks t) bits) :
    spanned resolver t =
      (withTokens (number 0 (mixedSource bits)), ⟨findsOf (mixedSource bits)⟩) := by
  rw [← h.spans]
  refine spanned_of_quiet (fun a c v ht => ?_) fun a c v ht => ?_
  · have hnone := none_of_findsOf_eq_nil length_lt_of_fence h.fences ht
    rwa [Option.or_none] at hnone
  · exact h.quiet _ ((List.mem_tails _ _).2 ⟨a, ht.symm⟩)

lemma Readable.ready {bits : List (Text ⊕ Bit Text)} (h : Readable (dropTokenMarks t) bits)
    {marked : List (Text ⊕ Bit (Nat × Text))}
    (hmarked : mixedSource marked = number 0 (mixedSource bits))
    (hbits : marked.map (Sum.map id (Bit.map Prod.snd)) = bits) {b : Bit (Nat × Text)}
    (hb : .inr b ∈ marked) : b.Ready ⟨findsOf (mixedSource bits)⟩ := by
  have hmem {piece : Piece (Nat × Text)} (hpiece : piece ∈ b.content) :
      piece ∈ number 0 (mixedSource bits) := hmarked ▸ mem_mixedSource hb hpiece
  have hopen {piece : Piece Text} :=
    @Readable.tokenOpen_not_mem _ _ h (unmarked_dropTokenMarks t) piece
  have hshape : .inr (b.map Prod.snd) ∈ bits := by
    rw [← hbits]
    exact List.mem_map_of_mem (f := Sum.map id (Bit.map Prod.snd)) hb
  refine ⟨fun hlt => h.tags _ hshape ?_, fun hmark => ?_, fun y hy => ?_⟩
  · cases b with
    | piece p => exact List.mem_map_of_mem (f := Piece.map Prod.snd) hlt
    | code inner => exact List.mem_map_of_mem (f := Piece.map Prod.snd) hlt
  · exact hopen (plain_mem_of_number (hmem hmark)) List.mem_cons_self
  · obtain ⟨i, hi, hitem⟩ := getElem?_of_number (hmem hy)
    rw [hi, Nat.zero_add]
    exact ⟨hitem, hopen (mem_findsOf.1 (List.mem_of_getElem? hitem))⟩

/-- **Code is taken out of a readable text.** What is left is the text as it is shown, with tokens
for its code. -/
theorem takenOut_mixed {bits : List (Text ⊕ Bit Text)} (h : Readable (dropTokenMarks t) bits)
    (htags : ∀ tag, .inl tag ∈ bits →
      Throughout (fun t => ∀ before, element "c".toList before t = none) tag) :
    (∃ row s, takenOut resolver t = (withTokens row, .ok s) ∧ s.Holds row ∧
      row.map (Piece.map Prod.snd) = mixedShown bits) ∨
    10 ^ Numeral.maxDigits < t.length ∧
      ∃ l, (takenOut resolver t).2 = .error (.fault (.longInteger l)) := by
  -- With numbers for the spans there are the same tags and bits.
  obtain ⟨marked, hmarked, hbits⟩ := exists_mixedSource (map_snd_number 0 (mixedSource bits))
  have hspanned := @Readable.spanned_eq resolver t bits h
  have hsize := size_spanned_le resolver t
  have hcodes := codes_le_leads marked
  rw [hspanned] at hsize
  rw [hmarked] at hcodes
  have htaken : takenOut resolver t = inlined (.ok ⟨findsOf (mixedSource bits)⟩) none
      (withTokens (mixedSource marked)) := by
    rw [takenOut_eq_weave, hspanned, hmarked]
    rfl
  have htag : ∀ tag, .inl tag ∈ marked →
      Throughout (fun t => ∀ before, element "c".toList before t = none) tag := by
    intro tag hmem
    refine htags tag ?_
    rw [← hbits]
    exact List.mem_map_of_mem (f := Sum.map id (Bit.map Prod.snd)) hmem
  rw [htaken]
  rcases inlines_mixed htag fun b hb => h.ready hmarked hbits hb with ⟨row, s, hrow, hshown⟩ | ⟨hmany, l, hl⟩
  · obtain ⟨place, hplace⟩ := hrow.takes none []
    refine .inl ⟨row, s, ?_, hrow.holds, by rw [hshown, hbits]⟩
    simpa [inlined, pieces, weave] using hplace
  · refine .inr ⟨?_, l, by simpa using hl none []⟩
    simp only [Stash.size] at hsize hmany
    omega

/-! ### What is shown -/

/-- What may be shown: text without tags and marks, and code that begins with a backtick and is
within a line. -/
def IsShown : Piece Text → Prop
  | .plain c => c ≠ '<' ∧ c ≠ tokenOpen
  | .found x => x.head? = some '`' ∧ '\n' ∉ x ∧ tokenOpen ∉ x

lemma isShown_inlineSpan {code : Text} (hline : '\n' ∉ code) (hopen : tokenOpen ∉ code) :
    IsShown (.found (inlineSpan code)) := by
  refine ⟨?_, ?_, tokenOpen_not_mem_inlineSpan hopen⟩
  · unfold inlineSpan
    split <;> rfl
  · unfold inlineSpan
    split <;> simpa using hline

/-- The text of inline code is that of its pieces but for line feeds between spans. -/
lemma of_mem_inlineCode {inner : List (Piece Text)} {c : Char}
    (h : c ∈ written id (joinLines inner)) :
    c = ' ' ∨ ∃ piece ∈ inner, c ∈ piece.text id ∧ piece ≠ .plain '\n' := by
  obtain ⟨piece, hpiece, hmem⟩ := List.mem_flatMap.1 h
  cases piece with
  | plain d =>
    obtain rfl : c = d := List.mem_singleton.1 hmem
    refine (of_mem_joinLines hpiece).imp_right fun ⟨hin, hfeed⟩ => ⟨_, hin, hmem, ?_⟩
    exact fun heq => hfeed (Piece.plain.inj heq)
  | found x =>
    rw [← mem_findsOf, findsOf_joinLines, mem_findsOf] at hpiece
    exact .inr ⟨_, hpiece, hmem, by simp⟩

lemma Readable.isShown {bits : List (Text ⊕ Bit Text)} (h : Readable t bits) (hmarks : Unmarked t)
    {b : Bit Text} (hb : .inr b ∈ bits) {piece : Piece Text} (hpiece : piece ∈ b.shown) :
    IsShown piece := by
  have hopen {piece : Piece Text} (hmem : piece ∈ b.content) : tokenOpen ∉ piece.text id :=
    h.tokenOpen_not_mem hmarks (mem_mixedSource hb hmem)
  have hspan {x : Text} (hmem : .found x ∈ b.content) : IsSpan x := by
    have hsource := mem_mixedSource hb hmem
    rw [← h.spans] at hsource
    exact isSpan_of_found_mem hsource
  have htags := h.tags b hb
  cases b with
  | piece p =>
    obtain rfl := List.mem_singleton.1 hpiece
    have hmark := hopen List.mem_cons_self
    cases piece with
    | plain c =>
      refine ⟨fun hc => htags ?_, fun hc => hmark ?_⟩
      · exact hc ▸ List.mem_cons_self
      · exact hc ▸ List.mem_cons_self
    | found x =>
      have hx := hspan List.mem_cons_self
      exact ⟨hx.head?, hx.line.1, hmark⟩
  | code inner =>
    rw [Bit.shown] at hpiece
    split at hpiece
    · cases hpiece
    · obtain rfl := List.mem_singleton.1 hpiece
      refine isShown_inlineSpan (fun hfeed => ?_) fun hmark => ?_
      · rcases of_mem_inlineCode hfeed with heq | ⟨piece, hin, hmem, hne⟩
        · exact absurd heq (by decide)
        · cases piece with
          | plain c => exact hne (congrArg Piece.plain (List.mem_singleton.1 hmem).symm)
          | found x => exact (hspan hin).line.1 hmem
      · rcases of_mem_inlineCode hmark with heq | ⟨piece, hin, hmem, -⟩
        · exact absurd heq (by decide)
        · exact hopen hin hmem

end LinkedDocs.Markup
