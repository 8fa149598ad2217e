import LinkedDocs.Proofs.Passes
import Mathlib.Algebra.GroupWithZero.Nat

/-!
# The size of a stash

What the passes that stash texts find begins with an angle bracket or has a backtick, and what they
put in its place has fewer of these characters. So a stash never has more texts than the original
text has characters.
-/

namespace LinkedDocs.Markup

open Text

variable {α σ : Type} {m : Recogniser α} {cost : α → Nat} {before : Option Char}
  {t u rest name : Text}

/-! ### Counting -/

/-- The number of angle brackets and backticks that a find may take. -/
def leads (t : Text) : Nat :=
  t.countP fun c => c == '<' || c == '`'

lemma leads_append : leads (t ++ u) = leads t + leads u :=
  List.countP_append

lemma leads_lt (t : Text) : leads ('<' :: t) = leads t + 1 :=
  List.countP_cons_of_pos rfl

lemma leads_tick (t : Text) : leads ('`' :: t) = leads t + 1 :=
  List.countP_cons_of_pos rfl

lemma leads_le_of_sublist (h : u.Sublist t) : leads u ≤ leads t :=
  h.countP_le

lemma leads_strip_le (t : Text) : leads (strip t) ≤ leads t :=
  leads_le_of_sublist (isInfix_strip t).sublist

lemma leads_token (k : Nat) : leads (token k) = 0 := by
  refine List.countP_eq_zero.2 fun c hc => ?_
  have hseam := isSeam_of_mem_token hc
  rw [Bool.or_eq_true, beq_iff_eq, beq_iff_eq]
  rintro (rfl | rfl)
  · exact absurd hseam (by decide)
  · exact absurd hseam (by decide)

/-- What a find costs and what it leaves were there before. -/
def Spends (m : Recogniser α) (cost : α → Nat) : Prop :=
  ∀ {before t a rest}, m before t = some (a, rest) → cost a + leads rest ≤ leads t

/-- The cost of pieces. -/
def costs (cost : α → Nat) (ps : List (Piece α)) : Nat :=
  (ps.map fun
    | .plain c => leads [c]
    | .found a => cost a).sum

lemma Spends.costs_pieces_le (h : Spends m cost) : costs cost (pieces m before t) ≤ leads t := by
  have hcons (c : Char) (cs : Text) : leads (c :: cs) = leads [c] + leads cs :=
    @leads_append [c] cs
  fun_induction pieces m before t with
  | case1 => exact Nat.le_refl 0
  | case2 before c cs a rest hfound hlen ih =>
    have hspent := h hfound
    simp only [costs, List.map_cons, List.sum_cons] at ih ⊢
    omega
  | case3 before c cs a rest hfound hlen ih =>
    simp only [costs, List.map_cons, List.sum_cons, hcons c cs] at ih ⊢
    omega
  | case4 before c cs hnone ih =>
    simp only [costs, List.map_cons, List.sum_cons, hcons c cs] at ih ⊢
    omega

/-- What is stashed and what is left in the text is paid for by the pieces. -/
theorem size_weave_le {image : σ → α → Text × σ} (size : σ → Nat)
    (hstep : ∀ s a, size (image s a).2 + leads (image s a).1 ≤ size s + cost a) (s : σ)
    (ps : List (Piece α)) :
    size (weave image s ps).2 + leads (weave image s ps).1 ≤ size s + costs cost ps := by
  induction ps generalizing s with
  | nil => exact Nat.le_refl _
  | cons piece ps ih =>
    cases piece with
    | plain c =>
      have hrest := ih s
      have hcons := @leads_append [c] (weave image s ps).1
      simp only [weave, costs, List.map_cons, List.sum_cons, List.singleton_append] at hrest hcons ⊢
      omega
    | found a =>
      have hrest := ih (image s a).2
      have hone := hstep s a
      simp only [weave, costs, List.map_cons, List.sum_cons, leads_append] at hrest ⊢
      omega

lemma Spends.size_replaceWith_le {image : σ → α → Text × σ} (size : σ → Nat) (h : Spends m cost)
    (hstep : ∀ s a, size (image s a).2 + leads (image s a).1 ≤ size s + cost a) (s : σ) (t : Text) :
    size (replaceWith m image s t).2 + leads (replaceWith m image s t).1 ≤ size s + leads t := by
  rw [replaceWith_eq_weave]
  exact Nat.le_trans (size_weave_le size hstep s _) (Nat.add_le_add_left h.costs_pieces_le _)

lemma Spends.leads_replace_le {image : α → Text} (h : Spends m cost)
    (himage : ∀ a, leads (image a) ≤ cost a) (t : Text) : leads (replace m image t) ≤ leads t := by
  have hpieces (ps : List (Piece α)) :
      leads (ps.flatMap (Piece.text image)) ≤ costs cost ps := by
    induction ps with
    | nil => exact Nat.le_refl _
    | cons piece ps ih =>
      rw [List.flatMap_cons, leads_append]
      cases piece with
      | plain c => exact Nat.add_le_add_left ih _
      | found a => exact Nat.add_le_add (himage a) ih
  exact Nat.le_trans (hpieces _) h.costs_pieces_le

/-! ### What finds take -/

lemma afterName?_suffix (h : afterName? name t = some rest) : rest <:+ t := by
  induction name generalizing t with
  | nil =>
    obtain rfl := Option.some.inj h
    exact List.suffix_rfl
  | cons p name ih =>
    cases t with
    | nil => cases h
    | cons c t =>
      rw [Text.afterName?] at h
      split at h
      · exact (ih h).trans (List.suffix_cons c t)
      · cases h

lemma afterTagEnd?_suffix (h : afterTagEnd? t = some rest) : rest <:+ t := by
  unfold afterTagEnd? at h
  split at h
  case h_1 rest' heq =>
    obtain rfl := Option.some.inj h
    have hsuffix : rest' <:+ stripLeft t := heq ▸ List.suffix_cons '>' rest'
    exact hsuffix.trans (List.dropWhile_suffix _)
  · cases h

lemma afterEmptyTagEnd?_suffix (h : afterEmptyTagEnd? t = some rest) : rest <:+ t := by
  unfold afterEmptyTagEnd? at h
  split at h
  case h_1 rest' heq =>
    obtain rfl := Option.some.inj h
    have hsuffix : rest' <:+ stripLeft t := heq ▸ List.suffix_append [ '/', '>'] rest'
    exact hsuffix.trans (List.dropWhile_suffix _)
  · cases h

lemma afterClose?_suffix (h : afterClose? name t = some rest) : rest <:+ t := by
  unfold afterClose? at h
  split at h
  case h_1 cs =>
    obtain ⟨rest', hname, hend⟩ := Option.bind_eq_some_iff.1 h
    have hcs : cs <:+ '<' :: '/' :: cs := List.suffix_append [ '<', '/'] cs
    exact ((afterTagEnd?_suffix hend).trans (afterName?_suffix hname)).trans hcs
  · cases h

lemma afterMatchingClose?_suffix (h : afterMatchingClose? name t = some rest) : rest <:+ t := by
  unfold afterMatchingClose? at h
  split at h
  case h_1 cs =>
    split at h
    · have hcs : cs <:+ '<' :: '/' :: cs := List.suffix_append [ '<', '/'] cs
      exact ((afterTagEnd?_suffix h).trans (List.drop_suffix _ _)).trans hcs
    · cases h
  · cases h

lemma leads_upTo?_le {stop? : Text → Option Text} {body : Text}
    (hstop : ∀ {t rest}, stop? t = some rest → rest <:+ t)
    (h : upTo? stop? t = some (body, rest)) : leads body + leads rest ≤ leads t := by
  obtain ⟨tail, rfl, htail⟩ := upTo?_eq_some h
  rw [leads_append]
  exact Nat.add_le_add_left (leads_le_of_sublist (hstop htail).sublist) _

lemma spends_element : Spends (element name) fun _ => 1 := by
  intro before t inner rest h
  obtain ⟨rest', hopen, hbody⟩ := Option.bind_eq_some_iff.1 h
  have hrest := leads_upTo?_le afterClose?_suffix hbody
  unfold afterOpen? at hopen
  split at hopen
  case h_1 cs =>
    obtain ⟨rest'', hname, hend⟩ := Option.bind_eq_some_iff.1 hopen
    have hsuffix := (afterTagEnd?_suffix hend).trans (afterName?_suffix hname)
    have hcs := leads_le_of_sublist hsuffix.sublist
    rw [leads_lt]
    dsimp only
    omega
  · cases hopen

lemma leads_afterMarker?_lt (h : afterMarker? t = some rest) : leads rest < leads t := by
  have hdrop := leads_le_of_sublist (List.dropWhile_sublist isIndent (l := t))
  unfold afterMarker? at h
  split at h
  case h_1 heq =>
    obtain rfl := Option.some.inj h
    rw [heq, leads_tick, leads_tick, leads_tick] at hdrop
    omega
  · cases h

lemma spends_codeRegion : Spends codeRegion fun _ => 1 := by
  intro before t region rest h
  rcases Option.or_eq_some_iff.1 h with h | ⟨-, h⟩
  · obtain ⟨⟨f, rest'⟩, hfence, heq⟩ := Option.map_eq_some_iff.1 h
    obtain ⟨-, rfl⟩ := Prod.mk.inj heq
    obtain ⟨after, inner, lines, hmarker, hinner, hlines, -⟩ := fence_eq_some hfence
    have hrest := leads_le_of_sublist ((linesToClosing?_subset hlines).2.trans hinner).sublist
    have hafter := leads_afterMarker?_lt hmarker
    dsimp only
    omega
  · obtain ⟨⟨e, rest'⟩, helement, heq⟩ := Option.map_eq_some_iff.1 h
    obtain ⟨-, rfl⟩ := Prod.mk.inj heq
    obtain ⟨cs, tag, d, inner, rfl, hname, -, hdrop, hbody⟩ := codeElement_eq_some helement
    have hrest := leads_upTo?_le afterClose?_suffix hbody
    have hinner : inner <:+ tag :=
      (hdrop ▸ List.suffix_cons d inner).trans (List.dropWhile_suffix (· != '>'))
    have hcs := leads_le_of_sublist (hinner.trans (afterName?_suffix hname)).sublist
    rw [leads_lt]
    dsimp only
    omega

lemma spends_codeSpan : Spends codeSpan fun _ => 1 := by
  intro before t span rest h
  obtain ⟨rfl, hspan, -⟩ := codeSpan_eq_some h
  obtain ⟨cs, rfl⟩ := List.head?_eq_some_iff.1 hspan.head?
  rw [leads_append, leads_tick]
  dsimp only
  omega

/-! ### What references take -/

/-- What a reference costs: its tag, and what its value and its label hold. -/
def tagCost (tag : TagReference) : Nat :=
  leads tag.value + leads (tag.label.getD []) + 1

/-- The label and the rest of a reference were there before. -/
def SpendsLabel (body? : Text → Option (Option Text × Text)) : Prop :=
  ∀ {t label rest}, body? t = some (label, rest) → leads (label.getD []) + leads rest ≤ leads t

lemma spendsLabel_labelled (spelling : Text) : SpendsLabel (labelled spelling) := by
  intro t label rest h
  obtain ⟨⟨body, rest'⟩, hbody, heq⟩ := Option.map_eq_some_iff.1 h
  obtain ⟨rfl, rfl⟩ := Prod.mk.inj heq
  exact leads_upTo?_le afterMatchingClose?_suffix hbody

lemma spendsLabel_none {close? : Text → Option Text}
    (hclose : ∀ {t rest}, close? t = some rest → rest <:+ t) :
    SpendsLabel fun t => (close? (stripLeft t)).map (none, ·) := by
  intro t label rest h
  obtain ⟨rest', hrest, heq⟩ := Option.map_eq_some_iff.1 h
  obtain ⟨rfl, rfl⟩ := Prod.mk.inj heq
  have hle := leads_le_of_sublist ((hclose hrest).trans (List.dropWhile_suffix _)).sublist
  rwa [Option.getD_none, leads, List.countP_nil, Nat.zero_add]

lemma spendsLabel_tagRest? {body? : Text → Option (Option Text × Text)}
    (hbody : SpendsLabel body?) : SpendsLabel (tagRest? body?) := by
  intro t label rest h
  unfold tagRest? at h
  split at h
  case h_1 hend =>
    obtain ⟨rfl, rfl⟩ := Prod.mk.inj (Option.some.inj h)
    have hle := leads_le_of_sublist (afterEmptyTagEnd?_suffix hend).sublist
    rwa [Option.getD_none, leads, List.countP_nil, Nat.zero_add]
  · obtain ⟨rest', hend, hread⟩ := Option.bind_eq_some_iff.1 h
    exact Nat.le_trans (hbody hread) (leads_le_of_sublist (afterTagEnd?_suffix hend).sublist)

lemma leads_quotedAndRest?_le {body? : Text → Option (Option Text × Text)} {tag : TagReference}
    (hbody : SpendsLabel body?) (h : quotedAndRest? body? t = some (tag, rest)) :
    leads tag.value + leads (tag.label.getD []) + leads rest ≤ leads t := by
  unfold quotedAndRest? at h
  split at h
  case h_1 quote cs =>
    split at h
    · obtain ⟨tail, rfl, hread⟩ := valueAndRest?_eq_some h
      have hlabel := spendsLabel_tagRest? hbody hread
      have htail := leads_le_of_sublist (List.sublist_cons_self quote tail)
      have hcs := leads_le_of_sublist
        (List.sublist_cons_self quote (tag.value ++ quote :: tail))
      rw [leads_append] at hcs
      omega
    · cases h
  · cases h

lemma afterNameAndBlank?_suffix (h : afterNameAndBlank? name t = some rest) : rest <:+ t := by
  unfold afterNameAndBlank? at h
  split at h
  case h_1 c cs hname =>
    split at h
    · obtain rfl := Option.some.inj h
      have hcs : cs <:+ t := (List.suffix_cons c cs).trans (afterName?_suffix hname)
      exact (List.dropWhile_suffix _).trans hcs
    · cases h
  · cases h

lemma afterAttributeName?_suffix (h : afterAttributeName? name t = some rest) : rest <:+ t := by
  unfold afterAttributeName? at h
  split at h
  case h_1 cs hname =>
    obtain rfl := Option.some.inj h
    obtain ⟨after, hafter, heq⟩ := Option.map_eq_some_iff.1 hname
    have hcs : cs <:+ after := (heq ▸ List.suffix_cons '=' cs).trans (List.dropWhile_suffix _)
    exact ((List.dropWhile_suffix _).trans hcs).trans (afterName?_suffix hafter)
  · cases h

lemma spends_referenceTag {names : List Text} {field : Text}
    {body? : Text → Text → Option (Option Text × Text)}
    (hbody : ∀ spelling, SpendsLabel (body? spelling)) :
    Spends (referenceTag names field body?) tagCost := by
  intro before t tag rest h
  unfold referenceTag at h
  split at h
  case h_1 cs =>
    split at h
    case h_1 spelling after htag =>
      obtain ⟨quoted, hattribute, hquoted⟩ := Option.bind_eq_some_iff.1 h
      have hafter : after <:+ cs := by
        obtain ⟨name, -, hmap⟩ := List.exists_of_findSome?_eq_some htag
        obtain ⟨after', hname, heq⟩ := Option.map_eq_some_iff.1 hmap
        obtain ⟨-, rfl⟩ := Prod.mk.inj heq
        exact afterNameAndBlank?_suffix hname
      have hle := leads_le_of_sublist ((afterAttributeName?_suffix hattribute).trans hafter).sublist
      have hvalue := leads_quotedAndRest?_le (hbody spelling) hquoted
      rw [leads_lt, tagCost]
      omega
    · cases h
  · cases h

/-! ### What is stashed -/

/-- The number of texts in a stash. -/
def Stash.size (s : Stash) : Nat :=
  s.items.length

/-- The number of texts in the stash of a progress. -/
def Progress.size (p : Progress) : Nat :=
  p.stash.size

/-- The number of texts in a stash, if there is one. -/
def sizeIfOk : Except NoResult Stash → Nat
  | .ok s => s.size
  | .error _ => 0

lemma size_put (s : Stash) (t : Text) : (s.put t).2.size + leads (s.put t).1 = s.size + 1 := by
  simp [Stash.size, Stash.put, leads_token]

lemma size_stashCode_le (language : Text) (s : Stash) (code : CodeRegion) :
    (stashCode language s code).2.size + leads (stashCode language s code).1 ≤ s.size + 1 := by
  unfold stashCode
  split
  · exact Nat.le_of_eq (size_put s _)
  · dsimp only
    split
    · exact Nat.le_of_eq (size_put s _)
    · split
      · exact Nat.le_add_right _ _
      · have hgap : leads "\n\n".toList = 0 := rfl
        rw [leads_append, leads_append, hgap, Nat.zero_add, Nat.add_zero]
        exact Nat.le_of_eq (size_put s _)

lemma leads_link (label address : Text) :
    leads (Resolution.link label address) = leads label + leads address := by
  have hopen : leads ('[' :: label) = leads label := List.countP_cons_of_neg (by decide)
  have hmiddle : leads "](".toList = 0 := rfl
  have hclose : leads [')'] = 0 := rfl
  rw [Resolution.link, leads_append, leads_append, leads_append, hopen, hmiddle, hclose]
  rfl

lemma leads_labelOf_le (tag : TagReference) : leads (labelOf tag) ≤ leads (tag.label.getD []) :=
  leads_strip_le _

lemma size_stashedLink (p : Progress) (label address : Text) :
    (stashedLink p label address).2.size + leads (stashedLink p label address).1 =
      p.size + leads label + 1 := by
  have hput := size_put p.stash address
  unfold stashedLink
  dsimp only [Progress.size, Progress.put]
  rw [leads_link]
  omega

lemma size_stashSymbol_le (resolver : Resolver) (p : Progress) (tag : TagReference) :
    (stashSymbol resolver p tag).2.size + leads (stashSymbol resolver p tag).1 ≤
      p.size + tagCost tag := by
  have hshown (r : Resolution) :
      ((p.note r).put r.markdown).2.size + leads ((p.note r).put r.markdown).1 ≤
        p.size + tagCost tag := by
    have hput := size_put p.stash r.markdown
    dsimp only [Progress.size, Progress.put, Progress.note, tagCost]
    omega
  unfold stashSymbol
  dsimp only
  split
  · split
    · exact hshown _
    · have hlabel := leads_labelOf_le tag
      rw [size_stashedLink, tagCost]
      dsimp only [Progress.size, Progress.note]
      omega
  · exact hshown _

lemma size_stashLink_le (p : Progress) (tag : TagReference) :
    (stashLink p tag).2.size + leads (stashLink p tag).1 ≤ p.size + tagCost tag := by
  have hname : leads (Resolver.resolveLink tag.value (labelOf tag)).displayName.toText ≤
      leads (tag.label.getD []) := by
    change leads (if (strip (labelOf tag)).isEmpty then "link".toList else strip (labelOf tag)) ≤ _
    split
    · exact Nat.zero_le _
    · exact Nat.le_trans (leads_strip_le _) (leads_labelOf_le tag)
  unfold stashLink
  dsimp only
  rw [size_stashedLink, tagCost]
  dsimp only [Progress.size, Progress.note]
  omega

lemma size_stashKeyword_le (p : Progress) (tag : TagReference) :
    (stashKeyword p tag).2.size + leads (stashKeyword p tag).1 ≤ p.size + tagCost tag := by
  have hput := size_put p.stash (Resolver.resolveKeyword tag.value).markdown
  dsimp only [stashKeyword, Progress.size, Progress.put, Progress.note, tagCost]
  omega

lemma leads_italicParameter_le (tag : TagReference) :
    leads (italicParameter tag) ≤ tagCost tag := by
  have hstrip := leads_strip_le tag.value
  have hopen : leads ('*' :: strip tag.value) = leads (strip tag.value) :=
    List.countP_cons_of_neg (by decide)
  have hclose : leads ['*'] = 0 := rfl
  rw [italicParameter, leads_append, hopen, hclose, tagCost]
  omega

theorem size_stashReferences_le (resolver : Resolver) (p : Progress) (t : Text) :
    (stashReferences resolver p t).2.size + leads (stashReferences resolver p t).1 ≤
      p.size + leads t := by
  have hsymbol : Spends symbolTag tagCost := spends_referenceTag spendsLabel_labelled
  have hlink : Spends linkTag tagCost := spends_referenceTag spendsLabel_labelled
  have hkeyword : Spends keywordTag tagCost :=
    spends_referenceTag fun _ => spendsLabel_none afterClose?_suffix
  have hparameter : Spends parameterTag tagCost :=
    spends_referenceTag fun _ => spendsLabel_none afterMatchingClose?_suffix
  refine Nat.le_trans (Nat.add_le_add_left
    (hparameter.leads_replace_le leads_italicParameter_le _) _) ?_
  refine Nat.le_trans (hkeyword.size_replaceWith_le Progress.size size_stashKeyword_le _ _) ?_
  refine Nat.le_trans (hlink.size_replaceWith_le Progress.size size_stashLink_le _ _) ?_
  exact hsymbol.size_replaceWith_le Progress.size (size_stashSymbol_le resolver) p t

lemma size_stashInline_le (s : Except NoResult Stash) (inner : Text) :
    sizeIfOk (stashInline s inner).2 + leads (stashInline s inner).1 ≤ sizeIfOk s + 1 := by
  cases s with
  | error fault => exact Nat.zero_le _
  | ok s =>
    unfold stashInline
    dsimp only
    split
    · exact Nat.le_add_right _ _
    · split
      · exact Nat.zero_le _
      · exact Nat.le_of_eq (size_put s _)

end LinkedDocs.Markup
