import LinkedDocs.Proofs.CodeElements
import LinkedDocs.Proofs.ListMarkup
import LinkedDocs.Proofs.Words

/-!
# Bullet and numbered lists

A list that is no table has a line for each item with some text: the words of its description, or
else of its term. The lines are numbered, or each has a bullet. Main statement: a list is rendered
as these lines, whatever stands beside its tags, and one without such an item as nothing.
-/

namespace LinkedDocs.Markup

open Text

variable {w t u : Text} {c : Char} {before : Option Char} {word : Option Text}

/-! ### The type of a list -/

/-- The attributes of a list with a type, or without one. -/
def typeAttributes : Option Text → Text
  | none => []
  | some word => ' ' :: ("type=\"".toList ++ (word ++ ['"']))

/-- The kind that a type names, in capitals or not and with blanks around it. Any other type is that
of a bullet list, and so is none. -/
def namedKind : Option Text → ListKind
  | none => .bullet
  | some word => .ofText (lower (strip word))

def isQuote (c : Char) : Bool :=
  c == '"' || c == '\''

lemma typeAttribute_of_ne (hc : letter c ≠ letter 't') : typeAttribute before (c :: t) = none := by
  have hname : afterAttributeName? "type".toList (c :: t) = none := by
    have hnone : afterName? "type".toList (c :: t) = none := if_neg hc
    rw [afterAttributeName?, hnone]
    rfl
  rw [typeAttribute, hname]
  split <;> rfl

lemma suffix_of_afterAttributeName? {name rest : Text}
    (h : afterAttributeName? name t = some rest) : rest <:+ t := by
  unfold afterAttributeName? at h
  split at h
  · rename_i after hafter
    obtain ⟨u, hu, hstrip⟩ := Option.map_eq_some_iff.1 hafter
    obtain ⟨spelling, rfl, -⟩ := exists_of_afterName? hu
    obtain rfl : stripLeft after = rest := Option.some.inj h
    have hequals : '=' :: after <:+ u := hstrip ▸ List.dropWhile_suffix _
    exact (List.dropWhile_suffix _).trans
      ((List.suffix_cons _ _).trans (hequals.trans (List.suffix_append _ _)))
  · cases h

lemma mem_of_mem_behindWord (h : c ∈ stripLeft ((stripLeft t).dropWhile isWord)) : c ∈ t :=
  (List.dropWhile_suffix _).subset
    ((List.dropWhile_suffix _).subset ((List.dropWhile_suffix _).subset h))

/-- A type stands between two quotes. -/
lemma two_le_countP_of_typeAttribute {x : Text × Text} (h : typeAttribute before t = some x) :
    2 ≤ t.countP isQuote := by
  unfold typeAttribute at h
  split at h
  · cases h
  split at h
  · rename_i quote cs hname
    dsimp only at h
    split at h
    · rename_i word d ds close rest hword hclose
      split at h
      · rename_i hquotes
        obtain ⟨hquote, hclosing⟩ : isQuote quote = true ∧ isQuote close = true := by
          simpa [isQuote] using hquotes
        have hsuffix := suffix_of_afterAttributeName? hname
        have hmem : close ∈ cs := mem_of_mem_behindWord (hclose ▸ List.mem_cons_self)
        have hcount : 0 < cs.countP isQuote := List.countP_pos_iff.2 ⟨close, hmem, hclosing⟩
        have hle := hsuffix.sublist.countP_le (p := isQuote)
        rw [List.countP_cons_of_pos hquote] at hle
        omega
      · cases h
    · cases h
  · cases h

lemma takeWhile_concat {p : Char → Bool} {d : Char} (hd : p d = false) (t : Text) :
    (t ++ [d]).takeWhile p = t.takeWhile p := by
  induction t with
  | nil => simp [hd]
  | cons c t ih => cases hc : p c <;> simp [hc, ih]

lemma dropWhile_concat {p : Char → Bool} {d : Char} (hd : p d = false) (t : Text) :
    (t ++ [d]).dropWhile p = t.dropWhile p ++ [d] := by
  induction t with
  | nil => simp [hd]
  | cons c t ih => cases hc : p c <;> simp [hc, ih]

/-- Something is left behind the first word of a text that is no word. -/
lemma behindWord_ne_nil (h : ¬(strip t).all isWord = true) :
    stripLeft ((stripLeft t).dropWhile isWord) ≠ [] := by
  intro hnil
  obtain ⟨gap, hgap, -⟩ := exists_stripLeft_eq t
  have hall := List.dropWhile_eq_nil_iff.1 hnil
  have hdrop : (strip t).dropWhile isWord ≠ [] := fun hdrop =>
    h (List.all_eq_true.2 (List.dropWhile_eq_nil_iff.1 hdrop))
  rw [hgap, List.dropWhile_append, if_neg (by simpa using hdrop)] at hall
  -- The last character of what is stripped is no blank.
  have hlast : isBlank (((strip t).dropWhile isWord).getLast hdrop) = false := by
    apply (trimmed_strip t).2
    obtain ⟨p, hp⟩ := List.dropWhile_suffix isWord (l := strip t)
    rw [Option.mem_def, ← List.getLast?_eq_some_getLast hdrop]
    conv_lhs => rw [← hp]
    exact List.getLast?_append_of_ne_nil p hdrop
  rw [hall _ (List.mem_append_left _ (List.getLast_mem hdrop))] at hlast
  cases hlast

/-- A type is read if it is a word, with blanks around it. -/
lemma typeAttribute_type (hquotes : ∀ c ∈ w, isQuote c = false) :
    typeAttribute (some ' ') ("type=\"".toList ++ (w ++ ['"'])) =
      if strip w ≠ [] ∧ (strip w).all isWord then some (strip w, []) else none := by
  have hname : afterAttributeName? "type".toList ("type=\"".toList ++ (w ++ ['"'])) =
      some ('"' :: (w ++ ['"'])) := rfl
  have hquote : isBlank '"' = false ∧ isWord '"' = false := by decide
  have hleft : stripLeft (w ++ ['"']) = stripLeft w ++ ['"'] := dropWhile_concat hquote.1 w
  have hright : stripLeft ((stripLeft w).dropWhile isWord ++ ['"']) =
      stripLeft ((stripLeft w).dropWhile isWord) ++ ['"'] := dropWhile_concat hquote.1 _
  have hbefore : (some ' ').any isWord = false := by decide
  obtain ⟨gap, hgap, hblank⟩ := exists_stripLeft_eq w
  rw [typeAttribute, hbefore, hname]
  simp only [Bool.false_eq_true, if_false, hleft, takeWhile_concat hquote.2,
    dropWhile_concat hquote.2, hright]
  by_cases hword : (strip w).all isWord = true
  · have hpos : ∀ c ∈ strip w, isWord c = true := List.all_eq_true.1 hword
    have hgapWord : gap.takeWhile isWord = [] ∧ gap.dropWhile isWord = gap := by
      cases gap with
      | nil => exact ⟨rfl, rfl⟩
      | cons c gap =>
        have hc : isWord c = false := by
          rw [Bool.eq_false_iff]
          intro hc
          exact absurd (hblank c List.mem_cons_self) (by simp [(of_isWord hc).1])
        simp [hc]
    have hrest : stripLeft gap = [] := List.dropWhile_eq_nil_iff.2 hblank
    rw [hgap, List.takeWhile_append_of_pos hpos, List.dropWhile_append_of_pos hpos, hgapWord.1,
      hgapWord.2, hrest, List.append_nil, hword]
    cases strip w with
    | nil => rfl
    | cons c u => rfl
  · -- What follows the word is not blank, so that it is not followed by the quote.
    obtain ⟨d, u, hd⟩ := List.exists_cons_of_ne_nil (behindWord_ne_nil hword)
    have hdquote : isQuote d = false :=
      hquotes d (mem_of_mem_behindWord (hd ▸ List.mem_cons_self))
    rw [hd]
    have hnot : ¬(strip w ≠ [] ∧ (strip w).all isWord = true) := fun h => hword h.2
    rw [if_neg hnot]
    split
    · rename_i hclose
      obtain ⟨rfl, -⟩ := List.cons.inj hclose
      exact if_neg (by simp [← isQuote.eq_def, hdquote])
    · rfl

/-- No type begins within the value of an attribute: it would need two quotes. -/
lemma firstFind?_value (hquotes : ∀ c ∈ w, isQuote c = false) (before : Option Char) :
    firstFind? typeAttribute before (w ++ ['"']) = none := by
  have hcount : (w ++ ['"']).countP isQuote = 1 := by
    rw [List.countP_append, List.countP_eq_zero.2 fun c hc => by simp [hquotes c hc]]
    rfl
  rw [← List.append_nil (w ++ ['"']), firstFind?_append]
  · rfl
  · intro a c v hu
    rw [Option.eq_none_iff_forall_ne_some]
    intro x hx
    have htwo := two_le_countP_of_typeAttribute hx
    rw [List.append_nil] at htwo
    rw [hu, List.countP_append] at hcount
    omega

lemma firstFind?_type (hquotes : ∀ c ∈ w, isQuote c = false) :
    firstFind? typeAttribute none (typeAttributes (some w)) =
      if strip w ≠ [] ∧ (strip w).all isWord then some ([' '], strip w, []) else none := by
  have hspace {u : Text} : typeAttribute none (' ' :: u) = none := typeAttribute_of_ne (by decide)
  have htype := typeAttribute_type hquotes
  rw [typeAttributes, firstFind?, hspace]
  dsimp only
  by_cases hword : strip w ≠ [] ∧ (strip w).all isWord = true
  · rw [if_pos hword] at htype ⊢
    rw [← List.append_nil ("type=\"".toList ++ (w ++ ['"']))] at htype ⊢
    rw [firstFind?_append_of_found htype (by simp), Option.map_some]
  · rw [if_neg hword] at htype ⊢
    have hname : ∀ c ∈ "ype=\"".toList, letter c ≠ letter 't' :=
      List.all_iff_forall_prop.1 (by decide)
    have hcons : "type=\"".toList ++ (w ++ ['"']) = 't' :: ("ype=\"".toList ++ (w ++ ['"'])) := rfl
    rw [hcons] at htype ⊢
    rw [firstFind?, htype]
    dsimp only
    rw [firstFind?_append, firstFind?_value hquotes]
    · rfl
    · intro a c v hu
      exact typeAttribute_of_ne (hname c (hu ▸ by simp))

/-- A character is a letter or a digit if what stands for it in lower case is one in ASCII. -/
lemma isWord_of_lowerChar (h : ∀ d ∈ lowerChar c, d.toNat < 128 ∧ isWord d = true) :
    isWord c = true := by
  unfold lowerChar at h
  split at h
  case isTrue hc =>
    have hascii : ∀ n < 128, isWord (Char.ofNat n).toLower = true →
        isWord (Char.ofNat n) = true := by decide +kernel
    have hword := hascii c.toNat hc
    rw [Char.ofNat_toNat] at hword
    exact hword (h _ List.mem_cons_self).2
  case isFalse hc =>
    split at h
    · exact absurd (h (Char.ofNat 0x307) (by simp)).1 (by decide)
    -- Only the sign for kelvin is moved to ASCII.
    have hruns : ∀ r ∈ lowerRuns, 128 ≤ (r.1 : Int) + r.2.2.2 ∨
        r.1 = r.2.1 ∧ isWord (Char.ofNat r.1) = true := by decide +kernel
    obtain ⟨hlt, hword⟩ := h _ List.mem_cons_self
    unfold shifted at hlt hword
    split at hlt
    case h_1 first last step offset hfind =>
      have hholds := List.find?_some hfind
      simp only [Bool.and_eq_true, decide_eq_true_eq] at hholds
      rcases hruns _ (List.mem_of_find?_eq_some hfind) with hfar | ⟨heq, hrun⟩
      · dsimp only at hfar
        simp only [hfind] at hword
        by_cases hvalid : (c.toNat + offset).toNat.isValidChar
        · rw [Char.ofNat, dif_pos hvalid] at hlt
          exact absurd (show (c.toNat + offset).toNat < 128 from hlt) (by omega)
        · rw [Char.ofNat, dif_neg hvalid] at hword
          cases hword
      · dsimp only at heq hrun
        obtain rfl : c.toNat = first := by omega
        rwa [Char.ofNat_toNat] at hrun
    case h_2 hfind =>
      rw [Char.ofNat_toNat] at hlt
      exact absurd hlt hc

lemma all_isWord_of_lowerAfter (h : ∀ d ∈ lowerAfter u t, d.toNat < 128 ∧ isWord d = true) :
    t.all isWord = true := by
  induction t generalizing u with
  | nil => rfl
  | cons c t ih =>
    rw [lowerAfter, List.forall_mem_append] at h
    rw [List.all_cons, ih h.2, Bool.and_true]
    have himage := h.1
    split at himage
    · split at himage <;> exact absurd (himage _ List.mem_cons_self).1 (by decide)
    · exact isWord_of_lowerChar himage

lemma listKind_typeAttributes (hquotes : ∀ w ∈ word, ∀ c ∈ w, isQuote c = false) :
    listKind (typeAttributes word) = namedKind word := by
  cases word with
  | none => rfl
  | some w =>
    rw [listKind, firstFind?_type (hquotes w rfl), namedKind]
    by_cases hall : (strip w).all isWord = true
    · by_cases hnil : strip w = []
      · rw [hnil]
        rfl
      · rw [if_pos ⟨hnil, hall⟩]
    · -- What is no word is not one of the two names in capitals either.
      have hnames : ∀ name ∈ ["number".toList, "table".toList],
          (name.all fun d => d.toNat < 128 ∧ isWord d = true) = true := by decide
      have hother {name : Text} (hname : name ∈ ["number".toList, "table".toList]) :
          lower (strip w) ≠ name := by
        rintro rfl
        exact hall (all_isWord_of_lowerAfter (List.all_iff_forall_prop.1 (hnames _ hname)))
      rw [if_neg fun h => hall h.2, ListKind.ofText, if_neg (hother (by simp)),
        if_neg (hother (by simp))]

/-! ### The lines of a list -/

/-- The text of an item: the words of its description, or else of its term. -/
def Entry.line (e : Entry Text) : Text :=
  let description := join [' '] (wordsOf (e.cells.2.getD []))
  if description.isEmpty then join [' '] (wordsOf (e.cells.1.getD [])) else description

/-- The texts with numbers from one on, or with bullets. -/
def itemLines : ListKind → List Text → List Text
  | .number, texts => texts.mapIdx fun k text => Text.ofNat (k + 1) ++ ". ".toList ++ text
  | _, texts => texts.map ("- ".toList ++ ·)

/-- The lines of a list: those of the items with some text, in their order. -/
def ListMarkup.lines (kind : ListKind) (l : ListMarkup Text) : List Text :=
  itemLines kind ((l.items.map Entry.line).filter (!·.isEmpty))

lemma Entry.item_eq (e : Entry Text) : e.item =
    ⟨join [' '] (wordsOf (e.cells.1.getD [])), join [' '] (wordsOf (e.cells.2.getD []))⟩ := by
  have hcell (cell : Option Text) :
      (cell.map collapseBlanks).getD [] = join [' '] (wordsOf (cell.getD [])) := by
    cases cell with
    | none => rfl
    | some t => exact collapseBlanks_eq_join t
  rw [Entry.item, hcell, hcell]

lemma Entry.item_text (e : Entry Text) :
    e.item.text = e.line ∧ e.item.isEmpty = e.line.isEmpty := by
  rw [Entry.item_eq]
  unfold ListItem.text ListItem.isEmpty Entry.line
  dsimp only
  cases hdescription : (join [' '] (wordsOf (e.cells.2.getD []))).isEmpty <;> simp [hdescription]

/-- A list that is no table is written as its lines. -/
lemma rendered_items {l : ListMarkup Text} (hkind : listKind l.attributes ≠ .table) :
    l.rendered = join ['\n'] (l.lines (listKind l.attributes)) := by
  have htexts : ((l.items.map Entry.item).filter (!·.isEmpty)).map ListItem.text =
      (l.items.map Entry.line).filter (!·.isEmpty) := by
    rw [List.filter_map, List.filter_map, List.map_map]
    have hfilter : (fun item : ListItem => !item.isEmpty) ∘ Entry.item =
        (fun text : Text => !text.isEmpty) ∘ Entry.line := by
      funext e
      simp [(Entry.item_text e).2]
    rw [hfilter]
    exact List.map_congr_left fun e _ => (Entry.item_text e).1
  have hnumbers (f : Nat → Text → Text) (shown : List ListItem) :
      (shown.map ListItem.text).mapIdx f = shown.mapIdx fun k item => f k item.text :=
    List.ext_getElem (by simp) fun k _ _ => by simp
  rw [ListMarkup.rendered, ListMarkup.lines, ← htexts]
  unfold renderList
  dsimp only
  generalize (l.items.map Entry.item).filter (!·.isEmpty) = shown
  generalize listKind l.attributes = kind at hkind
  cases shown with
  | nil => cases kind <;> rfl
  | cons item more =>
    cases kind with
    | bullet =>
      rw [itemLines, List.map_map]
      · rfl
      · simp
    | number =>
      rw [itemLines, hnumbers]
      rfl
    | table => exact absurd rfl hkind

/-! ### What is in the lines -/

/-- The characters that begin or end tags, code and tokens. -/
def listSigns : Text := ['<', '>', '`', tokenOpen, tokenClose]

/-- No text in the list has such a character. -/
def ListMarkup.Plain (l : ListMarkup Text) : Prop :=
  ∀ t, .inr t ∈ l.segments → ∀ c ∈ t, c ∉ listSigns

instance : DecidablePred ListMarkup.Plain := fun l =>
  decidable_of_iff ((l.segments.filterMap Sum.getRight?).all (·.all (· ∉ listSigns)) = true) <| by
    rw [List.all_eq_true]
    simp [ListMarkup.Plain]

lemma not_mem_typeAttributes (hword : ∀ w ∈ word, ∀ c ∈ w, c ∉ listSigns) :
    ∀ c ∈ typeAttributes word, c ∉ listSigns := by
  cases word with
  | none => simp [typeAttributes]
  | some w =>
    have hends : (∀ c ∈ " type=\"".toList, c ∉ listSigns) ∧ ∀ c ∈ ['"'], c ∉ listSigns :=
      ⟨List.all_iff_forall_prop.1 (by decide), List.all_iff_forall_prop.1 (by decide)⟩
    have hparts : typeAttributes (some w) = " type=\"".toList ++ (w ++ ['"']) := rfl
    rw [hparts, List.forall_mem_append, List.forall_mem_append]
    exact ⟨hends.1, hword w rfl, hends.2⟩

lemma ListMarkup.Plain.bare {l : ListMarkup Text} (h : l.Plain) : Bare l.body :=
  fun t ht hlt => h t (by simp [ListMarkup.segments, ht]) _ hlt (by decide)

/-- The text of an item is that of the words of something in it, or empty. -/
lemma Entry.exists_line (e : Entry Text) :
    ∃ t, (t = [] ∨ .inr t ∈ e.inner) ∧ e.line = join [' '] (wordsOf t) := by
  have hcells : (e.cells.1.getD [] = [] ∨ .inr (e.cells.1.getD []) ∈ e.inner) ∧
      (e.cells.2.getD [] = [] ∨ .inr (e.cells.2.getD []) ∈ e.inner) := by
    obtain ⟨lead, term, description, after⟩ := e
    cases term <;> cases description <;> simp [Entry.cells, Entry.inner, Entry.part]
  unfold Entry.line
  dsimp only
  split
  · exact ⟨_, hcells.1, rfl⟩
  · exact ⟨_, hcells.2, rfl⟩

/-- What is written before the text of an item. -/
structure IsMarker (marker : Text) : Prop where
  ne_nil : marker ≠ []
  head : ∀ c ∈ marker.head?, isBlank c = false
  plain : ∀ c ∈ marker, c ≠ '\n' ∧ c ∉ listSigns

lemma isMarker_bullet : IsMarker "- ".toList := by
  refine ⟨by decide, fun c hc => ?_, List.all_iff_forall_prop.1 (by decide)⟩
  obtain rfl : '-' = c := Option.some.inj hc
  decide

lemma isMarker_number (n : Nat) : IsMarker (Text.ofNat n ++ ". ".toList) := by
  have hsigns : ∀ d ∈ '\n' :: listSigns, Text.isDigit d = false :=
    List.all_iff_forall_prop.1 (by decide)
  have hends : ∀ c ∈ ". ".toList, c ∉ '\n' :: listSigns := List.all_iff_forall_prop.1 (by decide)
  refine ⟨by simp, fun c hc => ?_, fun c hc => ?_⟩
  · have hdigit : Text.isDigit c = true := by
      have hne : Text.ofNat n ≠ [] := Nat.toDigits_ne_nil
      rw [List.head?_append_of_ne_nil _ hne] at hc
      exact isDigit_of_mem_ofNat (List.mem_of_mem_head? hc)
    rw [Bool.eq_false_iff]
    intro hblank
    have hseam := isSeam_of_isBlank hblank
    simp [isSeam, hdigit] at hseam
  · rw [← not_or, ← List.mem_cons]
    intro hsign
    rcases List.mem_append.1 hc with hc | hc
    · have hdigit := hsigns c hsign
      rw [isDigit_of_mem_ofNat hc] at hdigit
      cases hdigit
    · exact hends c hc hsign

lemma of_mem_itemLines {kind : ListKind} {texts : List Text} {line : Text}
    (h : line ∈ itemLines kind texts) :
    ∃ marker text, text ∈ texts ∧ IsMarker marker ∧ line = marker ++ text := by
  have hbullet (h : line ∈ texts.map ("- ".toList ++ ·)) :
      ∃ marker text, text ∈ texts ∧ IsMarker marker ∧ line = marker ++ text := by
    obtain ⟨text, htext, rfl⟩ := List.mem_map.1 h
    exact ⟨_, text, htext, isMarker_bullet, rfl⟩
  cases kind with
  | bullet => exact hbullet h
  | table => exact hbullet h
  | number =>
    obtain ⟨k, hk, rfl⟩ := List.mem_mapIdx.1 h
    exact ⟨_, _, List.getElem_mem hk, isMarker_number (k + 1), rfl⟩

lemma IsMarker.inLine {marker text : Text} (h : IsMarker marker) (htext : InLine text) :
    InLine (marker ++ text) := by
  refine ⟨by simp [h.ne_nil], fun hmem => ?_, ?_, ?_⟩
  · rcases List.mem_append.1 hmem with hmem | hmem
    · exact (h.plain _ hmem).1 rfl
    · exact htext.line hmem
  · rw [List.head?_append_of_ne_nil _ h.ne_nil]
    exact h.head
  · rw [List.getLast?_append_of_ne_nil _ htext.ne_nil]
    exact htext.trimmed.2

/-- The lines of a list are lines, without any of the characters that its texts do not have. -/
lemma of_mem_lines {l : ListMarkup Text} {kind : ListKind} {line : Text} (hplain : l.Plain)
    (h : line ∈ l.lines kind) : InLine line ∧ ∀ c ∈ line, c ∉ listSigns := by
  obtain ⟨marker, text, htext, hmarker, rfl⟩ := of_mem_itemLines h
  obtain ⟨hmem, hne⟩ := List.mem_filter.1 htext
  obtain ⟨e, he, rfl⟩ := List.mem_map.1 hmem
  obtain ⟨t, ht, hline⟩ := e.exists_line
  have hwords : join [' '] (wordsOf t) ≠ [] := by
    rw [← hline]
    simpa using hne
  rw [hline]
  refine ⟨hmarker.inLine (inLine_join_wordsOf hwords), fun c hc => ?_⟩
  rcases List.mem_append.1 hc with hc | hc
  · exact (hmarker.plain c hc).2
  rcases of_mem_join_wordsOf hc with rfl | ⟨hct, -⟩
  · decide
  · rcases ht with rfl | ht
    · cases hct
    · exact hplain t (ListMarkup.mem_segments (.inr he) ht) c hct

/-! ### Rendering -/

/-- No tag of a list is one of code or of a reference. -/
lemma throughout_quiet_list {l : ListMarkup Text} (hbare : Bare l.body)
    (hattributes : '<' ∉ l.attributes) :
    Throughout (fun t => Quiet t ∧ afterOpen? "c".toList t = none) (flatten l.segments) := by
  have hnames : ∀ name ∈ tagNames, name ≠ [] ∧ name.head? ≠ some (letter 'l') := by decide
  have htags : ∀ tag ∈ closeTag "list".toList :: listTags, tag ≠ [] ∧
      tag.getLast? = some '>' ∧ Quiet tag ∧ afterOpen? "c".toList tag = none := by decide
  refine throughout_segments (fun c t hc => ⟨quiet_of_ne hc, afterOpen?_of_ne hc⟩) hbare
    hattributes (fun rest => ⟨fun _ name hname => ?_, ?_⟩) fun tag htag rest => ?_
  · exact afterName?_opening (hnames name hname)
  · exact afterOpen?_opening (by decide)
  · obtain ⟨hne, hlast, hquiet, hopen⟩ := htags tag htag
    refine ⟨hquiet.append (.inl hlast) hne, ?_⟩
    rw [afterOpen?_seam (by decide) (.inl hlast) hne, hopen]
    rfl

/-- A list has no backtick and no mark of a token if its texts and attributes have none. -/
lemma not_mem_list {l : ListMarkup Text} (hplain : l.Plain)
    (hattributes : ∀ c ∈ l.attributes, c ∉ listSigns) :
    ∀ d ∈ ['`', tokenOpen, tokenClose], d ∉ flatten l.segments := by
  have htags : ∀ d ∈ ['`', tokenOpen, tokenClose], d ∉ "<list".toList ∧ d ∉ ['>'] ∧
      ∀ tag ∈ closeTag "list".toList :: listTags, d ∉ tag := List.all_iff_forall_prop.1 (by decide)
  intro d hd hmem
  have hsign : d ∈ listSigns := List.mem_of_mem_drop (i := 2) hd
  obtain ⟨segment, hsegment, hmem⟩ := List.mem_flatMap.1 hmem
  cases segment with
  | inr t => exact hplain t hsegment d hmem hsign
  | inl tag =>
    rcases ListMarkup.tag_mem_segments hsegment with rfl | htag
    · have hopening : d ∈ ("<list".toList ++ l.attributes) ++ ['>'] := hmem
      rw [List.mem_append, List.mem_append] at hopening
      rcases hopening with (h | h) | h
      · exact (htags d hd).1 h
      · exact hattributes d h hsign
      · exact (htags d hd).2.1 h
    · exact (htags d hd).2.2 tag htag hmem

/-- Lines between blank lines are tidy, and nothing is left if there are none. -/
lemma tidy_items {lines : List Text} (h : ∀ line ∈ lines, InLine line ∧ ∀ c ∈ line, c ∉ listSigns) :
    tidy (if join ['\n'] lines = [] then "\n\n".toList
      else "\n\n".toList ++ join ['\n'] lines ++ "\n\n".toList) = join ['\n'] lines := by
  cases lines with
  | nil =>
    have hfeeds : collapseBlankLines "\n\n".toList = "\n\n".toList :=
      Calm.collapseBlankLines ⟨by decide, by decide, trivial⟩
    have hescape : escapeAngles "\n\n".toList = "\n\n".toList := by decide
    have hnil : join ['\n'] [] = [] := rfl
    rw [if_pos hnil, tidy, hescape, hfeeds]
    decide
  | cons line more =>
    have hne : join ['\n'] (line :: more) ≠ [] := by
      rw [join_cons]
      simp [(h line List.mem_cons_self).1.ne_nil]
    have hescape : (line :: more).map escapeAngles = (line :: more).map id := by
      refine List.map_congr_left fun line hline => escapeAngles_eq_self fun c hc => ?_
      have hsign := (h line hline).2 c hc
      constructor <;> rintro rfl <;> exact hsign (by decide)
    rw [if_neg hne, tidy_lines fun line hline => (h line hline).1, hescape, List.map_id]

lemma laidOut_list (resolver : Resolver) {l : ListMarkup Text} (hplain : l.Plain)
    (hattributes : ∀ c ∈ l.attributes, c ∉ listSigns) (hkind : listKind l.attributes ≠ .table) :
    laidOut resolver (flatten l.segments) =
      .ok (join ['\n'] (l.lines (listKind l.attributes)), {}) := by
  have hrendered := rendered_items hkind
  have hlines := fun line h => @of_mem_lines l (listKind l.attributes) line hplain h
  generalize l.lines (listKind l.attributes) = lines at hrendered hlines
  have hlt : '<' ∉ l.rendered := by
    rw [hrendered]
    exact not_mem_join (by decide) fun line h hmem => (hlines line h).2 _ hmem (by decide)
  have hlttag : '<' ∉ l.attributes := fun h => hattributes _ h (by decide)
  have hsigns := not_mem_list hplain hattributes
  have htaken : takenOut resolver (flatten l.segments) = (flatten l.segments, .ok {}) := by
    refine takenOut_eq_self resolver (hsigns '`' (by simp)) (fun c hc => ?_) fun a c v h => ?_
    · exact ⟨fun heq => hsigns c (by simp [heq]) hc, fun heq => hsigns c (by simp [heq]) hc⟩
    · simpa using throughout_quiet_list hplain.bare hlttag a c v [] h
  have hformat := format_segments hplain.bare hlttag
  have hlists := layOutLists_segments hplain.bare (fun h => hattributes _ h (by decide)) hlt
  rw [hrendered] at hlists
  rw [laidOut, htaken, ← tidy_items hlines]
  dsimp only
  rw [hformat, hlists]
  rfl

/-- **A bullet or numbered list keeps every item.** Each item has a term and a description, or text
of its own, and there may be text beside the tags; none of these texts has an angle bracket, a
backtick or a mark of a token, and neither has the type of the list, which has no quote either. If
the type names no table, the list is rendered as one line for each item with some text, in their
order: numbered from one on if the type says so, and with bullets if it does not or if there is
none. A list without such an item is rendered as nothing. -/
theorem render_itemList (resolver : Resolver) {l : ListMarkup Text} {word : Option Text}
    (htype : l.attributes = typeAttributes word)
    (hword : ∀ w ∈ word, ∀ c ∈ w, isQuote c = false ∧ c ∉ listSigns)
    (hkind : namedKind word ≠ .table) (hplain : l.Plain) :
    (render resolver (flatten l.segments)).text =
      .ok (join ['\n'] (l.lines (namedKind word))) := by
  have hlistKind : listKind l.attributes = namedKind word := by
    rw [htype]
    exact listKind_typeAttributes fun w hw c hc => (hword w hw c hc).1
  have hattributes : ∀ c ∈ l.attributes, c ∉ listSigns := by
    rw [htype]
    exact not_mem_typeAttributes fun w hw c hc => (hword w hw c hc).2
  have hlaid := laidOut_list resolver hplain hattributes (hlistKind ▸ hkind)
  rw [hlistKind] at hlaid
  have hopen : tokenOpen ∉ join ['\n'] (l.lines (namedKind word)) :=
    not_mem_join (by decide) fun line h hmem => (of_mem_lines hplain h).2 _ hmem (by decide)
  have hlayout : layout resolver (flatten l.segments) =
      .ok ((join ['\n'] (l.lines (namedKind word))).map .char) :=
    layout_of_laidOut hlaid (Stash.slots_eq_map _ hopen)
  have hlt : '<' ∈ flatten l.segments := by simp [ListMarkup.segments, ListMarkup.opening]
  have hrender := text_render (needsWork_of (.inl hlt)) hlayout (by rwa [Stash.flatMap_map_char])
  rwa [Stash.flatMap_map_char] at hrender

/-- A list in which one item is blank, and the description of another one is. -/
def sampleItems (word : Text) : ListMarkup Text where
  attributes := typeAttributes (some word)
  lead := []
  header := none
  items := [⟨"a\n b ".toList, none, none, []⟩, ⟨" ".toList, none, none, []⟩,
    ⟨[], some ("c".toList, []), some ("\t".toList, []), []⟩]

theorem render_sampleItems :
    (sampleItems "number".toList).Plain ∧ (sampleItems "steps".toList).Plain ∧
      (render {} ("<list type=\"number\"><item>a\n b </item><item> </item>".toList ++
        "<item><term>c</term><description>\t</description></item></list>".toList)).text =
          .ok "1. a b\n2. c".toList ∧
      (render {} ("<list type=\"steps\"><item>a\n b </item><item> </item>".toList ++
        "<item><term>c</term><description>\t</description></item></list>".toList)).text =
          .ok "- a b\n- c".toList := by
  have hword {word : Text} (h : word.all (fun c => isQuote c = false ∧ c ∉ listSigns) = true) :
      ∀ w ∈ some word, ∀ c ∈ w, isQuote c = false ∧ c ∉ listSigns := by
    rintro w ⟨⟩
    exact List.all_iff_forall_prop.1 h
  have hnumber : (sampleItems "number".toList).Plain := by decide
  have hsteps : (sampleItems "steps".toList).Plain := by decide
  refine ⟨hnumber, hsteps, ?_, ?_⟩
  · have hlines : join ['\n'] ((sampleItems "number".toList).lines .number) =
        "1. a b\n2. c".toList := by decide
    rw [← hlines]
    exact @render_itemList {} (sampleItems "number".toList) (some "number".toList) rfl
      (hword (by decide)) (by decide) hnumber
  · have hlines : join ['\n'] ((sampleItems "steps".toList).lines .bullet) =
        "- a b\n- c".toList := by decide
    rw [← hlines]
    exact @render_itemList {} (sampleItems "steps".toList) (some "steps".toList) rfl
      (hword (by decide)) (by decide) hsteps

end LinkedDocs.Markup
