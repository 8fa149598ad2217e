import Mathlib.Data.Bool.AllAny
import LinkedDocs.Proofs.Escaping
import LinkedDocs.Proofs.Tags

/-!
# Nested emphasis

A phrase is text with bold and italic elements, nested to any depth. A round of formatting writes
the innermost elements of each kind with markers, so after as many rounds as elements are nested
there are markers only: every tag has become the marker of its kind.
-/

namespace LinkedDocs.Markup

open Text

inductive Emphasis where
  | bold | italic
deriving DecidableEq

namespace Emphasis

def name : Emphasis → Text
  | .bold => "b".toList
  | .italic => "i".toList

def marker : Emphasis → Text
  | .bold => "**".toList
  | .italic => "*".toList

/-- The tag that opens or closes an element. -/
def tag (kind : Emphasis) (closes : Bool) : Text :=
  if closes then '<' :: '/' :: kind.name ++ ['>'] else '<' :: kind.name ++ ['>']

end Emphasis

/-- Text with emphasis: a row of characters and of elements, which have such text in them. -/
inductive Phrase where
  | done
  | char (c : Char) (rest : Phrase)
  | element (kind : Emphasis) (content rest : Phrase)

/-- What a phrase is written with: a character, or the tag of an element with some content. -/
inductive Mark where
  | char (c : Char)
  | edge (kind : Emphasis) (content : Phrase) (closes : Bool)

namespace Phrase

def marks : Phrase → List Mark
  | .done => []
  | .char c rest => .char c :: rest.marks
  | .element kind content rest =>
    .edge kind content false :: content.marks ++ .edge kind content true :: rest.marks

/-- How deep elements of a kind are nested. -/
def depth (kind : Emphasis) : Phrase → Nat
  | .done => 0
  | .char _ rest => rest.depth kind
  | .element other content rest =>
    max (content.depth kind + if other = kind then 1 else 0) (rest.depth kind)

end Phrase

namespace Mark

/-- The mark in markup. -/
def source : Mark → Text
  | .char c => [c]
  | .edge kind _ closes => kind.tag closes

/-- The mark in Markdown. -/
def sign : Mark → Text
  | .char c => [c]
  | .edge kind _ _ => kind.marker

/-- The mark after some rounds of formatting. A tag has become a marker if there were more rounds
than elements of its kind are nested in the element. -/
def shown (rounds : Emphasis → Nat) : Mark → Text
  | .char c => [c]
  | .edge kind content closes =>
    if content.depth kind < rounds kind then kind.marker else kind.tag closes

end Mark

namespace Phrase

/-- The phrase in markup. -/
def markup (p : Phrase) : Text :=
  p.marks.flatMap Mark.source

/-- The phrase with every tag replaced by the marker of its kind. -/
def marked (p : Phrase) : Text :=
  p.marks.flatMap Mark.sign

/-- The phrase after some rounds of formatting. -/
def shown (rounds : Emphasis → Nat) (p : Phrase) : Text :=
  p.marks.flatMap (Mark.shown rounds)

/-- No element has content that is blank or that begins or ends with a blank. -/
def Tight : Phrase → Prop
  | .done => True
  | .char _ rest => rest.Tight
  | .element _ content rest =>
    isBlankText content.markup = false ∧ Trimmed content.markup ∧ content.Tight ∧ rest.Tight

instance decidableTight : DecidablePred Tight
  | .done => .isTrue trivial
  | .char _ rest => decidableTight rest
  | .element _ content rest =>
    have := decidableTight content
    have := decidableTight rest
    inferInstanceAs (Decidable (_ ∧ _ ∧ _ ∧ _))

variable {p content : Phrase} {rounds : Emphasis → Nat} {kind other : Emphasis} {rest : Text}

@[simp] lemma shown_done : done.shown rounds = [] := rfl

@[simp] lemma shown_char {c : Char} : (char c p).shown rounds = c :: p.shown rounds := rfl

lemma shown_element : (element kind content p).shown rounds =
    (Mark.edge kind content false).shown rounds ++ (content.shown rounds ++
      ((Mark.edge kind content true).shown rounds ++ p.shown rounds)) := by
  simp [shown, marks]

lemma shown_zero (p : Phrase) : p.shown (fun _ => 0) = p.markup := by
  apply List.flatMap_congr
  intro mark _
  cases mark <;> rfl

lemma depth_element : (element other content p).depth kind =
    max (content.depth kind + if other = kind then 1 else 0) (p.depth kind) := rfl

lemma depth_of_mem_marks {closes : Bool} (h : .edge kind content closes ∈ p.marks) :
    content.depth kind < p.depth kind := by
  induction p with
  | done => cases h
  | char c rest ih => exact ih (by simpa [marks] using h)
  | element other inner rest ihinner ihrest =>
    rw [depth_element]
    simp only [marks, List.mem_cons, List.mem_append, Mark.edge.injEq, List.cons_append] at h
    rcases h with ⟨rfl, rfl, -⟩ | h | ⟨rfl, rfl, -⟩ | h
    · rw [if_pos rfl]
      omega
    · have hinner := ihinner h
      omega
    · rw [if_pos rfl]
      omega
    · have hrest := ihrest h
      omega

/-- After enough rounds every tag is a marker. -/
lemma shown_of_depth_le (h : ∀ kind, p.depth kind ≤ rounds kind) : p.shown rounds = p.marked := by
  apply List.flatMap_congr
  intro mark hmark
  cases mark with
  | char c => rfl
  | edge kind content closes =>
    apply if_pos
    have hlt := depth_of_mem_marks hmark
    have hle := h kind
    omega

lemma depth_le_count (kind : Emphasis) (p : Phrase) : p.depth kind ≤ p.markup.count '<' := by
  induction p with
  | done => exact Nat.le_refl 0
  | char c rest ih =>
    have hcount : (char c rest).markup = c :: rest.markup := rfl
    rw [hcount, List.count_cons]
    exact Nat.le_trans ih (Nat.le_add_right _ _)
  | element other content rest ihcontent ihrest =>
    have hmarkup : (element other content rest).markup =
        other.tag false ++ content.markup ++ (other.tag true ++ rest.markup) := by
      simp [markup, marks, Mark.source]
    have htag : (other.tag false).count '<' = 1 := by cases other <;> rfl
    rw [hmarkup, depth_element, List.count_append, List.count_append, List.count_append, htag]
    split <;> omega

end Phrase

/-! ### Looking for the end of an element -/

variable {kind other : Emphasis} {rounds : Emphasis → Nat} {p content : Phrase} {t u rest : Text}
  {c : Char} {closes : Bool} {mark : Mark}

/-- The content of an element that has been opened, if no element of its kind is opened in it. -/
def content? (kind : Emphasis) : Text → Option (Text × Text) :=
  upToWithout? (afterClose? kind.name) fun u => (afterOpen? kind.name u).isSome

lemma innermost_eq (before : Option Char) (t : Text) :
    innermost kind.name before t = (afterOpen? kind.name t).bind (content? kind) :=
  rfl

lemma afterOpen?_of_ne {name : Text} (h : c ≠ '<') : afterOpen? name (c :: t) = none := by
  unfold afterOpen?
  split
  case h_1 heq => exact absurd (List.cons.inj heq).1 h
  · rfl

lemma afterClose?_of_ne {name : Text} (h : c ≠ '<') : afterClose? name (c :: t) = none := by
  unfold afterClose?
  split
  case h_1 heq => exact absurd (List.cons.inj heq).1 h
  · rfl

lemma afterOpen?_tag : afterOpen? kind.name (kind.tag false ++ rest) = some rest := by
  cases kind <;> rfl

lemma afterClose?_tag : afterClose? kind.name (kind.tag true ++ rest) = some rest := by
  cases kind <;> rfl

lemma afterOpen?_tag_of_ne (h : other ≠ kind ∨ closes = true) :
    afterOpen? kind.name (other.tag closes ++ rest) = none := by
  cases kind <;> cases other <;> cases closes <;> simp_all <;> rfl

lemma afterClose?_tag_of_ne (h : other ≠ kind ∨ closes = false) :
    afterClose? kind.name (other.tag closes ++ rest) = none := by
  cases kind <;> cases other <;> cases closes <;> simp_all <;> rfl

lemma Mark.shown_of_lt (h : content.depth kind < rounds kind) :
    (Mark.edge kind content closes).shown rounds = kind.marker :=
  if_pos h

lemma Mark.shown_of_not_lt (h : ¬content.depth kind < rounds kind) :
    (Mark.edge kind content closes).shown rounds = kind.tag closes :=
  if_neg h

lemma exists_tag (kind : Emphasis) (closes : Bool) : ∃ u, kind.tag closes = '<' :: u ∧ '<' ∉ u := by
  cases kind <;> cases closes <;> exact ⟨_, rfl, by decide⟩

lemma lt_not_mem_marker (kind : Emphasis) : '<' ∉ kind.marker := by
  cases kind <;> decide

lemma content?_cons (hopen : afterOpen? kind.name (c :: t) = none)
    (hclose : afterClose? kind.name (c :: t) = none) :
    content? kind (c :: t) = (content? kind t).map fun y => (c :: y.1, y.2) := by
  simp [content?, upToWithout?, hopen, hclose]

lemma content?_tag : content? kind (kind.tag true ++ rest) = some ([], rest) := by
  obtain ⟨u, htag, -⟩ := exists_tag kind true
  have hclose := @afterClose?_tag kind rest
  rw [htag, List.cons_append] at hclose ⊢
  simp [content?, upToWithout?, hclose]

lemma content?_append (hu : '<' ∉ u) :
    content? kind (u ++ rest) = (content? kind rest).map fun y => (u ++ y.1, y.2) := by
  induction u with
  | nil => simp
  | cons c u ih =>
    have hc : c ≠ '<' := fun hc => hu (hc ▸ List.mem_cons_self)
    rw [List.cons_append, content?_cons (afterOpen?_of_ne hc) (afterClose?_of_ne hc),
      ih fun hmem => hu (List.mem_cons_of_mem _ hmem), Option.map_map]
    rfl

/-- A mark that is no tag of the kind, or not any more. -/
def Mark.Passes (kind : Emphasis) (rounds : Emphasis → Nat) : Mark → Prop
  | .char c => c ≠ '<'
  | .edge other content _ => other = kind → content.depth kind < rounds kind

lemma content?_mark (mark : Mark) (h : mark.Passes kind rounds) :
    content? kind (mark.shown rounds ++ rest) =
      (content? kind rest).map fun y => (mark.shown rounds ++ y.1, y.2) := by
  cases mark with
  | char c => exact content?_append (by simpa [Mark.shown] using Ne.symm h)
  | edge other content closes =>
    by_cases hlt : content.depth other < rounds other
    · rw [Mark.shown_of_lt hlt]
      exact content?_append (lt_not_mem_marker other)
    · rw [Mark.shown_of_not_lt hlt]
      have hne : other ≠ kind := fun heq => hlt (heq ▸ h heq)
      obtain ⟨u, htag, hu⟩ := exists_tag other closes
      have hopen := @afterOpen?_tag_of_ne kind other rest closes (.inl hne)
      have hclose := @afterClose?_tag_of_ne kind other rest closes (.inl hne)
      rw [htag, List.cons_append] at hopen hclose ⊢
      rw [content?_cons hopen hclose, content?_append hu, Option.map_map]
      rfl

lemma content?_marks {marks : List Mark} (h : ∀ mark ∈ marks, mark.Passes kind rounds) :
    content? kind (marks.flatMap (Mark.shown rounds) ++ rest) =
      (content? kind rest).map fun y => (marks.flatMap (Mark.shown rounds) ++ y.1, y.2) := by
  induction marks with
  | nil => simp
  | cons mark marks ih =>
    rw [List.flatMap_cons, List.append_assoc, content?_mark mark (h mark List.mem_cons_self),
      ih fun m hm => h m (List.mem_cons_of_mem _ hm), Option.map_map]
    simp [Function.comp_def]

/-- The characters of a phrase do not open tags. -/
def Phrase.Clear (p : Phrase) : Prop :=
  ∀ c, .char c ∈ p.marks → c ≠ '<'

namespace Phrase

lemma passes_of_depth_le (hclear : p.Clear) (hdepth : p.depth kind ≤ rounds kind) :
    ∀ mark ∈ p.marks, mark.Passes kind rounds := by
  intro mark hmark
  cases mark with
  | char c => exact hclear c hmark
  | edge other content closes =>
    rintro rfl
    exact Nat.lt_of_lt_of_le (depth_of_mem_marks hmark) hdepth

lemma Clear.tail {c : Char} (h : (char c p).Clear) : p.Clear :=
  fun d hd => h d (by simp [marks, hd])

lemma Clear.inner {q : Phrase} (h : (element kind p q).Clear) : p.Clear :=
  fun d hd => h d (by simp [marks, hd])

lemma Clear.next {q : Phrase} (h : (element kind p q).Clear) : q.Clear :=
  fun d hd => h d (by simp [marks, hd])

/-- A phrase in which an element of the kind is still open is no content. -/
lemma content?_of_lt_depth (hclear : p.Clear) (hdepth : rounds kind < p.depth kind) :
    content? kind (p.shown rounds ++ rest) = none := by
  induction p generalizing rest with
  | done => cases hdepth
  | char c q ih =>
    have hc : c ≠ '<' := hclear c (by simp [marks])
    rw [shown_char, List.cons_append,
      content?_cons (afterOpen?_of_ne hc) (afterClose?_of_ne hc), ih hclear.tail hdepth]
    rfl
  | element other content q ihcontent ihq =>
    rw [shown_element, List.append_assoc, List.append_assoc, List.append_assoc]
    by_cases hpasses : other = kind → content.depth kind < rounds kind
    · rw [content?_mark (.edge other content false) hpasses]
      by_cases hcontent : rounds kind < content.depth kind
      · rw [ihcontent hclear.inner hcontent]
        rfl
      · -- What is open comes behind the element.
        have hq : rounds kind < q.depth kind := by
          rw [depth_element] at hdepth
          split at hdepth
          case isTrue heq =>
            have hlt := hpasses heq
            omega
          case isFalse => omega
        rw [shown, content?_marks (passes_of_depth_le hclear.inner (by omega)),
          content?_mark (.edge other content true) hpasses, ihq hclear.next hq]
        rfl
    · obtain ⟨rfl, hnot⟩ := Classical.not_imp.1 hpasses
      obtain ⟨u, htag, -⟩ := exists_tag other false
      have hopen := fun rest => @afterOpen?_tag other rest
      have hclose := fun rest => @afterClose?_tag_of_ne other other rest false (.inr rfl)
      rw [Mark.shown_of_not_lt hnot]
      simp only [htag, List.cons_append] at hopen hclose ⊢
      simp [content?, upToWithout?, hopen, hclose]

end Phrase

/-! ### One pass over the elements of a kind -/

/-- The text with the innermost elements of a kind written with markers. -/
def emphasize (kind : Emphasis) (t : Text) : Text :=
  replace (innermost kind.name) (emphasized kind.marker) t

lemma pieces_innermost (name : Text) (before : Option Char) (t : Text) :
    pieces (innermost name) before t = pieces (innermost name) none t := by
  cases t with
  | nil => rw [pieces, pieces]
  | cons c t =>
    rw [pieces, pieces]
    rfl

lemma emphasize_cons (h : innermost kind.name none (c :: t) = none) :
    emphasize kind (c :: t) = c :: emphasize kind t := by
  rw [emphasize, replace_eq_flatMap, pieces_cons_of_none h, pieces_innermost]
  rfl

lemma emphasize_append (hu : '<' ∉ u) : emphasize kind (u ++ rest) = u ++ emphasize kind rest := by
  induction u with
  | nil => rfl
  | cons c u ih =>
    have hc : c ≠ '<' := fun hc => hu (hc ▸ List.mem_cons_self)
    have hnone : innermost kind.name none (c :: (u ++ rest)) = none := by
      rw [innermost_eq, afterOpen?_of_ne hc]
      rfl
    rw [List.cons_append, emphasize_cons hnone, ih fun hmem => hu (List.mem_cons_of_mem _ hmem),
      List.cons_append]

lemma emphasize_tag (h : innermost kind.name none (other.tag closes ++ rest) = none) :
    emphasize kind (other.tag closes ++ rest) = other.tag closes ++ emphasize kind rest := by
  obtain ⟨u, htag, hu⟩ := exists_tag other closes
  rw [htag, List.cons_append] at h ⊢
  rw [emphasize_cons h, emphasize_append hu, List.cons_append]

lemma emphasize_found {inner : Text} (h : innermost kind.name none (u ++ rest) = some (inner, rest))
    (hne : u ≠ []) :
    emphasize kind (u ++ rest) = emphasized kind.marker inner ++ emphasize kind rest := by
  rw [emphasize, replace_eq_flatMap, pieces_append_of_found h hne, pieces_innermost]
  rfl

lemma emphasized_of_trimmed (marker : Text) (ht : Trimmed t) (hne : t ≠ []) :
    emphasized marker t = marker ++ t ++ marker := by
  have hlead (u : Text) (hu : ∀ c ∈ u.head?, isBlank c = false) : u.takeWhile isBlank = [] := by
    cases u with
    | nil => rfl
    | cons c u => exact List.takeWhile_cons_of_neg (by simp [hu c rfl])
  have htrail : t.reverse.takeWhile isBlank = [] := by
    apply hlead
    rw [List.head?_reverse]
    exact ht.2
  have hempty : t.isEmpty = false := by simpa using hne
  simp [emphasized, ht.strip, hempty, hlead t ht.1, htrail]

/-- A mark as one character. -/
def Mark.seal : Mark → Char
  | .char c => c
  | .edge .. => '*'

lemma Mark.inLine_shown (rounds : Emphasis → Nat) (kind : Emphasis) (content : Phrase)
    (closes : Bool) : InLine ((Mark.edge kind content closes).shown rounds) := by
  by_cases hlt : content.depth kind < rounds kind
  · rw [shown_of_lt hlt]
    cases kind <;> decide
  · rw [shown_of_not_lt hlt]
    cases kind <;> cases closes <;> decide

/-- One more round for a kind. -/
def raise (rounds : Emphasis → Nat) (kind : Emphasis) : Emphasis → Nat :=
  Function.update rounds kind (rounds kind + 1)

/-- A tag becomes a marker in the round that has its number. -/
lemma Mark.shown_raise (h : ¬(other = kind ∧ content.depth kind = rounds kind)) :
    (Mark.edge other content closes).shown (raise rounds kind) =
      (Mark.edge other content closes).shown rounds := by
  have hiff : content.depth other < raise rounds kind other ↔
      content.depth other < rounds other := by
    by_cases hkind : other = kind
    · subst hkind
      have hne : content.depth other ≠ rounds other := fun heq => h ⟨rfl, heq⟩
      rw [raise, Function.update_self]
      omega
    · rw [raise, Function.update_of_ne hkind]
  simp only [Mark.shown, hiff]

namespace Phrase

/-- Whether a phrase begins or ends with a blank does not depend on how its tags are written. -/
lemma trimmed_shown_iff (p : Phrase) (rounds : Emphasis → Nat) :
    Trimmed (p.shown rounds) ↔ Trimmed (p.marks.map Mark.seal) := by
  have hstar : InLine ['*'] := by decide
  apply trimmed_flatMap_iff
  intro mark _
  cases mark with
  | char c => exact .inl rfl
  | edge kind content closes => exact .inr ⟨Mark.inLine_shown rounds kind content closes, hstar⟩

lemma shown_ne_nil (h : isBlankText p.markup = false) : p.shown rounds ≠ [] := by
  cases p with
  | done => cases h
  | char c q => simp
  | element kind content q =>
    intro hnil
    rw [shown_element] at hnil
    exact (Mark.inLine_shown rounds kind content false).ne_nil (List.append_eq_nil_iff.1 hnil).1

lemma shown_raise_of_le (h : p.depth kind ≤ rounds kind) :
    p.shown (raise rounds kind) = p.shown rounds := by
  apply List.flatMap_congr
  intro mark hmark
  cases mark with
  | char c => rfl
  | edge other content closes =>
    apply Mark.shown_raise
    rintro ⟨rfl, heq⟩
    have hlt := depth_of_mem_marks hmark
    omega

/-- An element in which no element of its kind is open is written with markers. -/
lemma emphasize_element (hclear : p.Clear) (hdepth : p.depth kind = rounds kind)
    (hblank : isBlankText p.markup = false) (htrimmed : Trimmed p.markup) :
    emphasize kind ((Mark.edge kind p false).shown rounds ++ (p.shown rounds ++
      ((Mark.edge kind p true).shown rounds ++ rest))) =
      (Mark.edge kind p false).shown (raise rounds kind) ++ (p.shown (raise rounds kind) ++
        ((Mark.edge kind p true).shown (raise rounds kind) ++ emphasize kind rest)) := by
  have hnot : ¬p.depth kind < rounds kind := by omega
  have hraised : p.depth kind < raise rounds kind kind := by
    rw [raise, Function.update_self]
    omega
  have htext : Trimmed (p.shown rounds) := by
    rw [trimmed_shown_iff, ← trimmed_shown_iff p fun _ => 0, shown_zero]
    exact htrimmed
  have hinner : innermost kind.name none ((kind.tag false ++ p.shown rounds ++ kind.tag true) ++
      rest) = some (p.shown rounds, rest) := by
    rw [List.append_assoc, List.append_assoc, innermost_eq, afterOpen?_tag, Option.bind_some,
      shown, content?_marks (passes_of_depth_le hclear (Nat.le_of_eq hdepth)), content?_tag]
    simp
  have hpass := emphasize_found hinner (by simp [Emphasis.tag])
  rw [List.append_assoc, List.append_assoc] at hpass
  rw [Mark.shown_of_not_lt hnot, Mark.shown_of_not_lt hnot, Mark.shown_of_lt hraised,
    Mark.shown_of_lt hraised, shown_raise_of_le (Nat.le_of_eq hdepth), hpass,
    emphasized_of_trimmed _ htext (shown_ne_nil hblank)]
  simp

/-- A tag stays if no element of the kind ends where it is to end. -/
lemma emphasize_opens {other : Emphasis} (hclear : p.Clear)
    (hfound : ¬(other = kind ∧ p.depth kind = rounds kind)) :
    emphasize kind ((Mark.edge other p false).shown rounds ++ (p.shown rounds ++ rest)) =
      (Mark.edge other p false).shown rounds ++ emphasize kind (p.shown rounds ++ rest) := by
  by_cases hlt : p.depth other < rounds other
  · rw [Mark.shown_of_lt hlt]
    exact emphasize_append (lt_not_mem_marker other)
  · rw [Mark.shown_of_not_lt hlt]
    apply emphasize_tag
    rw [innermost_eq]
    by_cases hkind : other = kind
    · subst hkind
      have hdepth : rounds other < p.depth other := by
        have hne : p.depth other ≠ rounds other := fun heq => hfound ⟨rfl, heq⟩
        omega
      rw [afterOpen?_tag, Option.bind_some, content?_of_lt_depth hclear hdepth]
    · rw [afterOpen?_tag_of_ne (.inl hkind), Option.bind_none]

lemma emphasize_closes {other : Emphasis} :
    emphasize kind ((Mark.edge other p true).shown rounds ++ rest) =
      (Mark.edge other p true).shown rounds ++ emphasize kind rest := by
  by_cases hlt : p.depth other < rounds other
  · rw [Mark.shown_of_lt hlt]
    exact emphasize_append (lt_not_mem_marker other)
  · rw [Mark.shown_of_not_lt hlt]
    apply emphasize_tag
    rw [innermost_eq, afterOpen?_tag_of_ne (.inr rfl), Option.bind_none]

/-- A pass over the elements of a kind is one more round for it. -/
lemma emphasize_shown (hclear : p.Clear) (htight : p.Tight) :
    emphasize kind (p.shown rounds ++ rest) = p.shown (raise rounds kind) ++ emphasize kind rest := by
  induction p generalizing rest with
  | done => rfl
  | char c q ih =>
    have hc : '<' ∉ [c] := by simpa using Ne.symm (hclear c (by simp [marks]))
    have hpass := @emphasize_append kind [c] (q.shown rounds ++ rest) hc
    rw [ih hclear.tail htight] at hpass
    exact hpass
  | element other content q ihcontent ihq =>
    obtain ⟨hblank, htrimmed, hcontent, hq⟩ := htight
    rw [shown_element, shown_element, List.append_assoc, List.append_assoc, List.append_assoc]
    by_cases hfound : other = kind ∧ content.depth kind = rounds kind
    · obtain ⟨rfl, hdepth⟩ := hfound
      rw [emphasize_element hclear.inner hdepth hblank htrimmed, ihq hclear.next hq]
      simp
    · -- Both tags stay: the element has been written before, is of the other kind, or has one in it.
      rw [Mark.shown_raise hfound, Mark.shown_raise hfound, emphasize_opens hclear.inner hfound,
        ihcontent hclear.inner hcontent, emphasize_closes, ihq hclear.next hq, List.append_assoc,
        List.append_assoc, List.append_assoc]

end Phrase

/-! ### Tags of other names -/

/-- Every tag begins like one of emphasis, with one of two letters or with a slash. -/
def OnlyEmphasis (t : Text) : Prop :=
  ∀ a v, t = a ++ '<' :: v → ∃ c ∈ ['b', 'i', '/'], v.head? = some c

lemma onlyEmphasis_of_not_mem (h : '<' ∉ t) : OnlyEmphasis t := by
  rintro a v rfl
  simp at h

lemma OnlyEmphasis.append (hu : OnlyEmphasis u) (ht : OnlyEmphasis t) : OnlyEmphasis (u ++ t) := by
  intro a v hsplit
  rcases List.append_eq_append_iff.1 hsplit with ⟨w, rfl, hw⟩ | ⟨w, rfl, hw⟩
  · exact ht w v hw
  · cases w with
    | nil => exact ht [] v hw.symm
    | cons x w =>
      obtain rfl := (List.cons.inj hw).1
      have hv : v = w ++ t := (List.cons.inj hw).2
      obtain ⟨c, hc, hhead⟩ := hu a w rfl
      refine ⟨c, hc, ?_⟩
      rw [hv, List.head?_append, hhead]
      rfl

lemma onlyEmphasis_tag (kind : Emphasis) (closes : Bool) : OnlyEmphasis (kind.tag closes) := by
  obtain ⟨u, htag, hu⟩ := exists_tag kind closes
  have hhead : ∃ c ∈ ['b', 'i', '/'], u.head? = some c := by
    cases kind <;> cases closes <;>
      (obtain rfl := (List.cons.inj htag).2; exact ⟨_, by decide, rfl⟩)
  rw [htag]
  intro a v hsplit
  cases a with
  | nil => rwa [← (List.cons.inj hsplit).2]
  | cons x a =>
    obtain ⟨-, rfl⟩ := List.cons.inj hsplit
    simp at hu

lemma onlyEmphasis_shown (hclear : p.Clear) : OnlyEmphasis (p.shown rounds) := by
  have hmark : ∀ mark ∈ p.marks, OnlyEmphasis (mark.shown rounds) := by
    intro mark hmark
    cases mark with
    | char c => exact onlyEmphasis_of_not_mem (by simpa [Mark.shown] using (hclear c hmark).symm)
    | edge kind content closes =>
      by_cases hlt : content.depth kind < rounds kind
      · rw [Mark.shown_of_lt hlt]
        exact onlyEmphasis_of_not_mem (lt_not_mem_marker kind)
      · rw [Mark.shown_of_not_lt hlt]
        exact onlyEmphasis_tag kind closes
  unfold Phrase.shown
  generalize p.marks = marks at hmark
  induction marks with
  | nil => exact onlyEmphasis_of_not_mem List.not_mem_nil
  | cons mark marks ih =>
    exact (hmark mark List.mem_cons_self).append (ih fun m hm => hmark m (List.mem_cons_of_mem _ hm))

/-- The names of the tags of code, references and paragraphs. -/
def otherNames : List Text :=
  tagNames ++ [ "c".toList, "para".toList]

lemma OnlyEmphasis.afterName? (h : OnlyEmphasis t) {a v name : Text} (ht : t = a ++ '<' :: v)
    (hname : name ∈ otherNames) : afterName? name v = none := by
  have hletters : otherNames.all (fun name =>
      ['b', 'i', '/'].all fun c => name.head?.any (· != letter c)) = true := by decide
  obtain ⟨c, hc, hhead⟩ := h a v ht
  obtain ⟨w, rfl⟩ := List.head?_eq_some_iff.1 hhead
  have hne := List.all_eq_true.1 (List.all_eq_true.1 hletters name hname) c hc
  cases name with
  | nil => cases hne
  | cons p name =>
    have hne : p ≠ letter c := by simpa using hne
    rw [Text.afterName?, if_neg hne.symm]

/-- No tag of another name begins at any place. -/
lemma OnlyEmphasis.places (h : OnlyEmphasis t) {a v : Text} (ht : t = a ++ c :: v) :
    Quiet (c :: v) ∧ afterOpen? "c".toList (c :: v) = none ∧
      afterOpen? "para".toList (c :: v) = none ∧
      ∀ before, emptyTag "para".toList before (c :: v) = none := by
  by_cases hc : c = '<'
  · subst hc
    have hnames (name : Text) (hname : name ∈ otherNames) := h.afterName? ht hname
    have hc := hnames "c".toList (by simp [otherNames])
    have hpara := hnames "para".toList (by simp [otherNames])
    refine ⟨fun _ name hname => hnames name (List.mem_append_left _ hname), ?_, ?_, fun before => ?_⟩
    · rw [afterOpen?, hc, Option.bind_none]
    · rw [afterOpen?, hpara, Option.bind_none]
    · simp only [emptyTag, hpara, Option.bind_none, Option.map_none]
  · refine ⟨quiet_of_ne hc, afterOpen?_of_ne hc, afterOpen?_of_ne hc, fun before => ?_⟩
    unfold emptyTag
    split
    case h_1 heq => exact absurd (List.cons.inj heq).1 hc
    · rfl

/-! ### All rounds -/

lemma settle_eq_iterate {step : Text → Text} {n fuel : Nat} (hn : n ≤ fuel)
    (hfixed : step (step^[n] t) = step^[n] t) : settle step fuel t = step^[n] t := by
  induction fuel generalizing n t with
  | zero =>
    obtain rfl : n = 0 := by omega
    rfl
  | succ fuel ih =>
    rw [settle]
    split
    case isTrue hstill => exact (Function.iterate_fixed hstill n).symm
    case isFalse hmoves =>
      cases n with
      | zero => exact absurd hfixed hmoves
      | succ n => exact ih (by omega) hfixed

lemma formatRound_shown (hclear : p.Clear) (htight : p.Tight) (n : Nat) :
    formatRound (p.shown fun _ => n) = p.shown fun _ => n + 1 := by
  have hpara : replace (innermost "para".toList) paragraph (p.shown fun _ => n) =
      p.shown fun _ => n := by
    apply replace_eq_self
    apply pieces_eq_map_of_none
    intro a c v ht
    rw [innermost, ((onlyEmphasis_shown hclear).places ht).2.2.1, Option.bind_none]
  have hpass (kind : Emphasis) (rounds : Emphasis → Nat) :
      emphasize kind (p.shown rounds) = p.shown (raise rounds kind) := by
    have h := @Phrase.emphasize_shown kind rounds p [] hclear htight
    simpa [emphasize, replace, pieces] using h
  have hboth : raise (raise (fun _ => n) .bold) .italic = fun _ => n + 1 := by
    funext kind
    cases kind <;> rfl
  have hround (t : Text) : formatRound t =
      emphasize .italic (emphasize .bold (replace (innermost "para".toList) paragraph t)) := rfl
  rw [hround, hpara, hpass, hpass, hboth]

lemma iterate_formatRound (hclear : p.Clear) (htight : p.Tight) (n : Nat) :
    formatRound^[n] p.markup = p.shown fun _ => n := by
  induction n with
  | zero => exact (Phrase.shown_zero p).symm
  | succ n ih => rw [Function.iterate_succ_apply', ih, formatRound_shown hclear htight]

lemma lt_mem_markup (h : ∃ kind content closes, .edge kind content closes ∈ p.marks) :
    '<' ∈ p.markup := by
  obtain ⟨kind, content, closes, hmark⟩ := h
  obtain ⟨u, htag, -⟩ := exists_tag kind closes
  exact List.mem_flatMap.2 ⟨_, hmark, by simp [Mark.source, htag]⟩

lemma not_mem_marked {d : Char} (hchars : ∀ c, .char c ∈ p.marks → c ≠ d)
    (hmarkers : ∀ kind : Emphasis, d ∉ kind.marker) : d ∉ p.marked := by
  intro hmem
  obtain ⟨mark, hmark, hmem⟩ := List.mem_flatMap.1 hmem
  cases mark with
  | char c => exact hchars c hmark (List.mem_singleton.1 hmem).symm
  | edge kind content closes => exact hmarkers kind hmem

lemma not_mem_markup {d : Char} (hchars : ∀ c, .char c ∈ p.marks → c ≠ d)
    (htags : ∀ (kind : Emphasis) (closes : Bool), d ∉ kind.tag closes) : d ∉ p.markup := by
  intro hmem
  obtain ⟨mark, hmark, hmem⟩ := List.mem_flatMap.1 hmem
  cases mark with
  | char c => exact hchars c hmark (List.mem_singleton.1 hmem).symm
  | edge kind content closes => exact htags kind closes hmem

/-- Formatting a phrase replaces every tag by its marker. -/
theorem format_markup (hclear : p.Clear) (htight : p.Tight) : format p.markup = p.marked := by
  have hempty : replace (emptyTag "para".toList) (fun _ => "\n\n".toList) p.markup = p.markup := by
    apply replace_eq_self
    apply pieces_eq_map_of_none
    intro a c v ht
    rw [← Phrase.shown_zero] at ht
    exact ((onlyEmphasis_shown hclear).places ht).2.2.2 _
  have hall (n : Nat) (hn : p.markup.count '<' ≤ n) : (p.shown fun _ => n) = p.marked :=
    Phrase.shown_of_depth_le fun kind => Nat.le_trans (Phrase.depth_le_count kind p) hn
  have hsettle : settle formatRound (p.markup.count '<' + 1) p.markup = p.marked := by
    rw [← hall _ (Nat.le_refl _), ← iterate_formatRound hclear htight]
    apply settle_eq_iterate (Nat.le_succ _)
    rw [iterate_formatRound hclear htight, formatRound_shown hclear htight, hall _ (Nat.le_refl _),
      hall _ (Nat.le_succ _)]
  have hbreak : replace hardBreak (fun _ => "  \n".toList) p.marked = p.marked :=
    replace_eq_self _ (pieces_eq_map_of_not_mem lt_mem_of_hardBreak
      (not_mem_marked hclear lt_not_mem_marker))
  simp only [format, hempty, hsettle, hbreak]

/-! ### Rendering -/

/-- Nothing is taken out of a text without backticks in which no code and no reference begins. -/
lemma takenOut_eq_self (resolver : Resolver) (hticks : '`' ∉ t)
    (hmarks : ∀ c ∈ t, c ≠ tokenOpen ∧ c ≠ tokenClose)
    (hplaces : ∀ a c v, t = a ++ c :: v → Quiet (c :: v) ∧ afterOpen? "c".toList (c :: v) = none) :
    takenOut resolver t = (t, .ok {}) := by
  have hdrop : dropTokenMarks t = t := by
    rw [dropTokenMarks, List.filter_eq_self]
    intro c hc
    simpa using hmarks c hc
  have hcode : replaceWith codeRegion (stashCode resolver.config.codeLanguage) {} t = (t, {}) := by
    apply replaceWith_eq_self
    apply pieces_eq_map_of_none
    intro a c v ht
    have hfence : '`' ∉ c :: v := fun hmem => hticks (ht ▸ List.mem_append_right _ hmem)
    simp [codeRegion, fence_of_not_mem hfence, (hplaces a c v ht).1.codeElement]
  have hspans (s : Stash) : replaceWith codeSpan Stash.put s t = (t, s) :=
    replaceWith_eq_self _ _ (pieces_eq_map_of_not_mem tick_mem_of_codeSpan hticks)
  have hinline (s : Except NoResult Stash) :
      replaceWith (element "c".toList) stashInline s t = (t, s) := by
    apply replaceWith_eq_self
    apply pieces_eq_map_of_none
    intro a c v ht
    rw [element, (hplaces a c v ht).2, Option.bind_none]
  have hreferences (progress : Progress) : stashReferences resolver progress t = (t, progress) :=
    stashReferences_eq_self resolver progress fun a c v ht => (hplaces a c v ht).1
  simp only [takenOut, spanned, hdrop, hcode, hreferences, hspans, hinline]

lemma takenOut_markup (resolver : Resolver) (hclear : p.Clear) (hticks : '`' ∉ p.markup)
    (hmarks : ∀ c ∈ p.markup, c ≠ tokenOpen ∧ c ≠ tokenClose) :
    takenOut resolver p.markup = (p.markup, .ok {}) := by
  have hemphasis : OnlyEmphasis p.markup := Phrase.shown_zero p ▸ onlyEmphasis_shown hclear
  exact takenOut_eq_self resolver hticks hmarks fun a c v ht =>
    ⟨(hemphasis.places ht).1, (hemphasis.places ht).2.1⟩

/-- Only the ends of a line without angle brackets change. -/
lemma tidy_eq_strip (hlt : '<' ∉ t) (hgt : '>' ∉ t) (hline : '\n' ∉ t) : tidy t = strip t := by
  have hangles : ∀ c ∈ t, c ≠ '<' ∧ c ≠ '>' :=
    fun c hc => ⟨fun heq => hlt (heq ▸ hc), fun heq => hgt (heq ▸ hc)⟩
  have hlines : collapseBlankLines t = t := by
    apply replace_eq_self
    apply pieces_eq_map_of_not_mem (d := '\n') _ hline
    intro before t x hrun
    obtain ⟨u, n, rfl, -⟩ := blankRun_eq_some hrun
    exact List.mem_cons_self
  rw [tidy, escapeAngles_eq_self hangles, hlines]

/-- **Nested emphasis is written tag by tag.** A phrase has bold and italic elements, nested to any
depth, and characters that are no angle bracket, backtick, line feed or mark of a token. If it has
an element, and no element has content that is blank or begins or ends with a blank, then rendering
it replaces every tag by the marker of its kind, and trims the ends. -/
theorem render_phrase (resolver : Resolver)
    (hplain : ∀ c, .char c ∈ p.marks → c ∉ ['<', '>', '`', '\n', tokenOpen, tokenClose])
    (helement : ∃ kind content closes, .edge kind content closes ∈ p.marks) (htight : p.Tight) :
    (render resolver p.markup).text = .ok (strip p.marked) := by
  have hchars (d : Char) (hd : d ∈ ['<', '>', '`', '\n', tokenOpen, tokenClose]) :
      ∀ c, .char c ∈ p.marks → c ≠ d := fun c hc heq => hplain c hc (heq ▸ hd)
  have hclear : p.Clear := hchars '<' (by simp)
  have hmarked : ∀ d ∈ ['<', '>', '`', '\n', tokenOpen, tokenClose], d ∉ p.marked := by
    intro d hd
    apply not_mem_marked (hchars d hd)
    intro kind
    revert d
    refine List.all_iff_forall_prop.1 ?_
    cases kind <;> decide
  have hmarkup : ∀ d ∈ ['`', tokenOpen, tokenClose], d ∉ p.markup := by
    intro d hd
    apply not_mem_markup (hchars d (by simp only [List.mem_cons] at hd ⊢; tauto))
    intro kind closes
    revert d
    refine List.all_iff_forall_prop.1 ?_
    cases kind <;> cases closes <;> decide
  have htaken := takenOut_markup resolver hclear (hmarkup '`' (by simp)) fun c hc =>
    ⟨fun heq => hmarkup c (by simp [heq]) hc, fun heq => hmarkup c (by simp [heq]) hc⟩
  have hlaid : laidOut resolver p.markup = .ok (strip p.marked, {}) := by
    rw [laidOut, htaken, ← tidy_eq_strip (hmarked '<' (by simp)) (hmarked '>' (by simp))
      (hmarked '\n' (by simp))]
    dsimp only
    rw [format_markup hclear htight, layOutLists_eq_self (hmarked '<' (by simp))]
    rfl
  have hopen : tokenOpen ∉ strip p.marked :=
    fun hmem => hmarked tokenOpen (by simp) ((isInfix_strip _).mem hmem)
  have hlayout : layout resolver p.markup = .ok ((strip p.marked).map .char) :=
    layout_of_laidOut hlaid (Stash.slots_eq_map _ hopen)
  have hrender := text_render (needsWork_of (.inl (lt_mem_markup helement))) hlayout
    (by rwa [Stash.flatMap_map_char])
  rwa [Stash.flatMap_map_char] at hrender

/-- Bold text with text in italics in it, in which bold text stands once more. -/
def samplePhrase : Phrase :=
  .char ' ' (.element .bold
    (.char 'a' (.char ' ' (.element .italic (.char 'b' (.element .bold (.char 'c' .done) .done))
      .done))) (.char '!' .done))

theorem render_samplePhrase :
    (∀ c, .char c ∈ samplePhrase.marks → c ∉ ['<', '>', '`', '\n', tokenOpen, tokenClose]) ∧
      samplePhrase.Tight ∧
      (render {} " <b>a <i>b<b>c</b></i></b>!".toList).text = .ok "**a *b**c*****!".toList := by
  have hplain : ∀ c, .char c ∈ samplePhrase.marks →
      c ∉ ['<', '>', '`', '\n', tokenOpen, tokenClose] := by
    intro c hc
    have hmem : c ∈ [ ' ', 'a', 'b', 'c', '!'] := by
      simp only [samplePhrase, Phrase.marks] at hc
      grind
    clear hc
    revert c
    exact List.all_iff_forall_prop.1 (by decide)
  have htight : samplePhrase.Tight := by decide
  exact ⟨hplain, htight, render_phrase {} hplain ⟨_, _, _, .tail _ (.head _)⟩ htight⟩

end LinkedDocs.Markup
