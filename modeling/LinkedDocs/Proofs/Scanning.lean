import LinkedDocs.Proofs.Emphasis

/-!
# Looking for tags

A search goes past a text if what it looks for begins nowhere in it, whatever follows. No tag goes
on over a seam: behind the end of a tag, and before the start of another one. So an element without
a closing tag in its content is read as a whole.
-/

namespace LinkedDocs.Markup

open Text

variable {α : Type} {m : Recogniser α} {P Q : Text → Prop} {stop? : Text → Option Text}
  {refuse : Text → Bool} {name body t u v rest : Text} {before : Option Char} {c : Char}

/-! ### Searches -/

/-- At every place of the text, whatever follows it. -/
def Throughout (P : Text → Prop) (u : Text) : Prop :=
  ∀ a c v rest, u = a ++ c :: v → P (c :: v ++ rest)

lemma throughout_of_head (h : ∀ c ∈ u, ∀ t, P (c :: t)) : Throughout P u := by
  rintro a c v rest rfl
  exact h c (by simp) _

lemma Throughout.append (hu : Throughout P u) (hv : Throughout P v) : Throughout P (u ++ v) := by
  intro a c w rest h
  rcases List.append_eq_append_iff.1 h with ⟨x, -, hx⟩ | ⟨x, hx, hcons⟩
  · exact hv x c w rest hx
  · cases x with
    | nil => exact hv [] c w rest hcons.symm
    | cons d x =>
      obtain ⟨rfl, rfl⟩ := List.cons.inj hcons
      have happend := hu a c x (v ++ rest) hx
      rwa [← List.append_assoc] at happend

lemma Throughout.mono (hu : Throughout P u) (h : ∀ t, P t → Q t) : Throughout Q u :=
  fun a c v rest heq => h _ (hu a c v rest heq)

/-- A tag, of which only the first character begins one. -/
lemma throughout_tag (hP : ∀ c t, c ≠ '<' → P (c :: t)) (hu : '<' ∉ u)
    (h : ∀ rest, P ('<' :: u ++ rest)) : Throughout P ('<' :: u) := by
  intro a c v rest heq
  cases a with
  | nil =>
    obtain ⟨rfl, rfl⟩ := List.cons.inj heq
    exact h rest
  | cons d a =>
    obtain ⟨-, rfl⟩ := List.cons.inj heq
    apply hP
    rintro rfl
    exact hu (by simp)

lemma upTo?_append (h : ∀ a c v, u = a ++ c :: v → stop? (c :: v ++ rest) = none) :
    upTo? stop? (u ++ rest) = (upTo? stop? rest).map fun y => (u ++ y.1, y.2) := by
  induction u with
  | nil => simp
  | cons c u ih =>
    have hfirst : stop? (c :: (u ++ rest)) = none := h [] c u rfl
    rw [List.cons_append, upTo?, hfirst]
    dsimp only
    rw [ih fun a d v hu => h (c :: a) d v (by rw [hu, List.cons_append])]
    cases upTo? stop? rest <;> rfl

lemma upToWithout?_append (h : ∀ a c v, u = a ++ c :: v → stop? (c :: v ++ rest) = none)
    (hrefuse : ∀ a c v, u = a ++ c :: v → refuse (c :: v ++ rest) = false) :
    upToWithout? stop? refuse (u ++ rest) =
      (upToWithout? stop? refuse rest).map fun y => (u ++ y.1, y.2) := by
  induction u with
  | nil => simp
  | cons c u ih =>
    have hfirst : stop? (c :: (u ++ rest)) = none := h [] c u rfl
    have hrefused : refuse (c :: (u ++ rest)) = false := hrefuse [] c u rfl
    rw [List.cons_append, upToWithout?, hfirst]
    dsimp only
    rw [hrefused, ih fun a d v hu => h (c :: a) d v (by rw [hu, List.cons_append])]
    · cases upToWithout? stop? refuse rest <;> rfl
    · exact fun a d v hu => hrefuse (c :: a) d v (by rw [hu, List.cons_append])

lemma firstFind?_append
    (h : ∀ a c v, u = a ++ c :: v → m (a.getLast?.or before) (c :: v ++ rest) = none) :
    firstFind? m before (u ++ rest) =
      (firstFind? m (u.getLast?.or before) rest).map fun y => (u ++ y.1, y.2) := by
  induction u generalizing before with
  | nil => simp
  | cons c u ih =>
    have hfirst : m before (c :: (u ++ rest)) = none := h [] c u rfl
    rw [List.cons_append, firstFind?, hfirst]
    dsimp only
    rw [ih, getLast?_cons_or]
    · cases firstFind? m (u.getLast?.or (some c)) rest <;> rfl
    · intro a d v hu
      rw [← getLast?_cons_or]
      exact h (c :: a) d v (by rw [hu, List.cons_append])

lemma firstFind?_append_of_found {a : α} (h : m before (u ++ rest) = some (a, rest))
    (hne : u ≠ []) :
    firstFind? m before (u ++ rest) = some ([], a, rest) := by
  obtain ⟨c, u, rfl⟩ := List.exists_cons_of_ne_nil hne
  rw [List.cons_append] at h ⊢
  rw [firstFind?, h]

/-! ### Seams -/

/-- A tag ends before the seam, or one begins behind it. -/
def Seam (u rest : Text) : Prop :=
  u.getLast? = some '>' ∨ rest.head? = some '<'

/-- A name that has no angle bracket. -/
def Named (name : Text) : Prop :=
  '<' ∉ name ∧ '>' ∉ name

instance : DecidablePred Named := fun _ => inferInstanceAs (Decidable (_ ∧ _))

lemma Seam.tail (h : Seam (c :: u) rest) (hc : c ≠ '>') : Seam u rest := by
  refine h.imp (fun hlast => ?_) id
  cases u with
  | nil => exact absurd (by simpa using hlast) hc
  | cons d u => rwa [List.getLast?_cons_cons] at hlast

lemma afterName?_seam (hname : Named name) (h : Seam u rest) :
    afterName? name (u ++ rest) = (afterName? name u).map (· ++ rest) ∧
      ∀ v, afterName? name u = some v → Seam v rest := by
  induction name generalizing u with
  | nil =>
    refine ⟨rfl, fun v hv => ?_⟩
    obtain rfl := Option.some.inj hv
    exact h
  | cons p name ih =>
    obtain ⟨hlt, hgt⟩ := hname
    rw [List.mem_cons, not_or] at hlt hgt
    cases u with
    | nil =>
      have hhead : rest.head? = some '<' := h.resolve_left (by simp)
      obtain ⟨rest, rfl⟩ := List.head?_eq_some_iff.1 hhead
      refine ⟨?_, fun v hv => by simp [afterName?] at hv⟩
      have hletter : letter '<' = '<' := by decide
      change afterName? (p :: name) ('<' :: rest) = none
      rw [afterName?, hletter, if_neg hlt.1]
    | cons d u =>
      rw [List.cons_append, afterName?, afterName?]
      split
      case isTrue hd =>
        refine ih ⟨hlt.2, hgt.2⟩ (h.tail ?_)
        rintro rfl
        exact hgt.1 hd
      case isFalse => exact ⟨rfl, by simp⟩

lemma afterTagEnd?_seam (h : Seam u rest) :
    afterTagEnd? (u ++ rest) = (afterTagEnd? u).map (· ++ rest) := by
  induction u with
  | nil =>
    have hhead : rest.head? = some '<' := h.resolve_left (by simp)
    obtain ⟨rest, rfl⟩ := List.head?_eq_some_iff.1 hhead
    rfl
  | cons d u ih =>
    by_cases hd : isBlank d = true
    · have hseam : Seam u rest := by
        refine h.tail ?_
        rintro rfl
        exact absurd hd (by decide)
      have hskip (t : Text) : afterTagEnd? (d :: t) = afterTagEnd? t := by
        rw [afterTagEnd?, stripLeft, List.dropWhile_cons_of_pos hd]
        rfl
      rw [List.cons_append, hskip, hskip, ih hseam]
    · have hstay (t : Text) : stripLeft (d :: t) = d :: t := List.dropWhile_cons_of_neg hd
      rw [afterTagEnd?, afterTagEnd?, List.cons_append, hstay, hstay]
      by_cases hgt : d = '>' <;> simp [hgt]

/-- A name and the end of a tag. -/
lemma afterName?_bind_seam (hname : Named name) (h : Seam u rest) :
    (afterName? name (u ++ rest)).bind afterTagEnd? =
      ((afterName? name u).bind afterTagEnd?).map (· ++ rest) := by
  obtain ⟨hafter, hseam⟩ := afterName?_seam hname h
  rw [hafter]
  cases hv : afterName? name u with
  | none => rfl
  | some v => exact afterTagEnd?_seam (hseam v hv)

lemma afterOpen?_seam (hname : Named name) (h : Seam u rest) (hne : u ≠ []) :
    afterOpen? name (u ++ rest) = (afterOpen? name u).map (· ++ rest) := by
  obtain ⟨c, u, rfl⟩ := List.exists_cons_of_ne_nil hne
  by_cases hc : c = '<'
  · subst hc
    exact afterName?_bind_seam hname (h.tail (by decide))
  · rw [List.cons_append, afterOpen?_of_ne hc, afterOpen?_of_ne hc]
    rfl

lemma afterClose?_seam (hname : Named name) (h : Seam u rest) (hne : u ≠ []) :
    afterClose? name (u ++ rest) = (afterClose? name u).map (· ++ rest) := by
  obtain ⟨c, u, rfl⟩ := List.exists_cons_of_ne_nil hne
  by_cases hc : c = '<'
  · subst hc
    have hseam := h.tail (by decide)
    match u with
    | [] =>
      obtain ⟨rest, rfl⟩ := List.head?_eq_some_iff.1 (hseam.resolve_left (by simp))
      rfl
    | d :: u =>
      by_cases hd : d = '/'
      · subst hd
        exact afterName?_bind_seam hname (hseam.tail (by decide))
      · have hnone (t : Text) : afterClose? name ('<' :: d :: t) = none := by
          unfold afterClose?
          split
          case h_1 heq => exact absurd (List.cons.inj (List.cons.inj heq).2).1 hd
          · rfl
        rw [List.cons_append, List.cons_append, hnone, hnone]
        rfl
  · rw [List.cons_append, afterClose?_of_ne hc, afterClose?_of_ne hc]
    rfl

/-- No tag begins behind a seam that none begins before. -/
lemma Quiet.append (h : Quiet u) (hseam : Seam u rest) (hne : u ≠ []) : Quiet (u ++ rest) := by
  have hnames : ∀ name ∈ tagNames, Named name := by decide
  obtain ⟨c, u, rfl⟩ := List.exists_cons_of_ne_nil hne
  intro hlt name hname
  obtain rfl : c = '<' := by simpa using hlt
  have hnone : afterName? name u = none := h rfl name hname
  change afterName? name (u ++ rest) = none
  rw [(afterName?_seam (hnames name hname) (hseam.tail (by decide))).1, hnone]
  rfl

/-! ### Elements -/

/-- A closing tag of a name: its letters in any case, with blanks before its end. -/
def IsCloseTag (name tag : Text) : Prop :=
  ∃ spelling gap : Text, tag = '<' :: '/' :: (spelling ++ gap ++ ['>']) ∧
    spelling.map letter = name ∧ ∀ c ∈ gap, isBlank c = true

lemma exists_of_afterName? (h : afterName? name t = some rest) :
    ∃ spelling, t = spelling ++ rest ∧ spelling.map letter = name := by
  induction name generalizing t with
  | nil => exact ⟨[], Option.some.inj h, rfl⟩
  | cons p name ih =>
    cases t with
    | nil => cases h
    | cons c t =>
      rw [afterName?] at h
      split at h
      case isTrue hc =>
        obtain ⟨spelling, rfl, hspelling⟩ := ih h
        exact ⟨c :: spelling, rfl, by rw [List.map_cons, hc, hspelling]⟩
      case isFalse => cases h

lemma exists_of_afterTagEnd? (h : afterTagEnd? t = some rest) :
    ∃ gap, t = gap ++ '>' :: rest ∧ ∀ c ∈ gap, isBlank c = true := by
  unfold afterTagEnd? at h
  split at h
  case h_1 after hstrip =>
    obtain rfl := Option.some.inj h
    refine ⟨t.takeWhile isBlank, ?_, fun c hc => List.mem_takeWhile_imp hc⟩
    conv_lhs => rw [← List.takeWhile_append_dropWhile (p := isBlank) (l := t)]
    exact congrArg _ hstrip
  · cases h

lemma afterName?_spelling {spelling : Text} (h : spelling.map letter = name) :
    afterName? name (spelling ++ rest) = some rest := by
  subst h
  induction spelling with
  | nil => rfl
  | cons c spelling ih =>
    rw [List.cons_append, List.map_cons, afterName?, if_pos rfl]
    exact ih

lemma afterTagEnd?_gap {gap : Text} (h : ∀ c ∈ gap, isBlank c = true) :
    afterTagEnd? (gap ++ '>' :: rest) = some rest := by
  rw [afterTagEnd?, stripLeft, List.dropWhile_append_of_pos h]
  rfl

/-- Closing tags are what a search for them finds. -/
lemma afterClose?_eq_some_iff :
    afterClose? name t = some rest ↔ ∃ tag, t = tag ++ rest ∧ IsCloseTag name tag := by
  constructor
  · intro h
    unfold afterClose? at h
    split at h
    case h_1 cs =>
      obtain ⟨after, hname, hend⟩ := Option.bind_eq_some_iff.1 h
      obtain ⟨spelling, rfl, hspelling⟩ := exists_of_afterName? hname
      obtain ⟨gap, rfl, hgap⟩ := exists_of_afterTagEnd? hend
      exact ⟨_, by simp, spelling, gap, rfl, hspelling, hgap⟩
    · cases h
  · rintro ⟨tag, rfl, spelling, gap, rfl, hspelling, hgap⟩
    have happend : '<' :: '/' :: (spelling ++ gap ++ ['>']) ++ rest =
        '<' :: '/' :: (spelling ++ (gap ++ '>' :: rest)) := by simp
    rw [happend, afterClose?, afterName?_spelling hspelling]
    exact afterTagEnd?_gap hgap

lemma no_closeTag_iff : (∀ tag, IsCloseTag name tag → ¬tag <:+: body) ↔
    ∀ t ∈ body.tails, afterClose? name t = none := by
  simp only [List.mem_tails, Option.eq_none_iff_forall_ne_some]
  constructor
  · rintro h t ⟨a, rfl⟩ rest hrest
    obtain ⟨tag, rfl, htag⟩ := afterClose?_eq_some_iff.1 hrest
    exact h tag htag ⟨a, rest, by simp⟩
  · rintro h tag htag ⟨a, rest, rfl⟩
    exact h (tag ++ rest) ⟨a, by simp⟩ rest (afterClose?_eq_some_iff.2 ⟨tag, rfl, htag⟩)

/-- An element whose content has no closing tag is read to its end. -/
lemma upTo?_closeTag (hname : Named name) (hclose : ∀ tag, IsCloseTag name tag → ¬tag <:+: body)
    (hrest : afterClose? name t = some rest) :
    upTo? (afterClose? name) (body ++ t) = some (body, rest) := by
  have hhead : t.head? = some '<' := by
    obtain ⟨tag, rfl, spelling, gap, rfl, -⟩ := afterClose?_eq_some_iff.1 hrest
    rfl
  rw [upTo?_append]
  · obtain ⟨t, rfl⟩ := List.head?_eq_some_iff.1 hhead
    rw [upTo?, hrest]
    simp
  · intro a c v hbody
    have hnone : afterClose? name (c :: v) = none :=
      no_closeTag_iff.1 hclose _ ((List.mem_tails _ _).2 ⟨a, hbody.symm⟩)
    rw [afterClose?_seam hname (.inr hhead) (List.cons_ne_nil c v), hnone]
    rfl

def openTag (name : Text) : Text :=
  '<' :: (name ++ ['>'])

def closeTag (name : Text) : Text :=
  '<' :: '/' :: (name ++ ['>'])

lemma afterOpen?_openTag (hname : name.map letter = name) :
    afterOpen? name (openTag name ++ rest) = some rest := by
  have happend : openTag name ++ rest = '<' :: (name ++ ([] ++ '>' :: rest)) := by
    simp [openTag]
  rw [happend, afterOpen?, afterName?_spelling hname]
  exact afterTagEnd?_gap (List.forall_mem_nil _)

lemma afterClose?_closeTag (hname : name.map letter = name) :
    afterClose? name (closeTag name ++ rest) = some rest :=
  afterClose?_eq_some_iff.2 ⟨closeTag name, rfl, name, [], by simp [closeTag], hname,
    List.forall_mem_nil _⟩

/-- An element is read up to its closing tag, if none begins in its content. -/
lemma element_tags (hname : name.map letter = name)
    (h : ∀ a c v, body = a ++ c :: v →
      afterClose? name (c :: v ++ (closeTag name ++ rest)) = none) :
    element name before (openTag name ++ (body ++ (closeTag name ++ rest))) =
      some (body, rest) := by
  rw [element, afterOpen?_openTag hname, Option.bind_some, upTo?_append h]
  have hclose := @afterClose?_closeTag name rest hname
  have hcons : closeTag name ++ rest = '<' :: ('/' :: (name ++ ['>']) ++ rest) := rfl
  rw [hcons] at hclose ⊢
  rw [upTo?, hclose]
  simp

end LinkedDocs.Markup
