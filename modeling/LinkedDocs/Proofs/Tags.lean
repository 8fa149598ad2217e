import Mathlib.Data.List.Infix
import LinkedDocs.Markup.Render
import LinkedDocs.Proofs.Documents
import LinkedDocs.Proofs.Resting

/-!
# Texts without tags

Formatting, laying out lists and escaping leave a text without angle brackets as it is. In a
document whose angle brackets are in code only, and whose code has no tag that is read before code
spans are, no such tag begins outside the blocks.
-/

namespace LinkedDocs.Markup

open Text

variable {t u rest : Text} {before : Option Char} {c : Char} {d : List Part}

/-! ### Texts without tags -/

/-- An element begins with an angle bracket, whatever is asked of its content. -/
lemma lt_mem_of_afterOpen? {name : Text} {content : Text → Option (Text × Text)} {x : Text × Text}
    (h : (afterOpen? name t).bind content = some x) : '<' ∈ t := by
  obtain ⟨rest, hopen, -⟩ := Option.bind_eq_some_iff.1 h
  unfold afterOpen? at hopen
  split at hopen
  · exact List.mem_cons_self
  · cases hopen

lemma lt_mem_of_emptyTag {name : Text} {x : Unit × Text} (h : emptyTag name before t = some x) :
    '<' ∈ t := by
  unfold emptyTag at h
  split at h
  · exact List.mem_cons_self
  · cases h

lemma lt_mem_of_hardBreak {x : Unit × Text} (h : hardBreak before t = some x) : '<' ∈ t := by
  unfold hardBreak at h
  dsimp only at h
  split at h
  case h_1 rest htag =>
    split at htag
    · simp
    · simp
    · cases htag
  · cases h

lemma lt_mem_of_listElement {x : ListElement × Text} (h : listElement before t = some x) :
    '<' ∈ t := by
  unfold listElement at h
  split at h
  · exact List.mem_cons_self
  · cases h

lemma format_eq_self (h : '<' ∉ t) : format t = t := by
  have hinnermost (name : Text) (image : Text → Text) : replace (innermost name) image t = t :=
    replace_eq_self image (pieces_eq_map_of_not_mem (fun h => lt_mem_of_afterOpen? h) h)
  have hround : formatRound t = t := by simp only [formatRound, hinnermost]
  have hempty : replace (emptyTag "para".toList) (fun _ => "\n\n".toList) t = t :=
    replace_eq_self _ (pieces_eq_map_of_not_mem lt_mem_of_emptyTag h)
  have hbreak : replace hardBreak (fun _ => "  \n".toList) t = t :=
    replace_eq_self _ (pieces_eq_map_of_not_mem lt_mem_of_hardBreak h)
  simp only [format, hempty, settle, hround, if_true, hbreak]

lemma layOutLists_eq_self (h : '<' ∉ t) : layOutLists t = .ok t := by
  have hround : listRound t = t :=
    replace_eq_self _ (pieces_eq_map_of_not_mem lt_mem_of_listElement h)
  exact atRest_of_still (congrArg Except.ok hround)

lemma escapeAngles_eq_self (h : ∀ c ∈ t, c ≠ '<' ∧ c ≠ '>') : escapeAngles t = t := by
  have hsingle : escapeAngles t = t.flatMap fun c => [c] := by
    refine List.flatMap_congr fun c hc => ?_
    rw [if_neg (h c hc).1, if_neg (h c hc).2]
  rw [hsingle, List.flatMap_singleton']

/-! ### Tags of references and code -/

/-- The names of the tags that are read before code spans are. -/
def tagNames : List Text :=
  [ "code".toList, "see".toList, "seealso".toList, "typeparamref".toList, "paramref".toList]

/-- No tag of such a name begins here. -/
def Quiet (t : Text) : Prop :=
  t.head? = some '<' → ∀ name ∈ tagNames, afterName? name t.tail = none

instance : DecidablePred Quiet := fun t =>
  inferInstanceAs
    (Decidable (t.head? = some '<' → ∀ name ∈ tagNames, afterName? name t.tail = none))

lemma Quiet.codeElement (h : Quiet t) : codeElement before t = none := by
  unfold Markup.codeElement
  split
  case h_1 cs =>
    have hname : afterName? "code".toList cs = none := h rfl _ (by simp [tagNames])
    rw [hname]
  · rfl

lemma Quiet.referenceTag {names : List Text} (hnames : names ⊆ tagNames) {field : Text}
    {body? : Text → Text → Option (Option Text × Text)} (h : Quiet t) :
    referenceTag names field body? before t = none := by
  unfold Markup.referenceTag
  split
  case h_1 cs =>
    have hname : tagName? names cs = none := by
      rw [tagName?, List.findSome?_eq_none_iff]
      intro name hmem
      have hafter : afterName? name cs = none := h rfl name (hnames hmem)
      simp [afterNameAndBlank?, hafter]
    rw [hname]
  · rfl

lemma quiet_of_ne (hc : c ≠ '<') : Quiet (c :: t) := by
  intro hlt
  exact absurd (Option.some.inj hlt) hc

/-- No reference is found where no such tag begins. -/
lemma stashReferences_eq_self (resolver : Resolver) (p : Progress)
    (h : ∀ a c v, t = a ++ c :: v → Quiet (c :: v)) : stashReferences resolver p t = (t, p) := by
  have hpieces {names : List Text} {field : Text}
      {body? : Text → Text → Option (Option Text × Text)} (hnames : names ⊆ tagNames) :
      pieces (referenceTag names field body?) none t = t.map .plain :=
    pieces_eq_map_of_none fun a c v ht => (h a c v ht).referenceTag hnames
  have hsymbols := replaceWith_eq_self (m := symbolTag) (stashSymbol resolver) p
    (hpieces (by decide))
  have hlinks := replaceWith_eq_self (m := linkTag) stashLink p (hpieces (by decide))
  have hkeywords := replaceWith_eq_self (m := keywordTag) stashKeyword p (hpieces (by decide))
  have hparameters := replace_eq_self (m := parameterTag) italicParameter (hpieces (by decide))
  simp only [stashReferences, hsymbols, hlinks, hkeywords, hparameters]

/-- A name does not go on behind a backtick. -/
lemma afterName?_append {name : Text} (hname : '`' ∉ name) (hu : u.getLast? = some '`')
    (h : afterName? name u = none) : afterName? name (u ++ rest) = none := by
  induction name generalizing u with
  | nil => cases h
  | cons p name ih =>
    cases u with
    | nil => cases hu
    | cons x u =>
      rw [List.cons_append, afterName?]
      rw [afterName?] at h
      split
      case isTrue hx =>
        rw [if_pos hx] at h
        refine ih (fun hmem => hname (List.mem_cons_of_mem _ hmem)) ?_ h
        cases u with
        | nil =>
          obtain rfl : x = '`' := by simpa using hu
          have hp : p = '`' := hx.symm
          exact absurd (hp ▸ List.mem_cons_self) hname
        | cons y u => rwa [List.getLast?_cons_cons] at hu
      · rfl

/-- A part in which no such tag begins. -/
def Part.Inert : Part → Prop
  | .span t => ∀ u ∈ t.tails, Quiet u
  | _ => True

instance : DecidablePred Part.Inert
  | .char _ => .isTrue trivial
  | .span t => inferInstanceAs (Decidable (∀ u ∈ t.tails, Quiet u))
  | .block _ => .isTrue trivial

/-- In a clean document with inert spans no such tag begins outside the blocks. -/
lemma fromPlaces_quiet (hsound : ∀ p ∈ d, p.Sound) (hclean : ∀ p ∈ d, p.Clean)
    (hinert : ∀ p ∈ d, p.Inert) : FromPlaces Quiet d := by
  induction d with
  | nil => trivial
  | cons p d ih =>
    refine ⟨fun hblock a c v hp => ?_, ih (fun q hq => hsound q (List.mem_cons_of_mem _ hq))
      (fun q hq => hclean q (List.mem_cons_of_mem _ hq))
      (fun q hq => hinert q (List.mem_cons_of_mem _ hq))⟩
    intro hlt name hname
    obtain rfl : c = '<' := by simpa using hlt
    cases p with
    | block t => cases hblock
    | char x =>
      have hx : x ≠ '<' := (hclean _ List.mem_cons_self).1
      have hmem : '<' ∈ (Part.char x).text := hp ▸ (by simp)
      exact absurd (List.mem_singleton.1 hmem).symm hx
    | span t =>
      obtain ⟨hspan, -⟩ : IsSpan t ∧ tickRun t < 3 := hsound _ List.mem_cons_self
      have hp : t = a ++ '<' :: v := hp
      have hquiet : Quiet ('<' :: v) :=
        hinert (.span t) List.mem_cons_self _ ((List.mem_tails _ _).2 ⟨a, hp.symm⟩)
      have hlast : v.getLast? = some '`' := by
        have hline := hspan.line.2
        rw [hp, List.getLast?_append] at hline
        cases v with
        | nil => simp at hline
        | cons y v => simpa [List.getLast?_cons_cons] using hline
      have hticks : '`' ∉ name := by
        revert name
        decide
      exact afterName?_append hticks hlast (hquiet rfl name hname)

/-- What holds at the places of a document without blocks holds at those of its text. -/
lemma FromPlaces.of_append {Q : Text → Prop} {v : Text} (h : FromPlaces Q d)
    (hblocks : ∀ p ∈ d, p.isBlock = false) (hflat : flat d = u ++ c :: v) : Q (c :: v) := by
  induction d generalizing u with
  | nil => simp at hflat
  | cons p d ih =>
    obtain ⟨hfirst, hrest⟩ := h
    rw [flat_cons] at hflat
    rcases List.append_eq_append_iff.1 hflat with ⟨w, hu, hd⟩ | ⟨w, hp, hv⟩
    · exact ih hrest (fun q hq => hblocks q (List.mem_cons_of_mem _ hq)) hd
    · cases w with
      | nil =>
        rw [List.nil_append] at hv
        exact ih hrest (fun q hq => hblocks q (List.mem_cons_of_mem _ hq)) (u := []) hv.symm
      | cons x w =>
        obtain ⟨rfl, rfl⟩ := List.cons.inj hv
        exact hfirst (hblocks p List.mem_cons_self) u c w hp

end LinkedDocs.Markup
