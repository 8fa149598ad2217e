import LinkedDocs.Proofs.CodeRegions
import LinkedDocs.Proofs.Escaping
import LinkedDocs.Proofs.StashedCode

/-!
# Passes over a text

Every pass of a conversion keeps tokens whole. The passes that stash texts leave a sound stash,
whose numbers bound those of the tokens; the others leave the tokens as they are, or drop or repeat
them as wholes.
-/

namespace LinkedDocs.Markup

open Text

variable {n : Nat} {t rest : Text} {before : Option Char} {c : Char} {resolver : Resolver}

/-! ### References -/

namespace Progress

/-- The stash of the progress is ready. -/
def Ready (p : Progress) (n : Nat) : Prop :=
  p.stash.Ready n

variable {p : Progress}

lemma Ready.put (h : p.Ready n) (ht : Whole n t) :
    ∃ k, n ≤ k ∧ (p.put t).2.Ready k ∧ Whole k (p.put t).1 :=
  ⟨_, Nat.le_succ_of_le h.le, Stash.Ready.put h ht⟩

lemma Ready.stashedLink {label address : Text} (h : p.Ready n) (hlabel : Whole n label)
    (haddress : Whole n address) :
    ∃ k, n ≤ k ∧ (stashedLink p label address).2.Ready k ∧
      Whole k (stashedLink p label address).1 := by
  obtain ⟨k, hk, hready, htoken⟩ := h.put haddress
  exact ⟨k, hk, hready, whole_link (hlabel.mono hk) htoken⟩

end Progress

lemma TagReference.Whole.mono {tag : TagReference} {k : Nat} (h : tag.Whole n) (hk : n ≤ k) :
    tag.Whole k :=
  ⟨h.value.mono hk, fun label hlabel => (h.label label hlabel).mono hk⟩

lemma whole_labelOf {tag : TagReference} (h : tag.Whole n) : Whole n (labelOf tag) := by
  unfold labelOf
  cases hlabel : tag.label with
  | none => exact Whole.nil.strip
  | some label => exact (h.label label hlabel).strip

lemma Progress.Ready.stashSymbol {p : Progress} {tag : TagReference} (hadds : AddsUnmarked resolver)
    (hp : p.Ready n) (htag : tag.Whole n) :
    ∃ k, n ≤ k ∧ (stashSymbol resolver p tag).2.Ready k ∧
      Whole k (stashSymbol resolver p tag).1 := by
  have hwhole := resolvesWhole_resolveSymbol hadds htag.value
  have hnote : (p.note (resolver.resolveSymbol tag.value)).Ready n := hp
  unfold Markup.stashSymbol
  dsimp only
  split
  case h_1 address haddress =>
    split
    · exact hnote.put hwhole.markdown
    · exact hnote.stashedLink (whole_labelOf htag) (hwhole.address? haddress)
  · exact hnote.put hwhole.markdown

lemma Progress.Ready.stashLink {p : Progress} {tag : TagReference} (hp : p.Ready n)
    (htag : tag.Whole n) :
    ∃ k, n ≤ k ∧ (stashLink p tag).2.Ready k ∧ Whole k (stashLink p tag).1 := by
  have hwhole := resolvesWhole_resolveLink htag.value (whole_labelOf htag)
  have hnote : (p.note (Resolver.resolveLink tag.value (labelOf tag))).Ready n := hp
  exact hnote.stashedLink hwhole.name htag.value.strip

lemma Progress.Ready.stashKeyword {p : Progress} {tag : TagReference} (hp : p.Ready n)
    (htag : tag.Whole n) :
    ∃ k, n ≤ k ∧ (stashKeyword p tag).2.Ready k ∧ Whole k (stashKeyword p tag).1 := by
  have hnote : (p.note (Resolver.resolveKeyword tag.value)).Ready n := hp
  exact hnote.put (resolvesWhole_resolveKeyword htag.value).markdown

lemma whole_italicParameter {tag : TagReference} (h : tag.Whole n) :
    Whole n (italicParameter tag) :=
  (Whole.char (by decide) h.value.strip).append (Unmarked.whole (by decide))

theorem Progress.Ready.stashReferences {p : Progress} (hadds : AddsUnmarked resolver)
    (hp : p.Ready n) (ht : Whole n t) :
    ∃ k, n ≤ k ∧ (stashReferences resolver p t).2.Ready k ∧
      Whole k (stashReferences resolver p t).1 := by
  have hsee : ∀ name ∈ seeTags, Unmarked name := by decide
  have hsymbol : Spares n symbolTag (TagReference.Whole n) :=
    spares_referenceTag hsee (by decide) fun _ => readsBody_labelled
  obtain ⟨i, hi, hready, hwhole⟩ := hsymbol.replaceWith Progress.Ready
    (fun hj hp htag => hp.stashSymbol hadds (htag.mono hj)) hp ht
  have hlink : Spares i linkTag (TagReference.Whole i) :=
    spares_referenceTag hsee (by decide) fun _ => readsBody_labelled
  obtain ⟨j, hj, hready, hwhole⟩ := hlink.replaceWith Progress.Ready
    (fun hj hp htag => hp.stashLink (htag.mono hj)) hready hwhole
  have hkeyword : Spares j keywordTag (TagReference.Whole j) :=
    spares_referenceTag (by decide) (by decide) fun _ _ => readsBody_blankBodyOf (by decide)
  obtain ⟨k, hk, hready, hwhole⟩ := hkeyword.replaceWith Progress.Ready
    (fun hj hp htag => hp.stashKeyword (htag.mono hj)) hready hwhole
  have hparameter : Spares k parameterTag (TagReference.Whole k) :=
    spares_referenceTag (by decide) (by decide) fun _ => readsBody_blankBody
  exact ⟨k, by omega, hready, hparameter.replace hwhole fun _ => whole_italicParameter⟩

/-! ### Code spans and inline code -/

lemma spares_codeSpan : Spares n codeSpan (Whole n) where
  seam {before c t x} h := by
    obtain ⟨htext, hspan, -⟩ := codeSpan_eq_some h
    obtain ⟨cs, hcs⟩ := List.head?_eq_some_iff.1 hspan.head?
    rw [hcs, List.cons_append] at htext
    rw [(List.cons.inj htext).1]
    decide
  whole ht h := by
    obtain ⟨rfl, hspan, -⟩ := codeSpan_eq_some h
    refine ht.cut (.inl fun c hc => ?_)
    rw [hspan.line.2] at hc
    obtain rfl := Option.some.inj hc
    decide

lemma spares_brokenBlanks : Spares n brokenBlanks fun _ => True where
  seam {before c t x} h := by
    unfold brokenBlanks at h
    split at h
    case isTrue hbreak =>
      by_cases hc : isBlank c = true
      · exact isSeam_of_isBlank hc
      · rw [List.takeWhile_cons_of_neg hc] at hbreak
        cases hbreak
    · cases h
  whole ht h := by
    unfold brokenBlanks at h
    split at h
    · obtain ⟨-, rfl⟩ := Prod.mk.inj (Option.some.inj h)
      exact ⟨trivial, ht.stripLeft⟩
    · cases h

lemma Whole.inlineCode (h : Whole n t) : Whole n (inlineCode t) :=
  (spares_brokenBlanks.replace h fun _ _ => Unmarked.whole (by decide)).strip

/-- The stash is ready, if there is one. -/
def ReadyIfOk (s : Except NoResult Stash) (n : Nat) : Prop :=
  ∀ s', s = .ok s' → s'.Ready n

lemma ReadyIfOk.stashInline {s : Except NoResult Stash} {inner : Text} (hs : ReadyIfOk s n)
    (hinner : Whole n inner) :
    ∃ k, n ≤ k ∧ ReadyIfOk (stashInline s inner).2 k ∧ Whole k (stashInline s inner).1 := by
  have herror {cause : NoResult} {k : Nat} : ReadyIfOk (.error cause) k := by rintro _ ⟨⟩
  have hok {s : Stash} {k : Nat} (h : s.Ready k) : ReadyIfOk (.ok s) k := by
    rintro _ ⟨⟩
    exact h
  cases s with
  | error cause => exact ⟨n, Nat.le_refl n, herror, .nil⟩
  | ok s =>
    have hready := hs s rfl
    unfold Markup.stashInline
    dsimp only
    split
    · exact ⟨n, Nat.le_refl n, hs, .nil⟩
    · split
      · exact ⟨n, Nat.le_refl n, herror, .nil⟩
      case h_2 code hrestore =>
        have hcode : Unmarked code := by
          rcases hready.restore_cases hinner.inlineCode with ⟨r, hr, hunmarked⟩ | ⟨-, l, hl⟩
          · rw [Except.ok.inj (hrestore.symm.trans hr)]
            exact hunmarked
          · cases hrestore.symm.trans hl
        have hspan : Whole n (inlineSpan code) := by
          unfold inlineSpan
          split
          · exact Unmarked.whole ((Unmarked.append (by decide) hcode).append (by decide))
          · exact whole_code hcode.whole
        obtain ⟨hready', htoken⟩ := hready.put hspan
        exact ⟨_, Nat.le_succ_of_le hready.le, hok hready', htoken⟩

/-! ### Formatting -/

lemma whole_paragraph (h : Whole n t) : Whole n (paragraph t) := by
  have hgap : Whole n "\n\n".toList := Unmarked.whole (by decide)
  unfold paragraph
  dsimp only
  split
  · exact hgap
  · exact (hgap.append h.strip).append hgap

lemma whole_emphasized {marker : Text} (hmarker : Unmarked marker) (h : Whole n t) :
    Whole n (emphasized marker t) := by
  have hblank {u : Text} (hu : ∀ c ∈ u, isBlank c = true) : Whole n u :=
    Unmarked.whole fun c hc => isMark_of_isSeam (isSeam_of_isBlank (hu c hc))
  have hlead : Whole n (t.takeWhile isBlank) := hblank fun c hc => List.mem_takeWhile_imp hc
  have htrail : Whole n (t.reverse.takeWhile isBlank).reverse :=
    hblank fun c hc => List.mem_takeWhile_imp (List.mem_reverse.1 hc)
  have hmarker : Whole n marker := hmarker.whole
  unfold emphasized
  dsimp only
  split
  · exact hmarker.append hmarker
  · exact (((hlead.append hmarker).append h.strip).append hmarker).append htrail

lemma whole_formatRound (h : Whole n t) : Whole n (formatRound t) := by
  have hround {name u : Text} {image : Text → Text} (hname : Unmarked name)
      (himage : ∀ v, Whole n v → Whole n (image v)) (hu : Whole n u) :
      Whole n (replace (innermost name) image u) :=
    (spares_innermost hname).replace hu himage
  have hparagraphs := hround (by decide : Unmarked "para".toList) (fun _ => whole_paragraph) h
  have hbold := hround (by decide : Unmarked "b".toList)
    (fun _ => whole_emphasized (by decide : Unmarked "**".toList)) hparagraphs
  exact hround (by decide) (fun _ => whole_emphasized (by decide)) hbold

lemma whole_settle {step : Text → Text} (hstep : ∀ {u}, Whole n u → Whole n (step u)) (fuel : Nat)
    (h : Whole n t) : Whole n (settle step fuel t) := by
  induction fuel generalizing t with
  | zero => exact h
  | succ fuel ih =>
    rw [settle]
    split
    · exact h
    · exact ih (hstep h)

lemma spares_hardBreak : Spares n hardBreak fun _ => True where
  seam {before c t x} h := by
    unfold hardBreak at h
    dsimp only at h
    split at h
    case h_1 rest hrest =>
      obtain ⟨u, hu, -⟩ := Option.bind_eq_some_iff.1 hrest
      obtain ⟨v, hv, -⟩ := Option.bind_eq_some_iff.1 hu
      split at hv
      case h_1 heq =>
        obtain ⟨rfl, -⟩ := List.cons.inj heq
        decide
      case h_2 heq =>
        obtain ⟨rfl, -⟩ := List.cons.inj heq
        decide
      · cases hv
    · cases h
  whole {before t x rest} ht h := by
    unfold hardBreak at h
    dsimp only at h
    split at h
    case h_1 rest' hrest =>
      obtain ⟨u, hu, hend⟩ := Option.bind_eq_some_iff.1 hrest
      obtain ⟨v, hv, hname⟩ := Option.bind_eq_some_iff.1 hu
      have hv : Whole n v := by
        split at hv
        · obtain rfl := Option.some.inj hv
          exact (ht.tail (by decide)).tail (by decide)
        · obtain rfl := Option.some.inj hv
          exact ht.tail (by decide)
        · cases hv
      have hu := hv.afterName? (by decide) hname
      have hrest : Whole n rest' := by
        rcases Option.or_eq_some_iff.1 hend with hend | ⟨-, hend⟩
        · exact hu.afterEmptyTagEnd? hend
        · exact hu.afterTagEnd? hend
      have hline := hrest.dropWhile fun c hc => isMark_of_isSeam (isSeam_of_isIndent hc)
      split at h
      case h_1 heq =>
        obtain ⟨-, rfl⟩ := Prod.mk.inj (Option.some.inj h)
        rw [heq] at hline
        exact ⟨trivial, hline.tail (by decide)⟩
      · obtain ⟨-, rfl⟩ := Prod.mk.inj (Option.some.inj h)
        exact ⟨trivial, hline⟩
    · cases h

theorem whole_format (h : Whole n t) : Whole n (format t) := by
  have hgap : Whole n "\n\n".toList := Unmarked.whole (by decide)
  have hempty : Spares n (emptyTag "para".toList) fun _ => True := spares_emptyTag (by decide)
  have hsettled (fuel : Nat) :=
    whole_settle whole_formatRound fuel (hempty.replace h fun _ _ => hgap)
  exact spares_hardBreak.replace (hsettled _) fun _ _ => Unmarked.whole (by decide)

/-! ### Lists -/

/-- The term and the description of an item are whole. -/
structure ListItem.Whole (n : Nat) (item : ListItem) : Prop where
  term : Markup.Whole n item.term
  description : Markup.Whole n item.description

lemma whole_collapseBlanks (h : Whole n t) : Whole n (collapseBlanks t) := by
  refine (Spares.replace (P := fun _ => True) (.of_cons fun h => ?_) h fun _ _ =>
    Unmarked.whole (by decide)).strip
  split at h
  case h_1 c cs =>
    split at h
    case isTrue hc =>
      obtain ⟨-, rfl⟩ := Prod.mk.inj (Option.some.inj h)
      exact ⟨c, cs, rfl, isSeam_of_isBlank hc, fun hcs => ⟨trivial, hcs.stripLeft⟩⟩
    · cases h
  · cases h

lemma spares_partTag : Spares n partTag fun _ => True := by
  have hnames : ∀ name ∈ [ "term".toList, "description".toList], Unmarked name := by decide
  refine ⟨fun h => ?_, fun ht h => ?_⟩
  · obtain ⟨rest, hfind, -⟩ := Option.map_eq_some_iff.1 h
    obtain ⟨name, hname, htag⟩ := List.exists_of_findSome?_eq_some hfind
    rcases Option.or_eq_some_iff.1 htag with htag | ⟨-, htag⟩
    · exact (stops_afterOpen? (n := 0) (hnames name hname)).seam htag
    · exact (stops_afterClose? (n := 0) (hnames name hname)).seam htag
  · obtain ⟨rest, hfind, heq⟩ := Option.map_eq_some_iff.1 h
    obtain ⟨-, rfl⟩ := Prod.mk.inj heq
    obtain ⟨name, hname, htag⟩ := List.exists_of_findSome?_eq_some hfind
    rcases Option.or_eq_some_iff.1 htag with htag | ⟨-, htag⟩
    · exact ⟨trivial, (stops_afterOpen? (hnames name hname)).whole ht htag⟩
    · exact ⟨trivial, (stops_afterClose? (hnames name hname)).whole ht htag⟩

lemma Whole.firstElement? {name inner : Text} (h : Whole n t) (hname : Unmarked name)
    (hfirst : firstElement? name t = some inner) : Whole n inner := by
  obtain ⟨⟨lead, found, rest⟩, hfind, rfl⟩ := Option.map_eq_some_iff.1 hfirst
  exact ((spares_element hname).firstFind? h hfind).2.1

lemma whole_parseItem (h : Whole n t) : (parseItem t).Whole n := by
  have hpart {name : Text} (hname : Unmarked name) :
      Whole n (((firstElement? name t).map collapseBlanks).getD []) := by
    cases hfirst : firstElement? name t with
    | none => exact .nil
    | some inner => exact whole_collapseBlanks (h.firstElement? hname hfirst)
  unfold parseItem
  split
  · exact ⟨.nil, whole_collapseBlanks (spares_partTag.replace h fun _ _ => .nil)⟩
  · exact ⟨hpart (by decide), hpart (by decide)⟩

lemma whole_parseList (h : Whole n t) :
    (∀ header ∈ (parseList t).1, header.Whole n) ∧ ∀ item ∈ (parseList t).2, item.Whole n := by
  have hitems {u : Text} (hu : Whole n u) :
      ∀ item ∈ (finds (element "item".toList) u).map parseItem, item.Whole n := by
    intro item hitem
    obtain ⟨inner, hinner, rfl⟩ := List.mem_map.1 hitem
    exact whole_parseItem ((spares_element (by decide)).finds hu hinner)
  unfold parseList
  dsimp only
  split
  case h_1 lead header rest hfind =>
    obtain ⟨hlead, hheader, hrest⟩ :=
      (spares_element (n := n) (by decide)).firstFind? h hfind
    refine ⟨?_, hitems (hlead.append hrest)⟩
    rintro _ ⟨⟩
    exact whole_parseItem hheader
  · exact ⟨by rintro _ ⟨⟩, hitems h⟩

namespace ListItem.Whole

variable {item : ListItem}

lemma text (h : item.Whole n) : Markup.Whole n item.text := by
  unfold ListItem.text
  split
  · exact h.term
  · exact h.description

lemma definition (h : item.Whole n) : Markup.Whole n (definition item) := by
  have hstars : Markup.Whole n "**".toList := Unmarked.whole (by decide)
  have hbold := (hstars.append h.term).append hstars
  unfold Markup.definition
  dsimp only
  split
  · exact h.description
  · split
    · exact hbold
    · exact hbold.append (.char (by decide) h.description)

end ListItem.Whole

lemma whole_tableRow {left right : Text} (hleft : Whole n left) (hright : Whole n right) :
    Whole n (tableRow left right) := by
  have hcell {u : Text} (hu : Whole n u) : Whole n (cell u) :=
    hu.replaceChar (by decide) (Unmarked.whole (by decide))
  have hopen : Whole n "| ".toList := Unmarked.whole (by decide)
  have hmiddle : Whole n " | ".toList := Unmarked.whole (by decide)
  have hclose : Whole n " |".toList := Unmarked.whole (by decide)
  exact (((hopen.append (hcell hleft)).append hmiddle).append (hcell hright)).append hclose

lemma whole_renderList (kind : ListKind) {header : Option ListItem} {items : List ListItem}
    (hheader : ∀ h ∈ header, h.Whole n) (hitems : ∀ item ∈ items, item.Whole n) :
    Whole n (renderList kind header items) := by
  have hshown : ∀ item ∈ items.filter (!·.isEmpty), item.Whole n := fun item hitem =>
    hitems item (List.mem_of_mem_filter hitem)
  have hbreak : Whole n ['\n'] := Unmarked.whole (by decide)
  unfold renderList
  dsimp only
  split
  · exact .nil
  · split
    · refine whole_join hbreak fun part hpart => ?_
      obtain ⟨i, hi, rfl⟩ := List.mem_mapIdx.1 hpart
      have hnumber : Unmarked (Text.ofNat (i + 1) ++ ". ".toList) :=
        (unmarked_ofNat _).append (by decide)
      exact hnumber.whole.append (hshown _ (List.getElem_mem hi)).text
    case h_2 h =>
      obtain ⟨hterm, hdescription⟩ := hheader h rfl
      have hrow : Whole n (tableRow (if h.term.isEmpty then "Term".toList else h.term)
          (if h.description.isEmpty then "Description".toList else h.description)) := by
        refine whole_tableRow ?_ ?_
        · split
          · exact Unmarked.whole (by decide)
          · exact hterm
        · split
          · exact Unmarked.whole (by decide)
          · exact hdescription
      refine whole_join hbreak (List.forall_mem_cons.2 ⟨hrow, List.forall_mem_cons.2
        ⟨Unmarked.whole (by decide), fun part hpart => ?_⟩⟩)
      obtain ⟨item, hitem, rfl⟩ := List.mem_map.1 hpart
      exact whole_tableRow (hshown item hitem).term (hshown item hitem).description
    · refine whole_join (Unmarked.whole (by decide)) fun part hpart => ?_
      obtain ⟨item, hitem, rfl⟩ := List.mem_map.1 hpart
      exact (hshown item hitem).definition
    · refine whole_join hbreak fun part hpart => ?_
      obtain ⟨item, hitem, rfl⟩ := List.mem_map.1 hpart
      exact Whole.append (Unmarked.whole (by decide)) (hshown item hitem).text

lemma whole_layOutList {e : ListElement} (h : Whole n e.body) : Whole n (layOutList e) := by
  have hgap : Whole n "\n\n".toList := Unmarked.whole (by decide)
  obtain ⟨hheader, hitems⟩ := whole_parseList h
  have hrendered := whole_renderList (listKind e.attributes) hheader hitems
  unfold layOutList
  dsimp only
  split
  · exact hgap
  · exact (hgap.append hrendered).append hgap

lemma spares_listElement : Spares n listElement fun e => Whole n e.body := by
  refine .of_cons fun h => ?_
  unfold listElement at h
  split at h
  case h_1 cs =>
    refine ⟨'<', cs, rfl, by decide, fun hcs => ?_⟩
    split at h
    case h_1 rest' hname =>
      have hparts := (hcs.afterName? (by decide) hname).takeWhile (p := (· != '>'))
        fun _ => isSeam_of_bne (by decide)
      split at h
      case h_1 d inner hdrop =>
        obtain ⟨⟨body, after⟩, hbody, heq⟩ := Option.map_eq_some_iff.1 h
        obtain ⟨rfl, rfl⟩ := Prod.mk.inj heq
        have hd : isMark d = false := by
          have hhead := List.head?_dropWhile_not (· != '>') rest'
          rw [hdrop] at hhead
          exact isMark_of_isSeam (isSeam_of_bne (by decide) hhead)
        rw [hdrop] at hparts
        exact (stops_afterClose? (by decide)).upTo? (hparts.2.tail hd)
          (upTo?_of_upToWithout? hbody)
      · cases h
    · cases h
  · cases h

theorem whole_layOutLists {laid : Text} (h : Whole n t) (hlaid : layOutLists t = .ok laid) :
    Whole n laid := by
  refine (atRest_keeps (P := Whole n) ?_ h hlaid).1
  intro t u ht hu
  obtain rfl := Except.ok.inj hu
  exact spares_listElement.replace ht fun _ => whole_layOutList

/-! ### Tidying up -/

lemma whole_escapeAngles (h : Whole n t) : Whole n (escapeAngles t) := by
  refine h.flatMap (fun c hc => ?_) fun c hc => ?_
  · split
    · exact Unmarked.whole (by decide)
    · split
      · exact Unmarked.whole (by decide)
      · exact .char hc .nil
  · have hlt : c ≠ '<' := by
      rintro rfl
      exact absurd hc (by decide)
    have hgt : c ≠ '>' := by
      rintro rfl
      exact absurd hc (by decide)
    rw [if_neg hlt, if_neg hgt]

lemma Whole.blankLines (h : Whole n t) : Whole n (blankLines t).2 := by
  fun_induction Markup.blankLines t with
  | case1 t rest hdrop k after hlines ih =>
    have hline := h.dropWhile fun c hc => isMark_of_isSeam (isSeam_of_isIndent hc)
    rw [hdrop] at hline
    have hafter := ih (hline.tail (by decide))
    rw [hlines] at hafter
    exact hafter
  | case2 t hne => exact h

lemma spares_blankRun : Spares n blankRun fun _ => True where
  seam {before c t x} h := by
    obtain ⟨x, rest⟩ := x
    obtain ⟨u, k, heq, -⟩ := blankRun_eq_some h
    rw [(List.cons.inj heq).1]
    decide
  whole ht h := by
    obtain ⟨u, k, rfl, hlines⟩ := blankRun_eq_some h
    have hrest := (ht.tail (by decide)).blankLines
    rw [hlines] at hrest
    exact ⟨trivial, hrest⟩

theorem whole_tidy (h : Whole n t) : Whole n (tidy t) :=
  (spares_blankRun.replace (whole_escapeAngles h) fun _ _ => Unmarked.whole (by decide)).strip

end LinkedDocs.Markup
