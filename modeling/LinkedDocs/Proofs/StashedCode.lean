import LinkedDocs.Markup.Render
import LinkedDocs.Proofs.Layout
import LinkedDocs.Proofs.ShownNames
import LinkedDocs.Proofs.SoundStash

/-!
# Stashing code

Code regions are taken out of a text that has no marks, so that the texts under the first tokens
have none either.
-/

namespace LinkedDocs.Markup

open Text

variable {n : Nat} {t rest : Text} {before : Option Char} {c : Char}

/-! ### Code regions -/

/-- The texts of a code region have no marks. -/
def CodeRegion.Unmarked : CodeRegion → Prop
  | .fenced f => Markup.Unmarked f.body ∧ Markup.Unmarked f.source
  | .element e => Markup.Unmarked e.attributes ∧ Markup.Unmarked e.body

lemma isSeam_of_isIndent (h : isIndent c = true) : isSeam c = true := by
  simp only [isIndent, Bool.or_eq_true, beq_iff_eq] at h
  rcases h with rfl | rfl <;> decide

lemma isSeam_of_afterMarker? (h : afterMarker? (c :: t) = some rest) : isSeam c = true := by
  by_cases hc : isIndent c = true
  · exact isSeam_of_isIndent hc
  · unfold afterMarker? at h
    rw [List.dropWhile_cons_of_neg hc] at h
    split at h
    case h_1 heq =>
      obtain ⟨rfl, -⟩ := List.cons.inj heq
      decide
    · cases h

lemma afterMarker?_suffix (h : afterMarker? t = some rest) : rest <:+ t := by
  unfold afterMarker? at h
  split at h
  case h_1 rest' heq =>
    obtain rfl := Option.some.inj h
    have hsuffix : rest' <:+ t.dropWhile isIndent := heq ▸ List.suffix_append [ '`', '`', '`'] rest'
    exact hsuffix.trans (List.dropWhile_suffix _)
  · cases h

lemma linesToClosing?_subset {lines : List Text} (h : linesToClosing? t = some (lines, rest)) :
    (∀ line ∈ lines, line ⊆ t) ∧ rest <:+ t := by
  fun_induction linesToClosing? t generalizing lines with
  | case1 t line =>
    obtain ⟨rfl, rfl⟩ := Prod.mk.inj (Option.some.inj h)
    exact ⟨by simp, List.dropWhile_suffix _⟩
  | case2 => cases h
  | case3 t line hclosing d next hdrop =>
    rename_i ih
    obtain ⟨⟨lines', rest'⟩, hlines, heq⟩ := Option.map_eq_some_iff.1 h
    obtain ⟨rfl, rfl⟩ := Prod.mk.inj heq
    obtain ⟨hin, hrest⟩ := ih hlines
    have hnext : next <:+ t :=
      (hdrop ▸ List.suffix_cons d next).trans (List.dropWhile_suffix (· != '\n'))
    refine ⟨List.forall_mem_cons.2 ⟨List.takeWhile_subset _, fun l hl => ?_⟩, hrest.trans hnext⟩
    exact List.Subset.trans (hin l hl) hnext.subset

lemma fence_eq_some {f : Fence} (h : fence before t = some (f, rest)) :
    ∃ after inner lines, afterMarker? t = some after ∧ inner <:+ after ∧
      linesToClosing? inner = some (lines, rest) ∧ f.body = join ['\n'] lines ∧ f.source ⊆ t := by
  unfold fence at h
  split at h
  case isTrue =>
    split at h
    · cases h
    case h_2 after hmarker =>
      split at h
      · cases h
      case h_2 d inner hdrop =>
        obtain ⟨⟨lines, rest'⟩, hlines, heq⟩ := Option.map_eq_some_iff.1 h
        obtain ⟨rfl, rfl⟩ := Prod.mk.inj heq
        have hinner : inner <:+ after :=
          (hdrop ▸ List.suffix_cons d inner).trans (List.dropWhile_suffix (· != '\n'))
        exact ⟨after, inner, lines, hmarker, hinner, hlines, rfl, List.take_subset _ _⟩
  · cases h

lemma Unmarked.fence (ht : Unmarked t) {f : Fence} (h : fence before t = some (f, rest)) :
    (CodeRegion.fenced f).Unmarked ∧ Unmarked rest := by
  obtain ⟨after, inner, lines, hmarker, hsuffix, hlines, hbody, hsource⟩ := fence_eq_some h
  obtain ⟨hin, hrest⟩ := linesToClosing?_subset hlines
  have hinner : Unmarked inner :=
    ht.of_subset (hsuffix.trans (afterMarker?_suffix hmarker)).subset
  have hjoined : Whole 0 f.body := hbody ▸
    whole_join (Unmarked.whole (by decide)) fun l hl => (hinner.of_subset (hin l hl)).whole
  exact ⟨⟨hjoined.unmarked, ht.of_subset hsource⟩, hinner.of_subset hrest.subset⟩

lemma codeElement_eq_some {e : CodeElement} (h : codeElement before t = some (e, rest)) :
    ∃ cs tag d inner, t = '<' :: cs ∧ afterName? "code".toList cs = some tag ∧
      e.attributes = tag.takeWhile (· != '>') ∧ tag.dropWhile (· != '>') = d :: inner ∧
        upTo? (afterClose? "code".toList) inner = some (e.body, rest) := by
  unfold codeElement at h
  split at h
  case h_1 cs =>
    split at h
    case h_1 c rest' hname =>
      split at h
      case isTrue =>
        split at h
        case h_1 d inner hdrop =>
          obtain ⟨⟨body, after⟩, hbody, heq⟩ := Option.map_eq_some_iff.1 h
          obtain ⟨rfl, rfl⟩ := Prod.mk.inj heq
          exact ⟨cs, _, d, inner, rfl, hname, rfl, hdrop, hbody⟩
        · cases h
      · cases h
    · cases h
  · cases h

lemma Unmarked.codeElement (ht : Unmarked t) {e : CodeElement}
    (h : codeElement before t = some (e, rest)) :
    (CodeRegion.element e).Unmarked ∧ Unmarked rest := by
  obtain ⟨cs, tag, d, inner, rfl, hname, hattributes, hdrop, hbody⟩ := codeElement_eq_some h
  have htag : Whole 0 tag := ((Unmarked.whole ht).tail (by decide)).afterName? (by decide) hname
  have hparts := htag.takeWhile (p := (· != '>')) fun _ => isSeam_of_bne (by decide)
  rw [hdrop, ← hattributes] at hparts
  have hinner := hparts.2.tail (hparts.2.unmarked d List.mem_cons_self)
  obtain ⟨hin, hafter⟩ := (stops_afterClose? (by decide)).upTo? hinner hbody
  exact ⟨⟨hparts.1.unmarked, hin.unmarked⟩, hafter.unmarked⟩

lemma spares_codeRegion : Spares 0 codeRegion CodeRegion.Unmarked where
  seam h := by
    rcases Option.or_eq_some_iff.1 h with h | ⟨-, h⟩
    · obtain ⟨y, hfence, -⟩ := Option.map_eq_some_iff.1 h
      obtain ⟨after, -, -, hmarker, -⟩ := fence_eq_some hfence
      exact isSeam_of_afterMarker? hmarker
    · obtain ⟨y, helement, -⟩ := Option.map_eq_some_iff.1 h
      obtain ⟨cs, -, -, -, heq, -⟩ := codeElement_eq_some helement
      rw [(List.cons.inj heq).1]
      decide
  whole ht h := by
    rcases Option.or_eq_some_iff.1 h with h | ⟨-, h⟩
    · obtain ⟨⟨f, rest⟩, hfence, heq⟩ := Option.map_eq_some_iff.1 h
      obtain ⟨rfl, rfl⟩ := Prod.mk.inj heq
      exact (ht.unmarked.fence hfence).imp_right Unmarked.whole
    · obtain ⟨⟨e, rest⟩, helement, heq⟩ := Option.map_eq_some_iff.1 h
      obtain ⟨rfl, rfl⟩ := Prod.mk.inj heq
      exact (ht.unmarked.codeElement helement).imp_right Unmarked.whole

/-! ### Code -/

lemma dropLead?_eq_some {lead : Text} (h : dropLead? lead t = some rest) : t = lead ++ rest := by
  induction lead generalizing t with
  | nil => exact Option.some.inj h
  | cons p lead ih =>
    cases t with
    | nil => cases h
    | cons c t =>
      rw [dropLead?] at h
      split at h
      case isTrue hp => rw [hp, ih h, List.cons_append]
      · cases h

lemma stripCdata_subset (t : Text) : stripCdata t ⊆ t := by
  unfold stripCdata
  cases hcdata : (afterCdataOpen? t).bind beforeCdataClose? with
  | none => exact List.Subset.refl t
  | some code =>
    obtain ⟨inner, hopen, hclose⟩ := Option.bind_eq_some_iff.1 hcdata
    obtain ⟨code', hlead, rfl⟩ := Option.map_eq_some_iff.1 hclose
    intro c hc
    have hinner : c ∈ inner := by
      have hmem : c ∈ stripLeft inner.reverse := by
        rw [dropLead?_eq_some hlead]
        exact List.mem_append_right _ (List.mem_reverse.1 hc)
      exact List.mem_reverse.1 (List.dropWhile_subset _ hmem)
    have hmem : c ∈ stripLeft t := by
      rw [dropLead?_eq_some hopen]
      exact List.mem_append_right _ hinner
    exact List.dropWhile_subset _ hmem

lemma Unmarked.unifyLineEnds (h : Unmarked t) : Unmarked (unifyLineEnds t) := by
  fun_induction Text.unifyLineEnds t with
  | case1 => exact h
  | case2 cs ih =>
    exact List.forall_mem_cons.2 ⟨by decide, ih fun d hd => h d (.tail _ (.tail _ hd))⟩
  | case3 c cs hne ih =>
    refine List.forall_mem_cons.2 ⟨?_, ih fun d hd => h d (.tail _ hd)⟩
    split
    · decide
    · exact h c List.mem_cons_self

lemma Unmarked.splitOn {separator : Char} (h : Unmarked t) :
    ∀ part ∈ splitOn separator t, Unmarked part := by
  induction t with
  | nil => simp [Text.splitOn, Unmarked]
  | cons c t ih =>
    obtain ⟨hc, ht⟩ := List.forall_mem_cons.1 h
    rw [Text.splitOn]
    split
    · exact List.forall_mem_singleton.2 (List.forall_mem_singleton.2 hc)
    case h_2 part parts hparts =>
      obtain ⟨hpart, hmore⟩ := List.forall_mem_cons.1 (hparts ▸ ih ht)
      split
      · exact List.forall_mem_cons.2 ⟨List.forall_mem_nil _, List.forall_mem_cons.2 ⟨hpart, hmore⟩⟩
      · exact List.forall_mem_cons.2 ⟨List.forall_mem_cons.2 ⟨hc, hpart⟩, hmore⟩

lemma Unmarked.trimmedLines (h : Unmarked t) : ∀ line ∈ trimmedLines t, Unmarked line := by
  intro line hline
  have hmem := List.mem_reverse.1 (List.dropWhile_subset _ (List.mem_reverse.1 hline))
  exact h.unifyLineEnds.splitOn line (List.dropWhile_subset _ hmem)

lemma whole_dedent (h : Unmarked t) : Whole n (dedent t) := by
  refine whole_join (Unmarked.whole (by decide)) fun part hpart => ?_
  obtain ⟨line, hline, rfl⟩ := List.mem_map.1 hpart
  unfold dedentLine
  split
  · exact .nil
  · exact ((h.trimmedLines line hline).of_subset (List.drop_subset _ _)).whole

lemma spares_ticks : Spares n ticks fun _ => True where
  seam {before c t x} h := by
    unfold ticks at h
    split at h
    · cases h
    case h_2 hrun =>
      by_cases hc : c = '`'
      · rw [hc]
        decide
      · exact absurd (by simp [tickRun, hc]) hrun
  whole {before t a rest} ht h := by
    have hticks : Unmarked (t.take (tickRun t)) := by
      rw [tickRun, ← List.prefix_iff_eq_take.1 (List.takeWhile_prefix _)]
      intro c hc
      obtain rfl : c = '`' := by simpa using List.mem_takeWhile_imp hc
      decide
    unfold ticks at h
    split at h
    · cases h
    · obtain ⟨rfl, rfl⟩ := Prod.mk.inj (Option.some.inj h)
      exact ⟨trivial, ht.drop_of_unmarked hticks⟩

lemma whole_escapeFences (h : Whole n t) : Whole n (escapeFences t) := by
  refine spares_ticks.replace h fun k _ => ?_
  unfold writtenTicks
  split
  · exact Unmarked.whole (by decide)
  · refine Unmarked.whole fun c hc => ?_
    rw [(List.mem_replicate.1 hc).2]
    decide

lemma Unmarked.languageOf (h : Unmarked t) : Unmarked (languageOf t) := by
  unfold Markup.languageOf
  split
  case h_1 lead language rest hfind =>
    obtain ⟨place, c, u, rfl, hfound⟩ := firstFind?_eq_some hfind
    have hplace : Whole 0 (c :: u) := (h.of_subset (List.subset_append_right _ _)).whole
    unfold languageAttribute at hfound
    split at hfound
    · cases hfound
    · obtain ⟨v, hname, hquoted⟩ := Option.bind_eq_some_iff.1 hfound
      obtain ⟨name, hmem, hname⟩ := List.exists_of_findSome?_eq_some hname
      have hunmarked : ∀ name ∈ [ "language".toList, "lang".toList], Unmarked name := by decide
      have hv := (hplace.afterAttributeName? (hunmarked name hmem) hname).unmarked
      unfold quotedWord? at hquoted
      split at hquoted
      case h_1 d ds =>
        dsimp only at hquoted
        split at hquoted
        case isTrue =>
          split at hquoted
          case h_1 =>
            obtain ⟨rfl, rfl⟩ := Prod.mk.inj (Option.some.inj hquoted)
            exact hv.of_subset fun x hx =>
              .tail _ (List.takeWhile_subset _ ((isInfix_strip _).mem hx))
          · cases hquoted
        · cases hquoted
      · cases hquoted
  · exact List.forall_mem_nil _

theorem Stash.Ready.stashCode {s : Stash} {language : Text} {code : CodeRegion} (hs : s.Ready n)
    (hlanguage : Unmarked language) (hcode : code.Unmarked) :
    ∃ k, n ≤ k ∧ (stashCode language s code).2.Ready k ∧
      Whole k (stashCode language s code).1 := by
  have hput {u : Text} (hu : Unmarked u) := hs.put hu.whole
  have hle := Nat.le_succ_of_le hs.le
  unfold Markup.stashCode
  split
  case h_1 f =>
    split
    · exact ⟨_, hle, hput hcode.1⟩
    · exact ⟨_, hle, hput hcode.2⟩
  case h_2 e =>
    have hbody : Unmarked (stripCdata e.body) := hcode.2.of_subset (stripCdata_subset _)
    dsimp only
    split
    · have hlines : Whole 0 (join ['\n'] (trimmedLines (stripCdata e.body))) :=
        whole_join (Unmarked.whole (by decide)) fun l hl => (hbody.trimmedLines l hl).whole
      exact ⟨_, hle, hput hlines.unmarked⟩
    · split
      · exact ⟨n, Nat.le_refl n, hs, .nil⟩
      · have hblock {u : Text} (hu : Unmarked u) :
            Unmarked (fencedBlock u (escapeFences (dedent (stripCdata e.body)))) := by
          have hcode := (whole_escapeFences (n := 0) (whole_dedent hbody)).unmarked
          have hopen : Unmarked "```".toList := by decide
          have hclose : Unmarked "\n```".toList := by decide
          exact ((hopen.append hu).append (List.forall_mem_cons.2 ⟨by decide, hcode⟩)).append hclose
        have hgap {k : Nat} : Whole k "\n\n".toList := Unmarked.whole (by decide)
        obtain ⟨hready, htoken⟩ := hput (hblock (u := if (languageOf e.attributes).isEmpty then
          language else languageOf e.attributes) (by split; exacts [hlanguage, hcode.1.languageOf]))
        exact ⟨_, hle, hready, (hgap.append htoken).append hgap⟩

end LinkedDocs.Markup
