import LinkedDocs.Link.Resolution
import LinkedDocs.Proofs.Sparing

/-!
# Names and addresses with whole tokens

A reference may be written with tokens in it. The name that it is shown under and the address that
it points to are cut out of it, and keep its tokens whole, if what the index and the settings add
has no marks.
-/

namespace LinkedDocs.Markup

open Text

variable {n : Nat} {t : Text} {c : Char}

/-! ### Names -/

lemma isSeam_of_bne {d : Char} (hd : isSeam d = true) (h : (c != d) = false) :
    isSeam c = true := by
  rw [bne_eq_false_iff_eq.1 h]
  exact hd

lemma isSeam_of_isBracket (h : Symbol.isBracket c = true) : isSeam c = true := by
  simp only [Symbol.isBracket, Symbol.isOpenBracket, Symbol.isCloseBracket, Bool.or_eq_true,
    beq_iff_eq] at h
  rcases h with (rfl | rfl) | (rfl | rfl) <;> decide

lemma Whole.dropLetter (h : Whole n t) : Whole n (Symbol.dropLetter t) := by
  unfold Symbol.dropLetter
  split
  case h_1 letter rest hsplit =>
    unfold Symbol.splitLetter? at hsplit
    split at hsplit
    case h_1 d rest' =>
      split at hsplit
      case isTrue hletter =>
        obtain ⟨rfl, rfl⟩ := Prod.mk.inj (Option.some.inj hsplit)
        have hd : isMark d = false := isMark_of_toNat (Nat.le_trans (by decide) hletter.1)
        exact (h.tail hd).tail (by decide)
      · cases hsplit
    · cases hsplit
  · exact h

lemma Whole.dropParameters (h : Whole n t) : Whole n (Symbol.dropParameters t) :=
  (h.takeWhile fun _ => isSeam_of_bne (by decide)).1

lemma spares_genericArguments : Spares n Symbol.genericArguments (Whole n) := by
  refine .of_cons fun h => ?_
  unfold Symbol.genericArguments at h
  split at h
  case h_1 c cs =>
    split at h
    case isTrue hopen =>
      have hc : isSeam c = true := isSeam_of_isBracket (by simp [Symbol.isBracket, hopen])
      refine ⟨c, cs, rfl, hc, fun hcs => ?_⟩
      have hparts := hcs.takeWhile (p := (!Symbol.isBracket ·))
        fun d hd => isSeam_of_isBracket (by simpa using hd)
      split at h
      case h_1 d rest hdrop =>
        split at h
        case isTrue hclose =>
          obtain ⟨rfl, rfl⟩ := Prod.mk.inj (Option.some.inj h)
          have hd : isSeam d = true := isSeam_of_isBracket (by simp [Symbol.isBracket, hclose])
          rw [hdrop] at hparts
          exact ⟨hparts.1, hparts.2.tail (isMark_of_isSeam hd)⟩
        · cases h
      · cases h
    · cases h
  · cases h

lemma Whole.dropGenerics (h : Whole n t) : Whole n (Symbol.dropGenerics t) := by
  fun_induction Symbol.dropGenerics t with
  | case1 t outer hlt ih => exact ih (spares_genericArguments.replace h fun _ _ => .nil)
  | case2 t outer hlt => exact h

/-- An arity is written with digits. -/
lemma spares_arityRun : Spares n Symbol.arityRun Unmarked where
  seam h := by
    unfold Symbol.arityRun at h
    split at h
    case h_1 heq =>
      obtain ⟨rfl, -⟩ := List.cons.inj heq
      decide
    · cases h
  whole {before t a rest} ht h := by
    have hticks : Unmarked (t.take (t.takeWhile (· == '`')).length) := by
      rw [← List.prefix_iff_eq_take.1 (List.takeWhile_prefix _)]
      intro c hc
      obtain rfl : c = '`' := by simpa using List.mem_takeWhile_imp hc
      decide
    have hdigits := ht.drop_of_unmarked hticks
    unfold Symbol.arityRun at h
    split at h
    case h_1 cs =>
      unfold Symbol.arityAfter at h
      dsimp only at h
      split at h
      · cases h
      · obtain ⟨rfl, rfl⟩ := Prod.mk.inj (Option.some.inj h)
        exact ⟨fun c hc => isMark_of_isDigit (List.mem_takeWhile_imp hc),
          hdigits.dropWhile fun c => isMark_of_isDigit⟩
    · cases h

lemma Whole.displayName (h : Whole n t) : Whole n (Symbol.displayName t) :=
  spares_arityRun.replace h fun _ _ => .nil

lemma Whole.simpleName (h : Whole n t) : Whole n (Symbol.simpleName t) :=
  h.dropLetter.dropParameters.dropGenerics.takeWhile_reverse fun _ => isSeam_of_bne (by decide)

lemma Whole.externalUrl {base : Text} (h : Whole n t) (hbase : Unmarked base) :
    Whole n (Symbol.externalUrl t base) := by
  have harity : Whole n (replace Symbol.genericArguments Symbol.arityOfArguments
      (Symbol.dropParameters (Symbol.dropLetter t))) :=
    spares_genericArguments.replace h.dropLetter.dropParameters fun a _ =>
      .char (by decide) (unmarked_ofNat _).whole
  have hpage := (spares_arityRun.replace harity fun a ha =>
    .char (c := '-') (by decide) ha.whole).replaceChar (c := '+') (by decide)
      (.char (c := '.') (by decide) .nil)
  have hroot : Unmarked (base.reverse.dropWhile (· == '/')).reverse := by
    refine hbase.of_subset fun c hc => ?_
    exact List.mem_reverse.1 ((List.dropWhile_subset _) (List.mem_reverse.1 hc))
  exact hroot.whole.append (.char (by decide) hpage.lower)

/-! ### Resolutions -/

/-- The name that is shown and the target are whole. -/
structure ResolvesWhole (n : Nat) (r : Resolution) : Prop where
  name : Whole n r.displayName.toText
  target : ∀ address ∈ r.target, Whole n address

/-- What the resolver adds to a text has no marks. -/
structure AddsUnmarked (resolver : Resolver) : Prop where
  names : ∀ y ∈ resolver.index.entries, Unmarked y.2.displayName.toText
  paths : ∀ y ∈ resolver.index.entries, Unmarked y.2.path
  anchors : ∀ y ∈ resolver.index.entries, ∀ anchor ∈ y.2.anchor, Unmarked anchor
  language : Unmarked resolver.config.codeLanguage
  base : Unmarked resolver.config.externalBase

variable {resolver : Resolver} {r : Resolution} {label address : Text}

lemma whole_link (hlabel : Whole n label) (haddress : Whole n address) :
    Whole n (Resolution.link label address) := by
  have hopen : Whole n ('[' :: label) := .char (by decide) hlabel
  have hmiddle : Whole n "](".toList := Unmarked.whole (by decide)
  have hclose : Whole n [')'] := Unmarked.whole (by decide)
  exact ((hopen.append hmiddle).append haddress).append hclose

lemma whole_code (h : Whole n t) : Whole n (Resolution.code t) :=
  (Whole.char (by decide) h).append (Unmarked.whole (by decide))

lemma ResolvesWhole.address? (h : ResolvesWhole n r) (haddress : r.address? = some address) :
    Whole n address :=
  h.target address (Option.filter_eq_some_iff.1 haddress).1

lemma ResolvesWhole.markdown (h : ResolvesWhole n r) : Whole n r.markdown := by
  unfold Resolution.markdown
  dsimp only
  split
  case h_1 haddress => exact whole_link (whole_code h.name) (h.address? haddress)
  case h_2 haddress _ =>
    split
    · exact whole_link h.name (h.address? haddress)
    · exact whole_code h.name
  · exact whole_code h.name

lemma resolvesWhole_resolveLink (ht : Whole n t) (hlabel : Whole n label) :
    ResolvesWhole n (Resolver.resolveLink t label) where
  name := by
    change Whole n (if (strip label).isEmpty then "link".toList else strip label)
    split
    · exact Unmarked.whole (by decide)
    · exact hlabel.strip
  target := by
    rintro address ⟨⟩
    exact ht.strip

lemma unmarked_url? {word url : Text} (h : Keyword.url? word = some url) : Unmarked url := by
  have hpages : ∀ y ∈ Keyword.pages, Unmarked (y.2.1.url ++ y.2.2.toList) := by decide +kernel
  obtain ⟨⟨keyword, chapter, page⟩, hfind, rfl⟩ := Option.map_eq_some_iff.1 h
  exact hpages _ (List.mem_of_find?_eq_some hfind)

lemma resolvesWhole_resolveKeyword (ht : Whole n t) :
    ResolvesWhole n (Resolver.resolveKeyword t) where
  name := ht.strip.lower
  target _ haddress := (unmarked_url? haddress).whole

/-- A target of the index has an address without marks. -/
lemma AddsUnmarked.unmarked_href (h : AddsUnmarked resolver) {target : LinkTarget}
    (hlookup : resolver.lookup? t = some target) :
    Unmarked target.displayName.toText ∧ Unmarked target.href := by
  obtain ⟨key, -, hkey⟩ := List.exists_of_findSome?_eq_some hlookup
  obtain ⟨before, after, hentries, -⟩ := List.lookup_eq_some_iff.1 hkey
  have hmem : (fold key, target) ∈ resolver.index.entries := by
    rw [hentries]
    simp
  refine ⟨h.names _ hmem, ?_⟩
  unfold LinkTarget.href
  split
  case h_1 c cs hanchor =>
    have hcs := h.anchors _ hmem _ hanchor
    exact (h.paths _ hmem).append (List.forall_mem_cons.2 ⟨by decide, hcs⟩)
  · exact h.paths _ hmem

theorem resolvesWhole_resolveSymbol (h : AddsUnmarked resolver) (ht : Whole n t) :
    ResolvesWhole n (resolver.resolveSymbol t) := by
  have hraw := ht.strip
  unfold Resolver.resolveSymbol
  dsimp only
  split
  · exact ⟨.nil, by rintro _ ⟨⟩⟩
  · split
    · exact resolvesWhole_resolveLink hraw .nil
    · split
      case h_1 target hlookup =>
        obtain ⟨hname, hhref⟩ := h.unmarked_href hlookup
        refine ⟨hname.whole, ?_⟩
        rintro _ ⟨⟩
        exact hhref.whole
      · split
        · have hbare := hraw.dropLetter.dropParameters
          refine ⟨hbare.simpleName.displayName, ?_⟩
          rintro _ ⟨⟩
          exact hbare.externalUrl h.base
        · exact ⟨hraw.simpleName.displayName, by rintro _ ⟨⟩⟩

end LinkedDocs.Markup
