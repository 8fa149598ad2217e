import LinkedDocs.Link.Resolution
import LinkedDocs.Proofs.NestedArguments
import LinkedDocs.Proofs.Results

/-!
# What references resolve to

Main statements: a record that has been resolved is not changed by being resolved again
(`resolveRecord_stable`), and a generic type that the index has by its name is found by every
spelling, while parameters make no difference to what is found (`resolveSymbol_spellings`).
-/

namespace LinkedDocs.Resolver

open Text LinkedDocs.Symbol Markup

variable {resolver : Resolver} {record : Reference} {raw label p q t : Text} {c : Char}

/-! ### Records -/

/-- What a link is called. -/
def linkName (label : Text) : Text :=
  if (strip label).isEmpty then "link".toList else strip label

/-- The keyword that a reference names, with or without the mark. -/
def keywordIn (raw : Text) : Text :=
  if startsWith keywordMark (lower raw) then raw.drop keywordMark.length else raw

/-- What becomes of a reference of a kind. Only a link uses the label. -/
def resolutionOf (resolver : Resolver) (raw label : Text) : ReferenceKind → Resolution
  | .externalResource => resolveLink raw label
  | .keyword => resolveKeyword (keywordIn raw)
  | .internalSymbol => resolver.resolveSymbol raw

/-- A record takes over what its raw text resolves to. It has a label if it is taken for a link. -/
lemma resolveRecord_eq (resolver : Resolver) (record : Reference) (label : Text)
    (hraw : record.raw = .text t)
    (hlabel : record.kind.getD (classify (strip t)) = .externalResource →
      resolveLabelled (strip t) record.displayName = .ok (resolveLink (strip t) label)) :
    resolver.resolveRecord record = .ok (withResolution record
      (resolver.resolutionOf (strip t) label (record.kind.getD (classify (strip t))))) := by
  have htext : record.raw.expectText "strip".toList = .ok t := by
    rw [hraw]
    rfl
  refine bind_eq_ok.2 ⟨t, htext, ?_⟩
  dsimp only
  cases hkind : record.kind.getD (classify (strip t)) with
  | externalResource => exact bind_eq_ok.2 ⟨_, hlabel hkind, rfl⟩
  | keyword => rfl
  | internalSymbol => rfl

lemma linkName_linkName (label : Text) : linkName (linkName label) = linkName label := by
  by_cases hempty : (strip label).isEmpty = true
  · have hname : linkName label = "link".toList := if_pos hempty
    rw [hname]
    decide
  · have hname : linkName label = strip label := if_neg hempty
    rw [hname, linkName, (trimmed_strip label).strip, if_neg hempty]

/-- A link keeps the name that it was given. -/
lemma resolveLink_linkName (raw label : Text) :
    resolveLink raw (linkName label) = resolveLink raw label := by
  have hlink (label : Text) : resolveLink raw label =
      { raw, kind := .externalResource, state := .resolvedExternal,
        displayName := .text (linkName label), target := some (strip raw) } := rfl
  rw [hlink, hlink, linkName_linkName]

/-- A symbol stays a symbol, unless it is a web address. -/
lemma resolveSymbol_kind (resolver : Resolver) (raw : Text) :
    (resolver.resolveSymbol raw).kind = .internalSymbol ∨
      resolver.resolveSymbol raw = resolveLink (strip raw) [] := by
  unfold resolveSymbol
  dsimp only
  split
  · exact .inl rfl
  · split
    · exact .inr rfl
    · split
      · exact .inl rfl
      · split <;> exact .inl rfl

/-- A resolution comes again of its own kind and name. -/
lemma exists_resolutionOf_eq (resolver : Resolver) (label : Text) (kind : ReferenceKind)
    (htrimmed : Trimmed raw) :
    let r := resolver.resolutionOf raw label kind
    ∃ label', (r.kind = .externalResource → r.displayName = .text label') ∧
      resolver.resolutionOf raw label' r.kind = r := by
  intro r
  have hlink (label : Text) (hr : r = resolveLink raw label) :
      ∃ label', (r.kind = .externalResource → r.displayName = .text label') ∧
        resolver.resolutionOf raw label' r.kind = r := by
    rw [hr]
    exact ⟨linkName label, fun _ => rfl, resolveLink_linkName raw label⟩
  cases kind with
  | externalResource => exact hlink label rfl
  | keyword => exact ⟨[], nofun, rfl⟩
  | internalSymbol =>
    rcases resolver.resolveSymbol_kind raw with hkind | hurl
    · have hr : r.kind = .internalSymbol := hkind
      rw [hr]
      exact ⟨[], nofun, rfl⟩
    · rw [htrimmed.strip] at hurl
      exact hlink [] hurl

/-- **Resolving a record is stable.** A record whose raw text and name are texts, if it has a name,
is resolved whatever else it holds. It keeps its raw text, its state is known, and resolving it
again changes nothing. -/
theorem resolveRecord_stable (resolver : Resolver) (record : Reference)
    (hraw : record.raw = .text t)
    (hname : record.displayName = .null ∨ ∃ name, record.displayName = .text name) :
    ∃ resolved, resolver.resolveRecord record = .ok resolved ∧ resolved.raw = record.raw ∧
      resolved.state.isSome ∧ resolver.resolveRecord resolved = .ok resolved := by
  obtain ⟨label, hlabel⟩ : ∃ label,
      resolveLabelled (strip t) record.displayName = .ok (resolveLink (strip t) label) := by
    rcases hname with hnull | ⟨name, hname⟩
    · exact ⟨[], by rw [hnull]; rfl⟩
    · exact ⟨name, by rw [hname]; rfl⟩
  have hfirst := resolveRecord_eq resolver record label hraw fun _ => hlabel
  obtain ⟨label', hlabel', hagain⟩ := exists_resolutionOf_eq resolver label
    (record.kind.getD (classify (strip t))) (trimmed_strip t)
  refine ⟨_, hfirst, rfl, rfl, ?_⟩
  -- The second time, the kind and the label are those that the first time gave.
  generalize resolver.resolutionOf (strip t) label (record.kind.getD (classify (strip t))) = r at *
  have hsecond := resolveRecord_eq resolver (withResolution record r) label' hraw fun hkind => by
    rw [show (withResolution record r).displayName = .text label' from hlabel' hkind]
    rfl
  rw [hsecond]
  exact congrArg (fun r => Except.ok (withResolution record r)) hagain

/-- An address that was taken for a symbol becomes a link, and the name that it had is lost. -/
theorem resolveRecord_stable_of_address :
    let record : Reference :=
      { raw := .text " https://x".toList, kind := some .internalSymbol,
        displayName := .text "docs".toList }
    ∃ resolved, resolveRecord {} record = .ok resolved ∧ resolved.raw = record.raw ∧
      resolved.state.isSome ∧ resolveRecord {} resolved = .ok resolved :=
  resolveRecord_stable {} _ rfl (.inr ⟨_, rfl⟩)

/-! ### Spellings of a symbol -/

/-- The characters of spellings that are not in the keys of an index. -/
def spellingMarks : List Char :=
  [ '(', '<', '{', '`']

/-- No key has a parameter list, arguments or an arity. -/
def HasPlainKeys (index : LinkIndex) : Prop :=
  ∀ y ∈ index.entries, ∀ c ∈ spellingMarks, c ∉ y.1

lemma HasPlainKeys.lookup?_eq_none {index : LinkIndex} (h : HasPlainKeys index)
    (hc : c ∈ spellingMarks) (hmem : c ∈ t) : index.lookup? t = none := by
  have hfold : ∀ c ∈ spellingMarks, c ∈ foldChar c := List.all_iff_forall_prop.1 (by decide)
  rw [LinkIndex.lookup?, List.lookup_eq_none_iff]
  intro y hy
  rw [bne_iff_ne]
  intro heq
  apply h y hy c hc
  rw [← heq]
  exact List.mem_flatMap.2 ⟨c, hmem, hfold c hc⟩

/-- What becomes of a symbol that is neither blank nor a web address. -/
lemma resolveSymbol_eq (resolver : Resolver) (hstrip : strip t = raw) (hne : raw ≠ [])
    (hurl : isUrl raw = false) :
    resolver.resolveSymbol t = match resolver.lookup? raw with
      | some target => resolvedInternal t raw target
      | none =>
        if isExternal (dropParameters (dropLetter raw)) resolver.config.externalNamespaces then
          resolver.resolvedExternal t raw
        else unresolved t raw := by
  have hempty : raw.isEmpty = false := by simpa using hne
  cases hlookup : resolver.lookup? raw <;>
    simp only [resolveSymbol, hstrip, hempty, hurl, hlookup, Bool.false_eq_true, if_false]

/-! ### Where an address or a name ends -/

lemma afterName?_append {lead : Text} (hc : letter c ∉ lead) :
    afterName? lead (p ++ c :: q) = (afterName? lead p).map (· ++ c :: q) := by
  induction lead generalizing p with
  | nil => rfl
  | cons a lead ih =>
    obtain ⟨ha, hlead⟩ := not_or.1 (mt List.mem_cons.2 hc)
    cases p with
    | nil => exact if_neg ha
    | cons d p =>
      rw [List.cons_append, afterName?, afterName?]
      split
      · exact ih hlead
      · rfl

lemma startsWith_append {lead : Text} (hc : c ∉ lead) :
    startsWith lead (p ++ c :: q) = startsWith lead p := by
  induction lead generalizing p with
  | nil => rfl
  | cons a lead ih =>
    obtain ⟨ha, hlead⟩ := not_or.1 (mt List.mem_cons.2 hc)
    cases p with
    | nil => simp [startsWith, dropLead?, Ne.symm ha]
    | cons d p =>
      have hih := ih (p := p) hlead
      rw [startsWith, startsWith] at hih ⊢
      rw [List.cons_append, dropLead?, dropLead?]
      split
      · exact hih
      · rfl

/-- A character that no web address starts with ends the start of one. -/
lemma isUrl_append (hc : letter c ∉ "https".toList) (hmark : c ∉ "://".toList) :
    isUrl (p ++ c :: q) = isUrl p := by
  have hhttp : letter c ∉ "http".toList := fun h => hc (List.mem_append_left [ 's'] h)
  have hs : letter c ∉ [ 's'] := fun h => hc (List.mem_append_right "http".toList h)
  rw [isUrl, isUrl, afterName?_append hhttp]
  cases afterName? "http".toList p with
  | none => rfl
  | some rest =>
    simp only [Option.map_some]
    rw [startsWith_append hmark, afterName?_append hs, Option.any_map]
    congr 2
    funext t
    exact startsWith_append hmark

lemma mem_of_afterName? {lead rest : Text} (h : afterName? lead p = some rest) (hc : c ∈ rest) :
    c ∈ p := by
  induction lead generalizing p with
  | nil => rwa [Option.some.inj h]
  | cons a lead ih =>
    cases p with
    | nil => cases h
    | cons d p =>
      rw [afterName?] at h
      split at h
      · exact List.mem_cons_of_mem _ (ih h)
      · cases h

/-- There is a colon in a web address. -/
lemma isUrl_eq_false (hcolon : ':' ∉ p) : isUrl p = false := by
  have hmark (t : Text) (h : ':' ∉ t) : startsWith "://".toList t = false := by
    cases t with
    | nil => rfl
    | cons d t =>
      have hd : ':' ≠ d := fun heq => h (heq ▸ List.mem_cons_self)
      simp [startsWith, dropLead?, hd]
  unfold isUrl
  split
  case h_1 rest hrest =>
    have hcolon' : ':' ∉ rest := fun hmem => hcolon (mem_of_afterName? hrest hmem)
    rw [hmark rest hcolon', Bool.false_or]
    cases hs : afterName? [ 's'] rest with
    | none => rfl
    | some t => exact hmark t fun hmem => hcolon' (mem_of_afterName? hs hmem)
  · rfl

lemma dropParameters_append (h : '(' ∉ p) : dropParameters (p ++ '(' :: q) = p := by
  rw [dropParameters, List.takeWhile_append_of_pos, List.takeWhile_cons_of_neg (by simp),
    List.append_nil]
  intro c hc
  exact bne_iff_ne.2 fun heq => h (heq ▸ hc)

/-! ### Spellings of a generic type -/

/-- The kind letter of a type in front of a name. -/
def typeLetter (isTyped : Bool) : Text :=
  if isTyped then "T:".toList else []

variable {name : DottedName} {suffix : Suffix} {isTyped : Bool}

lemma dropLetter_typeLetter :
    dropLetter (typeLetter isTyped ++ name.spelled suffix) = name.spelled suffix := by
  cases isTyped with
  | true => rfl
  | false => exact name.dropLetter_spelled suffix

lemma kind_typeLetter :
    Symbol.kind (typeLetter isTyped ++ name.spelled suffix) =
      if isTyped then .type else .unknown := by
  cases isTyped with
  | true => rfl
  | false =>
    change Symbol.kind (name.spelled suffix) = .unknown
    rw [Symbol.kind, name.splitLetter?_spelled]

/-- A type with its suffix is looked up by its name. -/
lemma lookup?_typeLetter (h : HasPlainKeys resolver.index) :
    resolver.lookup? (typeLetter isTyped ++ name.spelled suffix) =
      resolver.index.lookup? name.text := by
  obtain ⟨c, hc, t, ht⟩ := suffix.follows.exists_cons
  have hmark : c ∈ spellingMarks := by
    have hmarks : ∀ c ∈ suffixMarks, c ∈ spellingMarks := List.all_iff_forall_prop.1 (by decide)
    exact hmarks c hc
  have hmem : c ∈ name.spelled suffix := by simp [DottedName.spelled, ht]
  have hbare := name.parameter_not_mem suffix
  have hwhole : '(' ∉ typeLetter isTyped ++ name.spelled suffix := by
    cases isTyped <;> simp [typeLetter, hbare]
  have hkeys : candidates (typeLetter isTyped ++ name.spelled suffix) =
      [typeLetter isTyped ++ name.spelled suffix, typeLetter isTyped ++ name.spelled suffix,
        name.spelled suffix, name.text] := by
    rw [candidates, dropLetter_typeLetter, dropParameters_eq_self hbare,
      dropParameters_eq_self hwhole, kind_typeLetter, name.normalize_spelled]
    cases isTyped <;> rfl
  have hwhole' := h.lookup?_eq_none hmark (List.mem_append_right (typeLetter isTyped) hmem)
  rw [lookup?, hkeys]
  simp only [List.findSome?_cons, List.findSome?_nil, hwhole', h.lookup?_eq_none hmark hmem]
  cases resolver.index.lookup? name.text <;> rfl

lemma trimmed_typeLetter : Trimmed (typeLetter isTyped ++ name.spelled suffix) := by
  cases isTyped with
  | false => exact name.trimmed_spelled suffix
  | true =>
    obtain ⟨c, -, t, ht⟩ := suffix.follows.exists_cons
    have hne : name.spelled suffix ≠ [] := by simp [DottedName.spelled, ht]
    constructor
    · intro d hd
      obtain rfl : 'T' = d := Option.some.inj hd
      decide
    · intro d hd
      rw [List.getLast?_append_of_ne_nil _ hne] at hd
      exact (name.trimmed_spelled suffix).2 d hd

lemma isUrl_typeLetter : isUrl (typeLetter isTyped ++ name.spelled suffix) = false := by
  cases isTyped with
  | true => rfl
  | false =>
    obtain ⟨c, hc, t, ht⟩ := suffix.follows.exists_cons
    have hmarks : ∀ c ∈ suffixMarks, letter c ∉ "https".toList ∧ c ∉ "://".toList :=
      List.all_iff_forall_prop.1 (by decide)
    change isUrl (name.text ++ suffix.text) = false
    rw [ht, isUrl_append (hmarks c hc).1 (hmarks c hc).2]
    exact isUrl_eq_false (name.not_mem (by simp))

lemma resolveSymbol_typeLetter {target : LinkTarget} (h : HasPlainKeys resolver.index)
    (hname : resolver.index.lookup? name.text = some target) :
    resolver.resolveSymbol (typeLetter isTyped ++ name.spelled suffix) =
      resolvedInternal (typeLetter isTyped ++ name.spelled suffix)
        (typeLetter isTyped ++ name.spelled suffix) target := by
  have hne : typeLetter isTyped ++ name.spelled suffix ≠ [] := by
    obtain ⟨c, -, t, ht⟩ := suffix.follows.exists_cons
    simp [DottedName.spelled, ht]
  rw [resolveSymbol_eq resolver trimmed_typeLetter.strip hne isUrl_typeLetter, lookup?_typeLetter h,
    hname]

/-! ### Parameters -/

lemma strip_append (hp : Trimmed p) (hne : p ≠ []) (hc : isBlank c = false) :
    strip (p ++ c :: q) = p ++ c :: stripRight q := by
  obtain ⟨d, p, rfl⟩ := List.exists_cons_of_ne_nil hne
  have hleft : stripLeft (d :: p ++ c :: q) = d :: p ++ c :: q :=
    List.dropWhile_cons_of_neg (by simp [hp.1 d rfl])
  have hright : (q.reverse ++ c :: (d :: p).reverse).dropWhile isBlank =
      q.reverse.dropWhile isBlank ++ c :: (d :: p).reverse := by
    rw [List.dropWhile_append]
    split
    case isTrue hempty =>
      rw [List.isEmpty_iff.1 hempty, List.dropWhile_cons_of_neg (by simp [hc]), List.nil_append]
    · rfl
  rw [strip, hleft, stripRight, List.reverse_append, List.reverse_cons, List.append_assoc,
    List.singleton_append, hright]
  simp [stripRight]

/-- What stands before a parameter list, and what does not depend on it. -/
lemma dropParameters_dropLetter (hp : '(' ∉ p) :
    dropParameters (dropLetter (p ++ '(' :: q)) = dropLetter p ∧
      dropParameters (dropLetter p) = dropLetter p := by
  have hbare : '(' ∉ dropLetter p := fun h => hp ((dropLetter_suffix p).mem h)
  rw [dropLetter_append (by decide) (by decide)]
  exact ⟨dropParameters_append hbare, dropParameters_eq_self hbare⟩

/-- Without its parameters a symbol is looked up under the same keys, and under no other. -/
lemma candidates_append (hp : '(' ∉ p) :
    ∃ keys, candidates p = p :: p :: keys ∧
      candidates (p ++ '(' :: q) = (p ++ '(' :: q) :: p :: keys := by
  obtain ⟨hwith, hwithout⟩ := @dropParameters_dropLetter p q hp
  rw [candidates, candidates, hwith, hwithout, dropParameters_append hp, dropParameters_eq_self hp,
    kind_append (by decide) (by decide)]
  exact ⟨_, rfl, rfl⟩

lemma lookup?_append (h : HasPlainKeys resolver.index) (hp : '(' ∉ p) :
    resolver.lookup? (p ++ '(' :: q) = resolver.lookup? p := by
  obtain ⟨keys, hwithout, hwith⟩ := @candidates_append p q hp
  have hnone : resolver.index.lookup? (p ++ '(' :: q) = none :=
    h.lookup?_eq_none (c := '(') (by decide) (by simp)
  rw [lookup?, lookup?, hwith, hwithout]
  simp only [List.findSome?_cons, hnone]
  cases resolver.index.lookup? p <;> rfl

/-- What a symbol resolves to does not depend on its parameters. -/
lemma resolveSymbol_append (h : HasPlainKeys resolver.index) (htrimmed : Trimmed p) (hne : p ≠ [])
    (hurl : isUrl p = false) (hp : '(' ∉ p) :
    { resolver.resolveSymbol (p ++ '(' :: q) with raw := p } = resolver.resolveSymbol p := by
  obtain ⟨hwith, hwithout⟩ := @dropParameters_dropLetter p (stripRight q) hp
  have hkind : Symbol.kind (p ++ '(' :: stripRight q) = Symbol.kind p :=
    kind_append (by decide) (by decide)
  have hsimple : simpleName (p ++ '(' :: stripRight q) = simpleName p := by
    rw [simpleName, simpleName, hwith, hwithout]
  have hurl' : isUrl (p ++ '(' :: stripRight q) = false := by
    rw [isUrl_append (by decide) (by decide), hurl]
  rw [resolveSymbol_eq resolver (strip_append htrimmed hne (by decide)) (by simp) hurl',
    resolveSymbol_eq resolver htrimmed.strip hne hurl, lookup?_append h hp, hwith, hwithout]
  cases resolver.lookup? p with
  | some target => simp only [resolvedInternal, hkind]
  | none =>
    dsimp only
    split
    · simp only [resolvedExternal, hkind, hwith, hwithout]
    · simp only [unresolved, hkind, hsimple]

/-- **A symbol is found by its spellings.** Let no key of the index have a parameter list, arguments
or an arity. Then a type that the index has by its name is found by the name with an arity or with
arguments nested to any depth, with and without the letter of a type; and what a symbol resolves to,
its raw text apart, is the same with any parameters behind it. -/
theorem resolveSymbol_spellings (resolver : Resolver) (hkeys : HasPlainKeys resolver.index) :
    (∀ (name : DottedName) (target : LinkTarget), resolver.index.lookup? name.text = some target →
      ∀ (isTyped : Bool) (suffix : Suffix),
        let r := resolver.resolveSymbol (typeLetter isTyped ++ name.spelled suffix)
        r.state = .resolvedInternal ∧ r.target = some target.href ∧ r.targetId = target.entityId ∧
          r.displayName = target.displayName) ∧
    ∀ p q : Text, p ≠ [] → strip p = p → isUrl p = false → '(' ∉ p →
      { resolver.resolveSymbol (p ++ '(' :: q) with raw := p } = resolver.resolveSymbol p := by
  constructor
  · intro name target hname isTyped suffix
    rw [resolveSymbol_typeLetter hkeys hname]
    exact ⟨rfl, rfl, rfl, rfl⟩
  · intro p q hne hstrip hurl hp
    exact resolveSymbol_append hkeys (hstrip ▸ trimmed_strip p) hne hurl hp

/-- A list with a list of the other style in it, and parameters that are not closed. -/
theorem resolveSymbol_spellings_of_list :
    let target : LinkTarget :=
      { entityId := .text "T:N.L".toList, path := "/api/L".toList, displayName := .text "L".toList,
        symbolKind := .type }
    let resolver : Resolver := { index := .ofEntries [("N.L".toList, target)] }
    let r := resolver.resolveSymbol "T:N.L<P{A,B}>".toList
    HasPlainKeys resolver.index ∧ r.state = .resolvedInternal ∧ r.target = some "/api/L".toList ∧
      r.targetId = .text "T:N.L".toList ∧ r.displayName = .text "L".toList ∧
      { resolver.resolveSymbol "N.L(int ".toList with raw := "N.L".toList } =
        resolver.resolveSymbol "N.L".toList := by
  intro target resolver r
  let name : DottedName :=
    { text := "N.L".toList
      plain := List.all_iff_forall_prop.1 (by decide)
      identifiers := List.all_iff_forall_prop.1 (by decide) }
  let pair : Nested := .char 'A' (by decide) (.char ',' (by decide) (.char 'B' (by decide) .nil))
  let args : Nested := .char 'P' (by decide) (.list .braces pair .nil)
  have hkeys : HasPlainKeys resolver.index := by
    intro y hy
    obtain rfl := List.mem_singleton.1 hy
    exact List.all_iff_forall_prop.1 (by decide)
  obtain ⟨hspelled, hparameters⟩ := resolveSymbol_spellings resolver hkeys
  obtain ⟨hstate, htarget, hid, hshown⟩ :=
    hspelled name target rfl true (.arguments .angles args)
  exact ⟨hkeys, hstate, htarget, hid, hshown,
    hparameters "N.L".toList "int ".toList (by decide) (by decide) (by decide) (by decide)⟩

end LinkedDocs.Resolver
