import LinkedDocs.Proofs.Layout
import LinkedDocs.Proofs.Postings

/-!
# Paths from the root of the site

The path of every target begins with a slash, and it is read from the root of the site if no other
slash comes next. Main statement: this is so exactly if the folder of all pages has a name, the root
of the site itself apart (`root_relative_targets`). An empty name is accepted, and the paths of
pages then have two slashes in front (`not_root_relative_of_empty_root`).
-/

namespace LinkedDocs

/-! ### Trimming -/

namespace Text

variable {c d : Char} {t : Text}

lemma trimChar_eq_nil : trimChar c t = [] ↔ ∀ d ∈ t, d = c := by
  rw [trimChar, List.reverse_eq_nil_iff, List.dropWhile_eq_nil_iff]
  constructor
  · intro h d hd
    rw [← List.takeWhile_append_dropWhile (p := (· == c)) (l := t), List.mem_append] at hd
    rcases hd with hd | hd
    · exact beq_iff_eq.1 (List.mem_takeWhile_imp (p := (· == c)) hd)
    · exact beq_iff_eq.1 (h d (List.mem_reverse.2 hd))
  · intro h d hd
    exact beq_iff_eq.2 (h d ((List.dropWhile_suffix _).mem (List.mem_reverse.1 hd)))

lemma ne_of_head?_dropWhile (h : (t.dropWhile (· == c)).head? = some d) : d ≠ c := by
  have hnot := List.head?_dropWhile_not (· == c) t
  rw [h] at hnot
  exact beq_eq_false_iff_ne.1 hnot

/-- What is trimmed begins as the text does after the character that is dropped. -/
lemma ne_of_head?_trimChar (h : (trimChar c t).head? = some d) : d ≠ c := by
  obtain ⟨v, hv⟩ : trimChar c t <+: t.dropWhile (· == c) := by
    rw [trimChar, ← List.reverse_suffix, List.reverse_reverse]
    exact List.dropWhile_suffix _
  refine ne_of_head?_dropWhile (t := t) ?_
  rw [← hv, List.head?_append, h]
  rfl

end Text

namespace LinkIndex

open Text

variable {g : Graph} {config : Config} {index : LinkIndex} {rs : List (Text × LinkTarget)}
  {y : Text × LinkTarget}

/-! ### Paths -/

/-- A path that is read from the root of the site. After a second slash there would be a host. -/
def IsRootRelative (path : Text) : Prop :=
  path.head? = some '/' ∧ path.tail.head? ≠ some '/'

instance : DecidablePred IsRootRelative := fun _ => inferInstanceAs (Decidable (_ ∧ _))

/-- The folder of all pages, without the slashes around it. -/
def rootFolder (config : Config) : Text :=
  trimChar '/' (replaceChar '\\' ['/'] config.root)

/-- Whether the root has a name and not only slashes of either kind. -/
def IsNamed (root : Text) : Prop :=
  ∃ c ∈ root, c ≠ '/' ∧ c ≠ '\\'

lemma rootFolder_eq_nil : rootFolder config = [] ↔ ¬IsNamed config.root := by
  rw [rootFolder, trimChar_eq_nil]
  constructor
  · rintro h ⟨c, hc, hslash, hback⟩
    refine hslash (h c (List.mem_flatMap.2 ⟨c, hc, ?_⟩))
    rw [if_neg hback]
    exact List.mem_singleton_self c
  · intro h d hd
    obtain ⟨c, hc, hmem⟩ := List.mem_flatMap.1 hd
    split at hmem
    · exact List.mem_singleton.1 hmem
    case isFalse hback =>
      obtain rfl := List.mem_singleton.1 hmem
      by_contra hslash
      exact h ⟨d, hc, hslash, hback⟩

/-- The folder of all pages, or a page in it whose path has no slash in front. -/
lemma pagePath_cases (config : Config) (page : Text) :
    pagePath config page = '/' :: rootFolder config ∨ ∃ c rest, c ≠ '/' ∧
      pagePath config page = '/' :: (rootFolder config ++ '/' :: c :: rest) := by
  rw [pagePath]
  cases hpage : (replaceChar '\\' ['/'] page).dropWhile (· == '/') with
  | nil => exact .inl rfl
  | cons c rest => exact .inr ⟨c, rest, ne_of_head?_dropWhile (by rw [hpage]; rfl), rfl⟩

/-- The path of a page is read from the root if the root has a name, and else only if it is that of
the root itself. -/
lemma isRootRelative_pagePath (config : Config) (page : Text) :
    IsRootRelative (pagePath config page) ↔
      IsNamed config.root ∨ pagePath config page = ['/'] := by
  by_cases hnamed : IsNamed config.root
  · have hne : rootFolder config ≠ [] := mt rootFolder_eq_nil.1 (not_not.2 hnamed)
    obtain ⟨a, folder, hfolder⟩ := List.exists_cons_of_ne_nil hne
    have ha : a ≠ '/' := ne_of_head?_trimChar (congrArg List.head? hfolder)
    refine iff_of_true ?_ (.inl hnamed)
    rcases pagePath_cases config page with h | ⟨c, rest, -, h⟩
    · simp [h, hfolder, IsRootRelative, ha]
    · simp [h, hfolder, IsRootRelative, ha]
  · have hfolder := rootFolder_eq_nil.2 hnamed
    rcases pagePath_cases config page with h | ⟨c, rest, -, h⟩
    · simp [h, hfolder, IsRootRelative]
    · simp [h, hfolder, hnamed, IsRootRelative]

/-! ### Targets -/

lemma mem_entries_register {k : Text} {target : LinkTarget}
    (h : y ∈ (index.register k target).entries) : y ∈ index.entries ∨ target = y.2 := by
  unfold register at h
  split at h
  case isTrue => exact .inl h
  case isFalse =>
    rcases List.mem_append.1 h with h | h
    · exact .inl h
    · exact .inr (congrArg Prod.snd (List.mem_singleton.1 h)).symm

/-- Every target of an index was registered. -/
lemma exists_of_mem_ofRegistrations (h : y ∈ (ofRegistrations rs).entries) :
    ∃ r ∈ rs, r.2 = y.2 := by
  have hfrom : ∀ index : LinkIndex,
      y ∈ (rs.foldl (fun index r => index.register r.1 r.2) index).entries →
        y ∈ index.entries ∨ ∃ r ∈ rs, r.2 = y.2 := by
    clear h
    induction rs with
    | nil => exact fun _ => .inl
    | cons r rs ih =>
      intro index h
      rcases ih _ h with h | ⟨r', hr', heq⟩
      · exact (mem_entries_register h).imp_right fun heq => ⟨r, List.mem_cons_self, heq⟩
      · exact .inr ⟨r', List.mem_cons_of_mem _ hr', heq⟩
  exact (hfrom {} h).resolve_left List.not_mem_nil

/-- Every target of the index of a graph lies on a page. -/
lemma exists_page (h : build g config = .ok index) (hy : y ∈ index.entries) :
    ∃ page, y.2.path = pagePath config page := by
  obtain ⟨rs, hrs, hbuilt⟩ := bind_eq_ok.1 h
  obtain rfl := registrations_eq hrs
  obtain rfl := Except.ok.inj hbuilt
  obtain ⟨r, hr, heq⟩ := exists_of_mem_ofRegistrations hy
  obtain ⟨p, -, hp⟩ := List.mem_flatMap.1 hr
  obtain ⟨key, -, rfl⟩ := List.mem_map.1 hp
  rw [← heq]
  cases p with
  | assembly a => exact ⟨[], rfl⟩
  | space s => exact ⟨namespacePage config (Posting.spaceText s), rfl⟩
  | type s t | member s t m => exact ⟨typePage config (Posting.spaceText s) t.name.toText, rfl⟩

/-- **Targets are read from the root.** The path of every target in the index of a graph is a slash
and the folder of all pages, with a slash and a page behind it or without. It is read from the root
exactly if the root has a name, or if it is a slash only. So if the root is empty or has slashes
only, the path of every page has two slashes in front, and what comes next is read as a host. -/
theorem root_relative_targets (h : build g config = .ok index) : ∀ y ∈ index.entries,
    (y.2.path = '/' :: rootFolder config ∨
      ∃ c rest, c ≠ '/' ∧ y.2.path = '/' :: (rootFolder config ++ '/' :: c :: rest)) ∧
    (IsRootRelative y.2.path ↔ IsNamed config.root ∨ y.2.path = ['/']) := by
  intro y hy
  obtain ⟨page, hpage⟩ := exists_page h hy
  rw [hpage]
  exact ⟨pagePath_cases config page, isRootRelative_pagePath config page⟩

/-- A namespace with a type whose name begins with slashes. -/
def slashedGraph : Graph :=
  Graph.typesGraph [[("name", .text "\\/T".toList)]]

theorem root_relative_targets_of_slashes :
    let config : Config := { root := "\\/docs\\api/".toList }
    IsNamed config.root ∧ ∃ index, build slashedGraph config = .ok index ∧
      index.entries.map (·.2.path) = ([ "/docs/api", "/docs/api/N", "/docs/api/T", "/docs/api/T",
        "/docs/api/T"].map String.toList) ∧
      ∀ y ∈ index.entries, IsRootRelative y.2.path := by
  intro config
  have hnamed : IsNamed config.root := ⟨'d', by decide, by decide⟩
  have hpaths : (build slashedGraph config).toOption.map (·.entries.map (·.2.path)) =
      some ([ "/docs/api", "/docs/api/N", "/docs/api/T", "/docs/api/T", "/docs/api/T"].map
        String.toList) := by decide +kernel
  obtain ⟨index, hindex, hentries⟩ := Option.map_eq_some_iff.1 hpaths
  have hbuild := eq_ok_of_toOption hindex
  refine ⟨hnamed, index, hbuild, hentries, fun y hy => ?_⟩
  exact (root_relative_targets hbuild y hy).2.2 (.inl hnamed)

/-- The empty root is accepted, and then a namespace is taken for a host. -/
theorem not_root_relative_of_empty_root :
    Config.ofEntries [(.text "api_reference_path".toList, .text [])] = .ok { root := [] } ∧
    ∃ index, build (Graph.typesGraph []) { root := [] } = .ok index ∧
      (index.lookup? "N:N".toList).map (·.path) = some "//N".toList ∧
      ¬IsRootRelative "//N".toList := by
  have hpath : (build (Graph.typesGraph []) { root := [] }).toOption.map
      (fun index => (index.lookup? "N:N".toList).map (·.path)) = some (some "//N".toList) := by
    decide +kernel
  obtain ⟨index, hindex, hfound⟩ := Option.map_eq_some_iff.1 hpath
  exact ⟨rfl, index, eq_ok_of_toOption hindex, hfound, by decide⟩

end LinkIndex

end LinkedDocs
