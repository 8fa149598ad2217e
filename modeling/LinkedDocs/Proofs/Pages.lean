import Mathlib.Data.List.Basic
import LinkedDocs.Link.Index

/-!
# Pages in folders

In the folder layout the page of a namespace is the index of its folder, and the page of a type is a
file in the folder of its namespace. Main statement: no two of them share a page, but for a type
with the name of the index.
-/

namespace LinkedDocs.LinkIndex

open Text

variable {config : Config} {c d : Char} {t t' u u' page page' : Text}

/-! ### Characters that stand for others -/

/-- A character that is replaced by one that was not there can be put back. -/
lemma replaceChar_replaceChar (h : d ∉ t) : replaceChar d [c] (replaceChar c [d] t) = t := by
  induction t with
  | nil => rfl
  | cons a t ih =>
    obtain ⟨ha, ht⟩ : d ≠ a ∧ d ∉ t := by simpa using h
    have hcons : replaceChar d [c] (replaceChar c [d] (a :: t)) =
        replaceChar d [c] (if a = c then [d] else [a]) ++ t := by
      conv_rhs => rw [← ih ht]
      simp [replaceChar]
    rw [hcons]
    by_cases hac : a = c
    · simp [replaceChar, hac]
    · simp [replaceChar, hac, Ne.symm ha]

lemma replaceChar_inj (h : d ∉ t) (h' : d ∉ u) :
    replaceChar c [d] t = replaceChar c [d] u ↔ t = u := by
  refine ⟨fun heq => ?_, congrArg _⟩
  rw [← @replaceChar_replaceChar c d t h, heq, replaceChar_replaceChar h']

/-- What comes after the last occurrence of a character is where two texts are cut alike. -/
lemma append_cons_inj (h : c ∉ t) (h' : c ∉ t') :
    u ++ c :: t = u' ++ c :: t' ↔ u = u' ∧ t = t' := by
  refine ⟨fun heq => ?_, fun ⟨hu, ht⟩ => by rw [hu, ht]⟩
  have hcut {u u' t t' w : Text} (ht : c ∉ t) (hu : u' = u ++ w) (hw : c :: t = w ++ c :: t') :
      u = u' ∧ t = t' := by
    cases w with
    | nil => exact ⟨by simpa using hu.symm, (List.cons.inj hw).2⟩
    | cons a w => exact absurd (show c ∈ t by simp [(List.cons.inj hw).2]) ht
  rcases List.append_eq_append_iff.1 heq with ⟨w, hu, hw⟩ | ⟨w, hu, hw⟩
  · exact hcut h hu hw
  · obtain ⟨hu, ht⟩ := hcut h' hu hw
    exact ⟨hu.symm, ht.symm⟩

/-! ### Names -/

/-- A name of a page or of a folder: some text without slashes. -/
def IsPlainName (name : Text) : Prop :=
  name ≠ [] ∧ '/' ∉ name ∧ '\\' ∉ name

instance : DecidablePred IsPlainName := fun _ => inferInstanceAs (Decidable (_ ∧ _ ∧ _))

/-- The name of a namespace: none, or names with dots between them. -/
def IsSpaceName (name : Text) : Prop :=
  name = [] ∨ ∀ segment ∈ splitOn '.' name, IsPlainName segment

instance : DecidablePred IsSpaceName := fun _ => inferInstanceAs (Decidable (_ ∨ _))

lemma splitOn_cons_self (c : Char) (t : Text) : splitOn c (c :: t) = [] :: splitOn c t := by
  obtain ⟨part, parts, hparts⟩ := List.exists_cons_of_ne_nil (splitOn_ne_nil c t)
  simp [splitOn, hparts]

lemma exists_mem_splitOn (hd : d ≠ c) (h : d ∈ t) : ∃ part ∈ splitOn c t, d ∈ part := by
  induction t with
  | nil => cases h
  | cons a t ih =>
    rw [splitOn]
    split
    case h_1 hnil =>
      rcases List.mem_cons.1 h with rfl | h
      · exact ⟨_, List.mem_cons_self, List.mem_cons_self⟩
      · obtain ⟨part, hpart, -⟩ := ih h
        simp [hnil] at hpart
    case h_2 first parts hparts =>
      rw [hparts] at ih
      by_cases hac : a = c
      · obtain ⟨part, hpart, hmem⟩ := ih ((List.mem_cons.1 h).resolve_left (hac ▸ hd))
        exact ⟨part, by simp [hac, hpart], hmem⟩
      · rw [if_neg hac]
        rcases List.mem_cons.1 h with rfl | h
        · exact ⟨_, List.mem_cons_self, List.mem_cons_self⟩
        · obtain ⟨part, hpart, hmem⟩ := ih h
          rcases List.mem_cons.1 hpart with rfl | hpart
          · exact ⟨_, List.mem_cons_self, List.mem_cons_of_mem _ hmem⟩
          · exact ⟨part, List.mem_cons_of_mem _ hpart, hmem⟩

/-- The title of a namespace is some text without slashes, and no dot comes first in it. -/
lemma IsSpaceName.title {name : Text} (h : IsSpaceName name) :
    IsPlainName (spaceTitle name) ∧ (spaceTitle name).head? ≠ some '.' := by
  rcases h with rfl | h
  · decide
  · have hchars (d : Char) (hd : d ≠ '.') (hnot : ∀ part, IsPlainName part → d ∉ part) :
        d ∉ name := by
      intro hmem
      obtain ⟨part, hpart, hin⟩ := exists_mem_splitOn hd hmem
      exact hnot part (h part hpart) hin
    cases name with
    | nil => exact absurd rfl (h [] (by simp [splitOn])).1
    | cons a name =>
      refine ⟨⟨List.cons_ne_nil _ _, hchars '/' (by decide) fun _ hp => hp.2.1,
        hchars '\\' (by decide) fun _ hp => hp.2.2⟩, fun hdot => ?_⟩
      obtain rfl : a = '.' := Option.some.inj hdot
      exact (h [] (by simp [splitOn_cons_self])).1 rfl

lemma IsSpaceName.folder_inj {name name' : Text} (h : IsSpaceName name) (h' : IsSpaceName name') :
    folder name = folder name' ↔ spaceTitle name = spaceTitle name' :=
  replaceChar_inj h.title.1.2.1 h'.title.1.2.1

/-! ### Paths -/

/-- A page that is not below a slash has its path below the root. -/
lemma pagePath_eq (hhead : ∀ a ∈ page.head?, a ≠ '/') (hne : page ≠ []) (hslash : '\\' ∉ page) :
    pagePath config page =
      '/' :: (trimChar '/' (replaceChar '\\' ['/'] config.root) ++ '/' :: page) := by
  obtain ⟨a, page, rfl⟩ := List.exists_cons_of_ne_nil hne
  have hdrop : (a :: page).dropWhile (· == '/') = a :: page :=
    List.dropWhile_cons_of_neg (by simpa using hhead a rfl)
  simp only [pagePath, replaceChar_eq_self hslash, hdrop, List.cons_append]

/-- The path of a page in the folder of a namespace. -/
lemma IsSpaceName.pagePath_folder {name page : Text} (h : IsSpaceName name)
    (hpage : IsPlainName page) : pagePath config (folder name ++ '/' :: page) =
      '/' :: (trimChar '/' (replaceChar '\\' ['/'] config.root) ++
        '/' :: (folder name ++ '/' :: page)) := by
  obtain ⟨⟨hne, hslash, hback⟩, hdot⟩ := h.title
  obtain ⟨a, title, htitle⟩ := List.exists_cons_of_ne_nil hne
  have hfolder : folder name = a :: replaceChar '.' ['/'] title := by
    have ha : a ≠ '.' := fun heq => hdot (by rw [htitle, heq]; rfl)
    simp [folder, htitle, replaceChar, ha]
  have hbackslash : '\\' ∉ folder name := by
    intro hmem
    obtain ⟨b, hb, hmem⟩ := List.mem_flatMap.1 hmem
    split at hmem
    · exact absurd (List.mem_singleton.1 hmem) (by decide)
    · exact hback (List.mem_singleton.1 hmem ▸ hb)
  refine pagePath_eq (fun b hb => ?_) (by simp) ?_
  · obtain rfl : a = b := by simpa [hfolder] using hb
    exact fun heq => hslash (by simp [htitle, heq])
  · simp [hbackslash, hpage.2.2]

/-- Pages in folders are told apart by their names and by the namespaces. -/
lemma pagePath_folder_inj {name name' page page' : Text} (h : IsSpaceName name)
    (h' : IsSpaceName name') (hpage : IsPlainName page) (hpage' : IsPlainName page') :
    pagePath config (folder name ++ '/' :: page) = pagePath config (folder name' ++ '/' :: page') ↔
      page = page' ∧ spaceTitle name = spaceTitle name' := by
  rw [h.pagePath_folder hpage, h'.pagePath_folder hpage', List.cons_inj_right,
    List.append_cancel_left_eq, List.cons_inj_right, append_cons_inj hpage.2.1 hpage'.2.1,
    h.folder_inj h', and_comm]

/-- **Pages in folders are unambiguous.** In the folder layout, wherever the root is, two types have
the same page exactly if they have the same name and their namespaces the same title, two namespaces
exactly if they have the same title, and a type has the page of a namespace exactly if it is called
like the index and lies in a namespace with that title. -/
theorem folder_pages_unambiguous (hlayout : config.layout = .folder)
    {space space' type type' : Text} (hspace : IsSpaceName space) (hspace' : IsSpaceName space')
    (htype : IsPlainName type) (htype' : IsPlainName type') :
    (pagePath config (typePage config space type) = pagePath config (typePage config space' type') ↔
      type = type' ∧ spaceTitle space = spaceTitle space') ∧
    (pagePath config (namespacePage config space) = pagePath config (namespacePage config space') ↔
      spaceTitle space = spaceTitle space') ∧
    (pagePath config (typePage config space type) = pagePath config (namespacePage config space') ↔
      type = "index".toList ∧ spaceTitle space = spaceTitle space') := by
  have hindex : IsPlainName "index".toList := by decide
  have hspacePage (name : Text) :
      namespacePage config name = folder name ++ '/' :: "index".toList := by
    rw [namespacePage, hlayout]
    rfl
  have htypePage (name page : Text) : typePage config name page = folder name ++ '/' :: page := by
    rw [typePage, hlayout]
  simp only [hspacePage, htypePage]
  refine ⟨pagePath_folder_inj hspace hspace' htype htype', ?_,
    pagePath_folder_inj hspace hspace' htype hindex⟩
  rw [pagePath_folder_inj hspace hspace' hindex hindex]
  exact and_iff_right rfl

/-- The folder layout below a root with slashes of both kinds. -/
def folderConfig : Config :=
  { root := "\\docs/api/".toList, layout := .folder }

theorem folder_pages_of_global :
    folderConfig.layout = .folder ∧ IsSpaceName [] ∧ IsSpaceName "Global".toList ∧
      IsPlainName "index".toList ∧ IsPlainName "List`1".toList ∧
      pagePath folderConfig (typePage folderConfig [] "index".toList) =
        pagePath folderConfig (namespacePage folderConfig "Global".toList) ∧
      pagePath folderConfig (typePage folderConfig [] "index".toList) ≠
        pagePath folderConfig (typePage folderConfig "Global".toList "List`1".toList) := by
  have hlayout : folderConfig.layout = .folder := rfl
  have hnone : IsSpaceName [] := by decide
  have hglobal : IsSpaceName "Global".toList := by decide
  have hindex : IsPlainName "index".toList := by decide
  have hlist : IsPlainName "List`1".toList := by decide
  obtain ⟨htypes, -, hspace⟩ := folder_pages_unambiguous hlayout hnone hglobal hindex hlist
  exact ⟨hlayout, hnone, hglobal, hindex, hlist, hspace.2 (by decide), mt htypes.1 (by decide)⟩

end LinkedDocs.LinkIndex
