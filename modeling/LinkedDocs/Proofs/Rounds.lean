import Mathlib.Algebra.GroupWithZero.Nat
import Mathlib.Algebra.Order.BigOperators.Group.List
import Mathlib.Algebra.Order.Group.Nat
import LinkedDocs.Proofs.Rows
import LinkedDocs.Proofs.Scanning
import LinkedDocs.Proofs.Sparing

/-!
# Rounds come to an end

Elements are formatted and lists are laid out in rounds, from the inside, until a round changes
nothing. The texts grow on the way, and what is put in their place can join to new tags. Main
statement: a round that changes a text takes at least two opening angle brackets from it, so their
number bounds the rounds. For lists this needs terms and descriptions that do not overlap, since the
content of both is shown.
-/

namespace LinkedDocs.Markup

open Text

variable {α : Type} {m : Recogniser α} {content image : α → Text} {before : Option Char}
  {name t u rest : Text} {c : Char}

/-! ### Elements around their content -/

/-- What is found is an element: its content stands between two tags. -/
def Encloses (m : Recogniser α) (content : α → Text) : Prop :=
  ∀ ⦃before t a rest⦄, m before t = some (a, rest) →
    ∃ u v, t = '<' :: u ++ (content a ++ '<' :: v ++ rest)

lemma exists_of_afterOpen? (h : afterOpen? name t = some rest) : ∃ u, t = '<' :: u ++ rest := by
  unfold afterOpen? at h
  split at h
  case h_1 cs =>
    obtain ⟨after, hname, hend⟩ := Option.bind_eq_some_iff.1 h
    obtain ⟨spelling, rfl, -⟩ := exists_of_afterName? hname
    obtain ⟨gap, rfl, -⟩ := exists_of_afterTagEnd? hend
    exact ⟨spelling ++ gap ++ ['>'], by simp⟩
  · cases h

lemma exists_of_afterClose? (h : afterClose? name t = some rest) : ∃ u, t = '<' :: u ++ rest := by
  obtain ⟨tag, rfl, spelling, gap, rfl, -⟩ := afterClose?_eq_some_iff.1 h
  exact ⟨_, rfl⟩

/-- What follows an opening tag, up to a closing one. -/
lemma exists_of_upTo? {body : Text} (h : upTo? (afterClose? name) t = some (body, rest)) :
    ∃ v, t = body ++ '<' :: v ++ rest := by
  obtain ⟨tail, rfl, hclose⟩ := upTo?_eq_some h
  obtain ⟨v, rfl⟩ := exists_of_afterClose? hclose
  exact ⟨v, by simp⟩

lemma encloses_element (name : Text) : Encloses (element name) id := by
  intro before t body rest h
  obtain ⟨after, hopen, hbody⟩ := Option.bind_eq_some_iff.1 h
  obtain ⟨u, rfl⟩ := exists_of_afterOpen? hopen
  obtain ⟨v, rfl⟩ := exists_of_upTo? hbody
  exact ⟨u, v, rfl⟩

lemma encloses_innermost (name : Text) : Encloses (innermost name) id := by
  intro before t body rest h
  obtain ⟨after, hopen, hbody⟩ := Option.bind_eq_some_iff.1 h
  obtain ⟨u, rfl⟩ := exists_of_afterOpen? hopen
  obtain ⟨v, rfl⟩ := exists_of_upTo? (upTo?_of_upToWithout? hbody)
  exact ⟨u, v, rfl⟩

lemma encloses_listElement : Encloses listElement ListElement.body := by
  intro before t e rest h
  unfold listElement at h
  split at h
  case h_1 cs =>
    split at h
    case h_1 after hname =>
      obtain ⟨spelling, rfl, -⟩ := exists_of_afterName? hname
      split at h
      case h_1 d inner hdrop =>
        obtain ⟨⟨body, rest'⟩, hbody, heq⟩ := Option.map_eq_some_iff.1 h
        obtain ⟨rfl, rfl⟩ := Prod.mk.inj heq
        obtain ⟨v, rfl⟩ := exists_of_upTo? (upTo?_of_upToWithout? hbody)
        refine ⟨spelling ++ after.takeWhile (· != '>') ++ [d], v, ?_⟩
        conv_lhs => rw [← List.takeWhile_append_dropWhile (p := (· != '>')) (l := after), hdrop]
        simp
      · cases h
    · cases h
  · cases h

/-! ### Angle brackets -/

/-- What is found has at least so many opening angle brackets in it. -/
def Takes (m : Recogniser α) (weight : α → Nat) : Prop :=
  ∀ ⦃before t a rest⦄, m before t = some (a, rest) → weight a + rest.count '<' ≤ t.count '<'

lemma Encloses.takes (h : Encloses m content) : Takes m fun a => (content a).count '<' + 2 := by
  intro before t a rest hfound
  obtain ⟨u, v, rfl⟩ := h hfound
  simp only [List.count_append, List.cons_append, List.count_cons_self]
  omega

lemma takes_of_suffix (h : ∀ {before t a rest}, m before t = some (a, rest) → rest <:+ t) :
    Takes m fun _ => 0 := by
  intro before t a rest hfound
  simpa using (h hfound).sublist.count_le '<'

/-- If no image has more angle brackets than what it stands for, and each has `k` less, then
replacing takes `k` angle brackets for every find. -/
lemma Takes.count_flatMap_le {weight : α → Nat} (h : Takes m weight) (image : α → Text) (k : Nat)
    (before : Option Char) (t : Text)
    (himage : ∀ a, .found a ∈ pieces m before t → (image a).count '<' + k ≤ weight a) :
    ((pieces m before t).flatMap (Piece.text image)).count '<' +
      k * (findsOf (pieces m before t)).length ≤ t.count '<' := by
  fun_induction pieces m before t with
  | case1 => simp [findsOf]
  | case2 before c cs a rest hfound hlen ih =>
    have ha := himage a List.mem_cons_self
    have hrest := ih fun b hb => himage b (List.mem_cons_of_mem _ hb)
    have htakes := h hfound
    rw [List.flatMap_cons, List.count_append, findsOf_found, List.length_cons, Nat.mul_succ,
      Piece.text]
    omega
  | case3 before c cs a rest hfound hlen ih =>
    have hrest := ih fun b hb => himage b (List.mem_cons_of_mem _ hb)
    rw [List.flatMap_cons, List.count_append, findsOf_plain, Piece.text, List.count_cons,
      List.count_cons, List.count_nil]
    omega
  | case4 before c cs hnone ih =>
    have hrest := ih fun b hb => himage b (List.mem_cons_of_mem _ hb)
    rw [List.flatMap_cons, List.count_append, findsOf_plain, Piece.text, List.count_cons,
      List.count_cons, List.count_nil]
    omega

lemma Takes.count_replace_le (h : Takes m fun _ => 0) (himage : ∀ a, '<' ∉ image a) :
    (replace m image t).count '<' ≤ t.count '<' := by
  have hle := h.count_flatMap_le image 0 none t fun a _ => by
    rw [List.count_eq_zero.2 (himage a)]
  rw [Nat.zero_mul, Nat.add_zero] at hle
  exact hle

/-- All finds together have no more angle brackets than the text. -/
lemma Takes.sum_finds_le {weight : α → Nat} (h : Takes m weight) (before : Option Char) (t : Text) :
    ((findsOf (pieces m before t)).map weight).sum ≤ t.count '<' := by
  fun_induction pieces m before t with
  | case1 => simp [findsOf]
  | case2 before c cs a rest hfound hlen ih =>
    have htakes := h hfound
    rw [findsOf_found, List.map_cons, List.sum_cons]
    omega
  | case3 before c cs a rest hfound hlen ih =>
    rw [findsOf_plain, List.count_cons]
    omega
  | case4 before c cs hnone ih =>
    rw [findsOf_plain, List.count_cons]
    omega

lemma pieces_eq_map_of_findsOf (h : findsOf (pieces m before t) = []) :
    pieces m before t = t.map .plain := by
  fun_induction pieces m before t with
  | case1 => rfl
  | case2 before c cs a rest hfound hlen ih => cases h
  | case3 before c cs a rest hfound hlen ih => rw [ih h, List.map_cons]
  | case4 before c cs hnone ih => rw [ih h, List.map_cons]

/-- A text in which no element is found has none at any place. -/
lemma Encloses.eq_none_of_findsOf (h : Encloses m content)
    (hfinds : findsOf (pieces m before t) = []) :
    ∀ a c v, t = a ++ c :: v → m (a.getLast?.or before) (c :: v) = none := by
  fun_induction pieces m before t with
  | case1 => simp
  | case2 before c cs a rest hfound hlen ih => cases hfinds
  | case3 before c cs a rest hfound hlen ih =>
    obtain ⟨u, v, heq⟩ := h hfound
    have hlength := congrArg List.length heq
    simp only [List.length_cons, List.length_append] at hlength
    omega
  | case4 before c cs hnone ih =>
    rintro (_ | ⟨d, a⟩) e v heq
    · rw [List.nil_append] at heq
      rw [← heq]
      exact hnone
    · obtain ⟨rfl, rfl⟩ := List.cons.inj heq
      rw [getLast?_cons_or]
      exact ih hfinds a e v rfl

/-- Replacing elements changes nothing if there are none, and takes the angle brackets of their tags
otherwise. -/
lemma Encloses.replace_cases (h : Encloses m content)
    (himage : ∀ a ∈ finds m t, (image a).count '<' ≤ (content a).count '<') :
    finds m t = [] ∧ replace m image t = t ∨
      (replace m image t).count '<' + 2 ≤ t.count '<' := by
  cases hfinds : finds m t with
  | nil => exact .inl ⟨rfl, replace_eq_self _ (pieces_eq_map_of_findsOf hfinds)⟩
  | cons a finds =>
    have hle := h.takes.count_flatMap_le image 2 none t
      fun b hb => Nat.add_le_add_right (himage b (mem_findsOf.2 hb)) 2
    have hlength : (findsOf (pieces m none t)).length = finds.length + 1 := congrArg _ hfinds
    rw [hlength] at hle
    rw [replace_eq_flatMap]
    omega

/-! ### Rounds of formatting -/

/-- A pass that changes a text takes at least two angle brackets from it. -/
def Sheds (pass : Text → Text) : Prop :=
  ∀ t, pass t = t ∨ (pass t).count '<' + 2 ≤ t.count '<'

lemma Sheds.comp {f g : Text → Text} (hf : Sheds f) (hg : Sheds g) : Sheds (g ∘ f) := by
  intro t
  rcases hf t with hf | hf
  · rw [Function.comp_apply, hf]
    exact hg t
  · rcases hg (f t) with hg | hg
    · exact .inr (by rwa [Function.comp_apply, hg])
    · exact .inr (by rw [Function.comp_apply]; omega)

/-- No pass can undo what another one has done. -/
lemma Sheds.of_comp_eq {f g : Text → Text} (hf : Sheds f) (hg : Sheds g) (h : g (f t) = t) :
    f t = t ∧ g t = t := by
  rcases hf t with hstill | hless
  · rw [hstill] at h
    exact ⟨hstill, h⟩
  · rcases hg (f t) with hstill | hless'
    · rw [← hstill, h] at hless
      omega
    · rw [h] at hless'
      omega

lemma count_strip_le (t : Text) : (strip t).count '<' ≤ t.count '<' :=
  (isInfix_strip t).sublist.count_le _

lemma count_of_isBlank (h : ∀ c ∈ t, isBlank c = true) : t.count '<' = 0 :=
  List.count_eq_zero.2 fun hmem => absurd (h '<' hmem) (by decide)

lemma count_paragraph_le (inner : Text) : (paragraph inner).count '<' ≤ inner.count '<' := by
  have hbreaks : "\n\n".toList.count '<' = 0 := by decide
  have hstrip := count_strip_le inner
  unfold paragraph
  dsimp only
  split
  · rw [hbreaks]
    exact Nat.zero_le _
  · rw [List.count_append, List.count_append, hbreaks]
    omega

lemma count_emphasized_le {marker : Text} (h : '<' ∉ marker) (inner : Text) :
    (emphasized marker inner).count '<' ≤ inner.count '<' := by
  have hmarker : marker.count '<' = 0 := List.count_eq_zero.2 h
  have hlead : (inner.takeWhile isBlank).count '<' = 0 :=
    count_of_isBlank fun c hc => List.mem_takeWhile_imp hc
  have htrail : (inner.reverse.takeWhile isBlank).reverse.count '<' = 0 :=
    count_of_isBlank fun c hc => List.mem_takeWhile_imp (List.mem_reverse.1 hc)
  have hstrip := count_strip_le inner
  unfold emphasized
  dsimp only
  split
  · rw [List.count_append, hmarker]
    exact Nat.zero_le _
  · simp only [List.count_append, hmarker, hlead, htrail]
    omega

/-- The passes of a round of formatting, in their order: the elements that they look for, and what
these become. -/
def formatPasses : List (Text × (Text → Text)) :=
  [( "para".toList, paragraph), ( "b".toList, emphasized "**".toList),
    ( "i".toList, emphasized "*".toList)]

lemma count_le_of_mem_formatPasses {pass : Text × (Text → Text)} (h : pass ∈ formatPasses)
    (inner : Text) : (pass.2 inner).count '<' ≤ inner.count '<' := by
  simp only [formatPasses, List.mem_cons, List.not_mem_nil, or_false] at h
  rcases h with rfl | rfl | rfl
  · exact count_paragraph_le inner
  · exact count_emphasized_le (by decide) inner
  · exact count_emphasized_le (by decide) inner

lemma sheds_of_mem_formatPasses {pass : Text × (Text → Text)} (h : pass ∈ formatPasses) :
    Sheds (replace (innermost pass.1) pass.2) := by
  intro t
  exact ((encloses_innermost pass.1).replace_cases fun inner _ =>
    count_le_of_mem_formatPasses h inner).imp_left And.right

lemma sheds_formatRound : Sheds formatRound :=
  ((sheds_of_mem_formatPasses (.head _)).comp (sheds_of_mem_formatPasses (.tail _ (.head _)))).comp
    (sheds_of_mem_formatPasses (.tail _ (.tail _ (.head _))))

/-- A text that a round leaves as it is has none of the elements in it. -/
lemma innermost_of_formatRound (h : formatRound t = t) :
    ∀ pass ∈ formatPasses, ∀ before, ∀ u ∈ t.tails, innermost pass.1 before u = none := by
  have hpara := sheds_of_mem_formatPasses (.head _)
  have hbold := sheds_of_mem_formatPasses (.tail _ (.head _))
  have hitalic := sheds_of_mem_formatPasses (.tail _ (.tail _ (.head _)))
  obtain ⟨hfirst, hthird⟩ := (hpara.comp hbold).of_comp_eq hitalic h
  obtain ⟨hfirst, hsecond⟩ := hpara.of_comp_eq hbold hfirst
  have hstill : ∀ pass ∈ formatPasses, replace (innermost pass.1) pass.2 t = t := by
    simp only [formatPasses, List.forall_mem_cons]
    exact ⟨hfirst, hsecond, hthird, List.forall_mem_nil _⟩
  intro pass hpass before u hu
  have hcases := (encloses_innermost pass.1).replace_cases (t := t) fun inner _ =>
    count_le_of_mem_formatPasses hpass inner
  rw [hstill pass hpass] at hcases
  have hfinds : finds (innermost pass.1) t = [] := (hcases.resolve_right (by omega)).1
  obtain ⟨a, rfl⟩ := (List.mem_tails _ _).1 hu
  cases u with
  | nil => rfl
  | cons c v => exact (encloses_innermost pass.1).eq_none_of_findsOf hfinds a c v rfl

/-! ### All rounds -/

/-- Rounds that take two angle brackets each come to an end. -/
lemma exists_settled {step : Text → Text}
    (h : ∀ n, step (step^[n] t) = step^[n] t ∨
      (step (step^[n] t)).count '<' + 2 ≤ (step^[n] t).count '<') :
    ∃ n, 2 * n ≤ t.count '<' ∧ step (step^[n] t) = step^[n] t := by
  induction hcount : t.count '<' using Nat.strong_induction_on generalizing t with
  | _ k ih =>
    rcases h 0 with hstill | hless
    · exact ⟨0, by omega, hstill⟩
    · change (step t).count '<' + 2 ≤ t.count '<' at hless
      obtain ⟨n, hn, hstill⟩ := ih _ (by omega) (fun n => h (n + 1)) rfl
      exact ⟨n + 1, by omega, hstill⟩

/-! ### Items of lists -/

/-- The first term and the first description do not overlap: one of them ends before the other
begins. -/
def PartsApart (body : Text) : Prop :=
  ∀ x ∈ firstFind? (element "term".toList) none body,
    ∀ y ∈ firstFind? (element "description".toList) none body,
      body.length - x.2.2.length ≤ y.1.length ∨ body.length - y.2.2.length ≤ x.1.length

instance : DecidablePred PartsApart := fun _ =>
  @Option.decidableForallMem _ _ (fun _ => @Option.decidableForallMem _ _
    (fun _ => inferInstanceAs (Decidable (_ ∨ _))) _) _

/-- The angle brackets in the parts of an item. -/
def ListItem.angles (item : ListItem) : Nat :=
  item.term.count '<' + item.description.count '<'

lemma count_collapseBlanks_le (t : Text) : (collapseBlanks t).count '<' ≤ t.count '<' := by
  refine Nat.le_trans (count_strip_le _)
    (Takes.count_replace_le (takes_of_suffix fun {before t _ rest} h => ?_) fun _ => by decide)
  split at h
  case h_1 c cs =>
    split at h
    · obtain ⟨-, rfl⟩ := Prod.mk.inj (Option.some.inj h)
      exact (List.dropWhile_suffix _).trans (List.suffix_cons c cs)
    · cases h
  · cases h

lemma takes_partTag : Takes partTag fun _ => 0 := by
  refine takes_of_suffix fun {before t _ rest} h => ?_
  obtain ⟨rest, hfind, heq⟩ := Option.map_eq_some_iff.1 h
  obtain ⟨-, rfl⟩ := Prod.mk.inj heq
  obtain ⟨name, -, htag⟩ := List.exists_of_findSome?_eq_some hfind
  rcases Option.or_eq_some_iff.1 htag with htag | ⟨-, htag⟩
  · obtain ⟨u, rfl⟩ := exists_of_afterOpen? htag
    exact List.suffix_append _ _
  · obtain ⟨u, rfl⟩ := exists_of_afterClose? htag
    exact List.suffix_append _ _

/-- A find with the text before it and the text after it. -/
lemma Encloses.exists_of_firstFind? (h : Encloses m content) {lead : Text} {a : α}
    (hfind : firstFind? m before t = some (lead, a, rest)) :
    ∃ u v, t = lead ++ ('<' :: u ++ (content a ++ '<' :: v ++ rest)) := by
  obtain ⟨place, c, w, rfl, hfound⟩ := firstFind?_eq_some hfind
  obtain ⟨u, v, hw⟩ := h hfound
  exact ⟨u, v, by rw [hw]⟩

/-- Two finds, of which the first ends before the second begins, share no angle brackets. -/
lemma Encloses.count_add_le {m' : Recogniser α} (h : Encloses m content) (h' : Encloses m' content)
    {lead lead' rest' : Text} {a a' : α} (hfind : firstFind? m before t = some (lead, a, rest))
    (hfind' : firstFind? m' before t = some (lead', a', rest'))
    (hapart : t.length - rest.length ≤ lead'.length) :
    (content a).count '<' + (content a').count '<' ≤ t.count '<' := by
  obtain ⟨u, v, ht⟩ := h.exists_of_firstFind? hfind
  obtain ⟨u', v', ht'⟩ := h'.exists_of_firstFind? hfind'
  have hcut : t = lead ++ '<' :: u ++ content a ++ '<' :: v ++ rest := by simp [ht]
  have hlength : (lead ++ '<' :: u ++ content a ++ '<' :: v).length ≤ lead'.length := by
    rw [hcut, List.length_append] at hapart
    omega
  have hprefix : lead ++ '<' :: u ++ content a ++ '<' :: v <+: lead' :=
    List.prefix_of_prefix_length_le (hcut ▸ List.prefix_append _ _) (ht' ▸ List.prefix_append _ _)
      hlength
  have hlead := hprefix.sublist.count_le '<'
  rw [ht']
  simp only [List.count_append, List.cons_append, List.count_cons_self] at hlead ⊢
  omega

lemma count_firstElement?_le (name body : Text) :
    (((firstElement? name body).map collapseBlanks).getD []).count '<' ≤ body.count '<' := by
  cases hfind : firstFind? (element name) none body with
  | none => simp [firstElement?, hfind]
  | some x =>
    obtain ⟨lead, inner, rest⟩ := x
    obtain ⟨u, v, hbody⟩ := (encloses_element name).exists_of_firstFind? hfind
    have hinner := count_collapseBlanks_le inner
    simp only [firstElement?, hfind, Option.map_some, Option.getD_some]
    rw [hbody]
    simp only [List.count_append, List.cons_append, List.count_cons_self, id_eq]
    omega

/-- The parts of an item have no more angle brackets than its content, if they do not overlap. -/
lemma angles_parseItem_le {body : Text} (h : PartsApart body) :
    (parseItem body).angles ≤ body.count '<' := by
  have hterm := count_firstElement?_le "term".toList body
  have hdescription := count_firstElement?_le "description".toList body
  unfold parseItem
  split
  · have hplain : (replace partTag (fun _ => []) body).count '<' ≤ body.count '<' :=
      takes_partTag.count_replace_le fun _ => List.not_mem_nil
    have hblanks := count_collapseBlanks_le (replace partTag (fun _ => []) body)
    simp only [ListItem.angles, List.count_nil]
    omega
  · simp only [ListItem.angles]
    cases hx : firstFind? (element "term".toList) none body with
    | none =>
      have hnone : firstElement? "term".toList body = none := by rw [firstElement?, hx]; rfl
      rwa [hnone, Option.map_none, Option.getD_none, List.count_nil, Nat.zero_add]
    | some x =>
      cases hy : firstFind? (element "description".toList) none body with
      | none =>
        have hnone : firstElement? "description".toList body = none := by
          rw [firstElement?, hy]
          rfl
        rwa [hnone, Option.map_none, Option.getD_none, List.count_nil, Nat.add_zero]
      | some y =>
        obtain ⟨lead, term, rest⟩ := x
        obtain ⟨lead', description, rest'⟩ := y
        have htermBlanks := count_collapseBlanks_le term
        have hdescriptionBlanks := count_collapseBlanks_le description
        have hle : term.count '<' + description.count '<' ≤ body.count '<' := by
          rcases h _ hx _ hy with hapart | hapart
          · exact (encloses_element _).count_add_le (encloses_element _) hx hy hapart
          · rw [Nat.add_comm]
            exact (encloses_element _).count_add_le (encloses_element _) hy hx hapart
        simp only [firstElement?, hx, hy, Option.map_some, Option.getD_some]
        omega

/-! ### Lists -/

/-- What the header of a list and its items have in them. -/
def entryBodies (body : Text) : List Text :=
  match firstFind? (element "listheader".toList) none body with
  | some (lead, header, rest) => header :: finds (element "item".toList) (lead ++ rest)
  | none => finds (element "item".toList) body

lemma parseList_eq (body : Text) :
    (parseList body).1.toList ++ (parseList body).2 = (entryBodies body).map parseItem := by
  cases hfind : firstFind? (element "listheader".toList) none body with
  | none => simp only [parseList, entryBodies, hfind, Option.toList_none, List.nil_append]
  | some x =>
    obtain ⟨lead, header, rest⟩ := x
    simp only [parseList, entryBodies, hfind, Option.toList_some, List.singleton_append,
      List.map_cons]

lemma sum_entryBodies_le (body : Text) :
    ((entryBodies body).map (·.count '<')).sum ≤ body.count '<' := by
  have hitems (t : Text) :
      ((finds (element "item".toList) t).map (·.count '<')).sum ≤ t.count '<' :=
    Nat.le_trans (List.sum_le_sum fun item _ => Nat.le_add_right (item.count '<') 2)
      ((encloses_element "item".toList).takes.sum_finds_le none t)
  unfold entryBodies
  split
  case h_1 lead header rest hfind =>
    obtain ⟨u, v, hbody⟩ := (encloses_element _).exists_of_firstFind? hfind
    have hrest := hitems (lead ++ rest)
    rw [List.map_cons, List.sum_cons, hbody]
    simp only [List.count_append, List.cons_append, List.count_cons_self, id_eq] at hrest ⊢
    omega
  · exact hitems body

lemma count_join {separator : Text} (h : '<' ∉ separator) (parts : List Text) :
    (join separator parts).count '<' = (parts.map (·.count '<')).sum := by
  fun_induction join separator parts with
  | case1 => rfl
  | case2 part => simp
  | case3 part parts _ ih =>
    rw [List.count_append, List.count_append, List.count_eq_zero.2 h, ih, List.map_cons,
      List.sum_cons, Nat.add_zero]

lemma count_cell (t : Text) : (cell t).count '<' = t.count '<' := by
  induction t with
  | nil => rfl
  | cons c t ih =>
    have hcons : cell (c :: t) = (if c = '|' then "\\|".toList else [c]) ++ cell t := rfl
    rw [hcons, List.count_append, ih, List.count_cons]
    split
    case isTrue hc => simp [hc]
    case isFalse => rw [List.count_cons, List.count_nil, Nat.zero_add, Nat.add_comm]

namespace ListItem

variable (item : ListItem)

lemma count_text_le : item.text.count '<' ≤ item.angles := by
  unfold text angles
  split <;> omega

lemma count_definition_le : (definition item).count '<' ≤ item.angles := by
  have hstars : "**".toList.count '<' = 0 := by decide
  unfold definition angles
  dsimp only
  split
  · omega
  · split
    · rw [List.count_append, List.count_append, hstars]
      omega
    · rw [List.count_append, List.count_append, List.count_append, hstars,
        List.count_cons_of_ne (by decide)]
      omega

end ListItem

lemma count_tableRow (left right : Text) :
    (tableRow left right).count '<' = left.count '<' + right.count '<' := by
  have hmarks : "| ".toList.count '<' = 0 ∧ " | ".toList.count '<' = 0 ∧
      " |".toList.count '<' = 0 := by decide
  simp only [tableRow, List.count_append, count_cell, hmarks]
  omega

lemma sum_map_le {items : List ListItem} {line : ListItem → Text}
    (h : ∀ item, (line item).count '<' ≤ item.angles) :
    ((items.map line).map (·.count '<')).sum ≤ (items.map (·.angles)).sum := by
  rw [List.map_map]
  exact List.sum_le_sum fun item _ => h item

lemma sum_mapIdx_le {items : List ListItem} {line : Nat → ListItem → Text}
    (h : ∀ i item, (line i item).count '<' ≤ item.angles) :
    ((items.mapIdx line).map (·.count '<')).sum ≤ (items.map (·.angles)).sum := by
  induction items generalizing line with
  | nil => exact Nat.le_refl _
  | cons item items ih =>
    rw [List.mapIdx_cons, List.map_cons, List.sum_cons, List.map_cons, List.sum_cons]
    exact Nat.add_le_add (h 0 item) (ih fun i => h (i + 1))

/-- A list has no more angle brackets than its header and its items. -/
lemma count_renderList_le (kind : ListKind) (header : Option ListItem) (items : List ListItem) :
    (renderList kind header items).count '<' ≤
      ((header.toList ++ items).map (·.angles)).sum := by
  have hfilter : ((items.filter (!·.isEmpty)).map (·.angles)).sum ≤
      (items.map (·.angles)).sum :=
    (List.filter_sublist.map _).sum_le_sum fun _ _ => Nat.zero_le _
  rw [List.map_append, List.sum_append]
  unfold renderList
  dsimp only
  split
  · exact Nat.zero_le _
  · split
    · rw [count_join (by decide)]
      refine Nat.le_trans (sum_mapIdx_le fun i item => ?_) (by omega)
      have hnumber : (Text.ofNat (i + 1)).count '<' = 0 := List.count_eq_zero.2 fun hmem =>
        absurd (isDigit_of_mem_ofNat hmem) (by decide)
      have htext := item.count_text_le
      rw [List.count_append, List.count_append, hnumber]
      simpa using htext
    case h_2 h =>
      have hterm : (if h.term.isEmpty then "Term".toList else h.term).count '<' ≤
          h.term.count '<' := by
        split <;> simp
      have hdescription : (if h.description.isEmpty then "Description".toList
          else h.description).count '<' ≤ h.description.count '<' := by
        split <;> simp
      have hruler : "| --- | --- |".toList.count '<' = 0 := by decide
      have hrows := @sum_map_le (items.filter (!·.isEmpty))
        (fun item => tableRow item.term item.description)
        fun item => (count_tableRow _ _).le
      rw [count_join (by decide), List.map_cons, List.sum_cons, List.map_cons, List.sum_cons,
        count_tableRow, hruler]
      simp only [Option.toList_some, List.map_cons, List.map_nil, List.sum_cons, List.sum_nil,
        ListItem.angles] at hrows hfilter ⊢
      omega
    · rw [count_join (by decide)]
      exact Nat.le_trans (sum_map_le ListItem.count_definition_le) (by omega)
    · rw [count_join (by decide)]
      refine Nat.le_trans (sum_map_le fun item => ?_) (by omega)
      have htext := item.count_text_le
      rw [List.count_append]
      simpa using htext

lemma count_layOutList_le {e : ListElement} (h : ∀ body ∈ entryBodies e.body, PartsApart body) :
    (layOutList e).count '<' ≤ e.body.count '<' := by
  have hbreaks : "\n\n".toList.count '<' = 0 := by decide
  have hrendered := count_renderList_le (listKind e.attributes) (parseList e.body).1
    (parseList e.body).2
  rw [parseList_eq, List.map_map] at hrendered
  have hentries : ((entryBodies e.body).map fun body => (parseItem body).angles).sum ≤
      ((entryBodies e.body).map (·.count '<')).sum :=
    List.sum_le_sum fun body hbody => angles_parseItem_le (h body hbody)
  have hbody := Nat.le_trans hrendered (Nat.le_trans hentries (sum_entryBodies_le e.body))
  unfold layOutList
  dsimp only
  split
  · rw [hbreaks]
    exact Nat.zero_le _
  · rw [List.count_append, List.count_append, hbreaks]
    omega

/-- In no list that is laid out next has the header or an item a term and a description that
overlap. -/
def ListsApart (t : Text) : Prop :=
  ∀ e ∈ finds listElement t, ∀ body ∈ entryBodies e.body, PartsApart body

instance : DecidablePred ListsApart := fun _ => inferInstanceAs (Decidable (∀ _ ∈ _, _))

lemma listRound_cases (h : ListsApart t) :
    listRound t = t ∨ (listRound t).count '<' + 2 ≤ t.count '<' :=
  (encloses_listElement.replace_cases fun e he => count_layOutList_le (h e he)).imp_left And.right

/-- **Rounds come to an end.** A round of formatting leaves a text as it is or takes at least two
opening angle brackets from it. So formatting ends, after at most half as many rounds as there are
such brackets, with a text in which none of the elements is found at any place. A round of laying
out lists does so too, if terms and descriptions do not overlap in any list that it lays out; and if
they never do, laying out lists ends after as many rounds. -/
theorem rounds_end :
    (∀ t, formatRound t = t ∨ (formatRound t).count '<' + 2 ≤ t.count '<') ∧
    (∀ t, ∃ n, 2 * n ≤ t.count '<' ∧ formatRound (formatRound^[n] t) = formatRound^[n] t ∧
      settle formatRound (t.count '<' + 1) t = formatRound^[n] t ∧
      ∀ name ∈ [ "para".toList, "b".toList, "i".toList], ∀ before,
        ∀ u ∈ (formatRound^[n] t).tails, innermost name before u = none) ∧
    (∀ t, ListsApart t → listRound t = t ∨ (listRound t).count '<' + 2 ≤ t.count '<') ∧
    ∀ t, (∀ n, ListsApart (listRound^[n] t)) →
      ∃ n, 2 * n ≤ t.count '<' ∧ listRound (listRound^[n] t) = listRound^[n] t ∧
        layOutLists t = .ok (listRound^[n] t) := by
  refine ⟨sheds_formatRound, fun t => ?_, fun t => listRound_cases, fun t hapart => ?_⟩
  · obtain ⟨n, hn, hstill⟩ := exists_settled (t := t) fun n => sheds_formatRound (formatRound^[n] t)
    refine ⟨n, hn, hstill, settle_eq_iterate (by omega) hstill, ?_⟩
    intro name hname
    obtain ⟨pass, hpass, rfl⟩ := List.mem_map.1 (show name ∈ formatPasses.map Prod.fst from hname)
    exact innermost_of_formatRound hstill pass hpass
  · obtain ⟨n, hn, hstill⟩ := exists_settled (t := t) fun n => listRound_cases (hapart n)
    exact ⟨n, hn, hstill, atRest_iterate hstill⟩

/-- A table in an item of a list. -/
def nestedLists : Text :=
  ("<list><item>x<list type='table'><item><term>a</term>" ++
    "<description>b</description></item></list></item></list>").toList

theorem rounds_end_of_nested :
    (∀ n, ListsApart (listRound^[n] nestedLists)) ∧
      (listRound nestedLists).count '<' + 2 ≤ nestedLists.count '<' ∧
      layOutLists nestedLists = .ok "\n\n- x **a** b\n\n".toList := by
  have hfirst : listRound nestedLists = "<list><item>x\n\n**a**\nb\n\n</item></list>".toList := by
    decide +kernel
  have hsecond : listRound "<list><item>x\n\n**a**\nb\n\n</item></list>".toList =
      "\n\n- x **a** b\n\n".toList := by decide +kernel
  have hlast : listRound "\n\n- x **a** b\n\n".toList = "\n\n- x **a** b\n\n".toList := by
    decide +kernel
  have hlater (n : Nat) : listRound^[n + 2] nestedLists = "\n\n- x **a** b\n\n".toList := by
    rw [Function.iterate_succ_apply, hfirst, Function.iterate_succ_apply, hsecond,
      Function.iterate_fixed hlast]
  have hapart : ∀ n, ListsApart (listRound^[n] nestedLists) := by
    rintro (_ | _ | n)
    · decide +kernel
    · rw [Function.iterate_succ_apply, hfirst]
      decide +kernel
    · rw [hlater]
      decide +kernel
  obtain ⟨-, -, hround, hall⟩ := rounds_end
  have hmoves : listRound nestedLists ≠ nestedLists := by
    rw [hfirst]
    decide +kernel
  refine ⟨hapart, (hround _ (hapart 0)).resolve_left hmoves, ?_⟩
  obtain ⟨_ | _ | n, -, hstill, hlaid⟩ := hall _ hapart
  · exact absurd hstill hmoves
  · rw [Function.iterate_succ_apply, hfirst, Function.iterate_zero_apply, hsecond] at hstill
    exact absurd hstill (by decide +kernel)
  · rwa [hlater] at hlaid

end LinkedDocs.Markup
