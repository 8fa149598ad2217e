import Mathlib.Algebra.Order.BigOperators.Group.List
import Mathlib.Algebra.Order.Group.Nat
import LinkedDocs.Proofs.Phases
import LinkedDocs.Proofs.Restoration

/-!
# Revisions that end, and revisions that do not

Two loops of the conversion repeat a step until it changes nothing: the one that lays out lists, and
the one that puts stashed texts back. Putting back always ends if the resolver adds no marks to a
text. A name with marks can be the token of the very text that it is part of, and then there is no
end: each round puts the text into itself.
-/

namespace LinkedDocs

open Text

/-! ### Tokens of themselves -/

namespace Markup.Stash

variable {s : Stash} {item ps : List (Piece Nat)}

/-- The text that some pieces are written as. -/
def written (ps : List (Piece Nat)) : Text :=
  ps.flatMap (Piece.text token)

/-- The pieces with others put for their tokens. -/
def putFor (item : List (Piece Nat)) : Piece Nat → List (Piece Nat)
  | .plain c => [.plain c]
  | .found _ => item

/-- There is no token but the first, and no other mark that starts one. -/
structure FirstOnly (ps : List (Piece Nat)) : Prop where
  plain : ∀ c, .plain c ∈ ps → c ≠ tokenOpen
  found : ∀ n, .found n ∈ ps → n = 0

lemma FirstOnly.putFor (hitem : FirstOnly item) (h : FirstOnly ps) :
    FirstOnly (ps.flatMap (putFor item)) := by
  have hmem : ∀ x, x ∈ ps.flatMap (Stash.putFor item) → x ∈ ps ∨ x ∈ item := by
    intro x hx
    obtain ⟨piece, hpiece, hx⟩ := List.mem_flatMap.1 hx
    cases piece with
    | plain c =>
      obtain rfl := List.mem_singleton.1 hx
      exact .inl hpiece
    | found n => exact .inr hx
  constructor
  · intro c hc
    exact (hmem _ hc).elim (h.plain c) (hitem.plain c)
  · intro n hn
    exact (hmem _ hn).elim (h.found n) (hitem.found n)

/-- One round puts the first text for every token. -/
lemma restoreOnce_written (hs : s.items[0]? = some (written item)) (h : FirstOnly ps) :
    s.restoreOnce (written ps) = .ok (written (ps.flatMap (putFor item))) := by
  have hget : s.get (Text.ofNat 0) = .ok (written item) := by
    have hvalue : digitsValue (Text.ofNat 0) = 0 := digitsValue_ofNat 0
    rw [Stash.get, hvalue, hs]
    rfl
  have hpieces : (pieces tokenDigits none (written ps)).mapM s.piece =
      .ok (ps.map fun piece => written (putFor item piece)) := by
    rw [written, pieces_tokens h.plain, List.mapM_map]
    refine mapM_eq_ok_map fun piece hpiece => ?_
    cases piece with
    | plain c => rfl
    | found n =>
      obtain rfl := h.found n hpiece
      exact hget
  rw [restoreOnce, hpieces, written, List.flatMap_assoc, List.flatMap_def]
  rfl

lemma length_written_lt (hself : (token 0).length < (written item).length) (h : FirstOnly ps)
    (hfound : .found 0 ∈ ps) :
    (written ps).length < (written (ps.flatMap (putFor item))).length := by
  have hpiece : ∀ piece ∈ ps, (Piece.text token piece).length ≤
      (written (putFor item piece)).length := by
    intro piece hpiece
    cases piece with
    | plain c => exact Nat.le_refl 1
    | found n =>
      obtain rfl := h.found n hpiece
      exact Nat.le_of_lt hself
  have hwritten : written (ps.flatMap (putFor item)) =
      ps.flatMap fun piece => written (putFor item piece) := List.flatMap_assoc
  rw [hwritten, written, List.length_flatMap, List.length_flatMap]
  exact List.sum_lt_sum _ _ hpiece ⟨_, hfound, hself⟩

/-- **A text that holds its own token is put back for ever**, if it holds anything else. -/
theorem restore_endless (hs : s.items[0]? = some (written item)) (hitem : FirstOnly item)
    (hself : .found 0 ∈ item) (hmore : (token 0).length < (written item).length)
    (h : FirstOnly ps) (hfound : .found 0 ∈ ps) :
    s.restore (written ps) = .error .endless := by
  refine atRest_endless
    (P := fun t => ∃ ps, t = written ps ∧ FirstOnly ps ∧ .found 0 ∈ ps) ?_ ⟨ps, rfl, h, hfound⟩
  rintro _ ⟨ps, rfl, h, hfound⟩
  refine ⟨_, restoreOnce_written hs h, fun hsame => ?_, _, rfl, hitem.putFor h,
    List.mem_flatMap.2 ⟨_, hfound, hself⟩⟩
  have hlt := length_written_lt hmore h hfound
  rw [hsame] at hlt
  exact Nat.lt_irrefl _ hlt

end Markup.Stash

/-! ### Texts -/

namespace Markup

variable {resolver : Resolver} {t : Text}

/-- A text is rendered in the end, or fails, if its lists can be laid out and the resolver adds no
marks to it. -/
theorem text_render_ne_endless (hadds : AddsUnmarked resolver)
    (hlists : ∃ laid, layOutLists (format (takenOut resolver t).1) = .ok laid) :
    (render resolver t).text ≠ .error .endless := by
  intro h
  by_cases hwork : needsWork t = true
  · obtain ⟨laid, hlaid⟩ := hlists
    rcases text_render_cases hadds hwork hlaid with ⟨out, hout, -⟩ | ⟨-, l, hl⟩
    · cases h.symm.trans hout
    · cases h.symm.trans hl
  · rw [render, if_neg hwork] at h
    cases h

/-- A text that is to be put back for ever is never rendered. -/
lemma text_render_endless {u : Text} {s : Stash} (hwork : needsWork t = true)
    (hlaid : laidOut resolver t = .ok (u, s)) (h : s.restore u = .error .endless) :
    (render resolver t).text = .error .endless := by
  rw [render, if_pos hwork, text_convert, hlaid]
  exact h

end Markup

/-! ### Entities -/

/-- The values of an entity that are rendered. -/
def Entity.rendered (e : Entity) : List Value :=
  Slot.all.map e.notes.get ++
    match e.exceptions with
    | .proper exceptions => exceptions.map (·.description)
    | .stray _ => []

namespace Revision

variable {resolver : Resolver} {e : Entity}

lemma renderNote_endless {v : Value} (h : (renderNote resolver v).1 = .error .endless) :
    ∃ t, v = .text t ∧ (Markup.render resolver t).text = .error .endless := by
  unfold renderNote at h
  split at h
  · cases h
  case h_2 t =>
    refine ⟨t, rfl, ?_⟩
    cases htext : (Markup.render resolver t).text with
    | ok out => simp [htext, Except.map] at h
    | error cause => simpa [htext, Except.map] using h
  · split at h <;> cases h
  · cases h

lemma reviseNotes_endless {notes : Notes} {slots : List Slot}
    (h : (reviseNotes resolver notes slots).1 = .error .endless) :
    ∃ slot ∈ slots, (renderNote resolver (notes.get slot)).1 = .error .endless := by
  induction slots with
  | nil => cases h
  | cons slot slots ih =>
    rw [reviseNotes] at h
    split at h
    case h_1 cause met hnote =>
      obtain rfl : cause = .endless := Except.error.inj h
      exact ⟨slot, List.mem_cons_self, congrArg Prod.fst hnote⟩
    case h_2 hnote =>
      cases hrest : (reviseNotes resolver notes slots).1 with
      | ok rest => simp [hrest, Except.map] at h
      | error cause =>
        obtain ⟨slot, hslot, hendless⟩ := ih (by simpa [hrest, Except.map] using h)
        exact ⟨slot, List.mem_cons_of_mem _ hslot, hendless⟩

lemma reviseExceptions_endless {exceptions : List Thrown}
    (h : (reviseExceptions resolver exceptions).1 = .error .endless) :
    ∃ thrown ∈ exceptions, (renderNote resolver thrown.description).1 = .error .endless := by
  induction exceptions with
  | nil => cases h
  | cons thrown exceptions ih =>
    rw [reviseExceptions] at h
    split at h
    case h_1 cause met hnote =>
      obtain rfl : cause = .endless := Except.error.inj h
      exact ⟨thrown, List.mem_cons_self, congrArg Prod.fst hnote⟩
    case h_2 hnote =>
      cases hrest : (reviseExceptions resolver exceptions).1 with
      | ok rest => simp [hrest, Except.map] at h
      | error cause =>
        obtain ⟨thrown, hthrown, hendless⟩ := ih (by simpa [hrest, Except.map] using h)
        exact ⟨thrown, List.mem_cons_of_mem _ hthrown, hendless⟩

lemma eq_endless_of_work? {cause : NoResult} {missing : List Text}
    (h : cause.work? missing = none) : cause = .endless := by
  cases cause with
  | fault cause => cases h
  | endless => rfl

/-- The revision of an entity is endless only if the rendering of one of its texts is. -/
theorem exists_endless_of_revise (h : e.revise resolver = none) :
    ∃ t, .text t ∈ e.rendered ∧ (Markup.render resolver t).text = .error .endless := by
  suffices hvalue : ∃ v ∈ e.rendered, (renderNote resolver v).1 = .error .endless by
    obtain ⟨v, hv, hendless⟩ := hvalue
    obtain ⟨t, rfl, ht⟩ := renderNote_endless hendless
    exact ⟨t, hv, ht⟩
  unfold Entity.revise at h
  split at h
  case h_1 cause met hnotes =>
    obtain rfl := eq_endless_of_work? h
    obtain ⟨slot, hslot, hendless⟩ := reviseNotes_endless (congrArg Prod.fst hnotes)
    exact ⟨_, List.mem_append_left _ (List.mem_map_of_mem hslot), hendless⟩
  · split at h
    · cases h
    case h_2 exceptions hrecords =>
      split at h
      case h_1 cause met hexceptions =>
        obtain rfl := eq_endless_of_work? h
        obtain ⟨thrown, hthrown, hendless⟩ :=
          reviseExceptions_endless (congrArg Prod.fst hexceptions)
        refine ⟨_, List.mem_append_right _ ?_, hendless⟩
        cases hfield : e.exceptions with
        | proper records =>
          rw [hfield] at hrecords
          obtain rfl := Except.ok.inj hrecords
          exact List.mem_map_of_mem hthrown
        | stray v =>
          -- What is no list of records has none.
          rw [hfield] at hrecords
          obtain ⟨items, -, hrecords⟩ := bind_eq_ok.1 hrecords
          cases items with
          | nil =>
            obtain rfl := Except.ok.inj hrecords
            cases hthrown
          | cons item items => cases hrecords
      · dsimp only at h
        split at h <;> cases h

lemma revise_eq_none_of_summary {t : Text} (hsummary : e.notes.summary = .text t)
    (h : (Markup.render resolver t).text = .error .endless) : e.revise resolver = none := by
  have hnote : renderNote resolver (e.notes.get .summary) =
      (.error .endless, (Markup.render resolver t).resolutions) := by
    rw [Notes.get, hsummary, renderNote, h]
    rfl
  have hnotes : reviseNotes resolver e.notes Slot.all =
      (.error .endless, (Markup.render resolver t).resolutions) := by
    rw [Slot.all, reviseNotes, hnote]
  rw [Entity.revise, hnotes]
  rfl

end Revision

end LinkedDocs
