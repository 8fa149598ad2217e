import Mathlib.Logic.Function.Iterate
import LinkedDocs.Markup.Rest

/-!
# Loops that come to rest, and loops that do not

What a step keeps holds where it comes to rest. There is no result just if each of any number of
rounds goes through and still changes something.
-/

namespace LinkedDocs.Markup

variable {step : Text → Except Fault Text} {t u : Text} {P : Text → Prop}

lemma atRest_of_still (h : step t = .ok t) : atRest step t = .ok t := by
  rw [atRest, settle?, h]
  simp

lemma atRest_of_error {fault : Fault} (h : step t = .error fault) :
    atRest step t = .error (.fault fault) := by
  rw [atRest, settle?, h]

/-- A step can be taken first. -/
lemma atRest_of_step (h : step t = .ok u) : atRest step t = atRest step u := by
  by_cases hsame : u = t
  · rw [hsame]
  · rw [atRest, settle?, h]
    dsimp only
    rw [if_neg hsame]
    rfl

lemma atRest_iterate {f : Text → Text} {n : Nat} (hstill : f (f^[n] t) = f^[n] t) :
    atRest (fun t => .ok (f t)) t = .ok (f^[n] t) := by
  induction n generalizing t with
  | zero => exact atRest_of_still (congrArg Except.ok hstill)
  | succ n ih =>
    have hfirst : atRest (fun t => .ok (f t)) t = atRest (fun t => .ok (f t)) (f t) :=
      atRest_of_step rfl
    exact hfirst.trans (ih hstill)

/-- The text at which a step comes to rest within so many rounds. -/
def restWithin (step : Text → Except Fault Text) : Nat → Text → Option Text
  | 0, _ => none
  | n + 1, t =>
    match step t with
    | .error _ => none
    | .ok next => if next = t then some t else restWithin step n next

lemma atRest_of_restWithin {n : Nat} (h : restWithin step n t = some u) :
    atRest step t = .ok u := by
  induction n generalizing t with
  | zero => cases h
  | succ n ih =>
    rw [restWithin] at h
    cases hnext : step t with
    | error fault => simp [hnext] at h
    | ok next =>
      simp only [hnext] at h
      split at h
      case isTrue hsame =>
        obtain rfl := Option.some.inj h
        exact atRest_of_still (hsame ▸ hnext)
      case isFalse => exact (atRest_of_step hnext).trans (ih h)

/-- What every step keeps holds at rest. -/
theorem atRest_keeps (hstep : ∀ {t u}, P t → step t = .ok u → P u) (ht : P t)
    (h : atRest step t = .ok u) : P u ∧ step u = .ok u := by
  have hresult : ∀ t r, settle? step t = some r → P t → r = .ok u → P u ∧ step u = .ok u := by
    refine settle?.partial_correctness step _ ?_
    intro settle ih t r hr ht hu
    subst hu
    cases hnext : step t with
    | error fault => simp [hnext] at hr
    | ok next =>
      simp only [hnext] at hr
      split at hr
      case isTrue hsame =>
        obtain rfl := Except.ok.inj (Option.some.inj hr)
        exact ⟨ht, by rw [hnext, hsame]⟩
      case isFalse => exact ih next _ hr (hstep ht hnext) rfl
  unfold atRest at h
  split at h
  case h_1 hsettle =>
    obtain rfl := Except.ok.inj h
    exact hresult _ _ hsettle ht rfl
  · cases h
  · cases h

/-- There is no rest where every step changes something and stays within a property. -/
theorem atRest_endless (hstep : ∀ t, P t → ∃ u, step t = .ok u ∧ u ≠ t ∧ P u) (ht : P t) :
    atRest step t = .error .endless := by
  have hnone : ∀ t r, settle? step t = some r → ¬P t := by
    refine settle?.partial_correctness step _ ?_
    intro settle ih t r hr ht
    obtain ⟨u, hu, hne, hu'⟩ := hstep t ht
    simp only [hu, if_neg hne] at hr
    exact ih u r hr hu'
  unfold atRest
  split
  case h_1 hsettle => exact absurd ht (hnone _ _ hsettle)
  case h_2 hsettle => exact absurd ht (hnone _ _ hsettle)
  case h_3 => rfl

/-- So many rounds, up to the first fault. -/
def rounds (step : Text → Except Fault Text) : Nat → Text → Except Fault Text
  | 0, t => .ok t
  | n + 1, t => (step t).bind (rounds step n)

/-- **No result means no end.** Any number of rounds goes through, and the next one changes
something. -/
theorem atRest_eq_endless_iff : atRest step t = .error .endless ↔
    ∀ n, ∃ u v, rounds step n t = .ok u ∧ step u = .ok v ∧ v ≠ u := by
  constructor
  · intro h n
    induction n generalizing t with
    | zero =>
      cases hnext : step t with
      | error fault => rw [atRest_of_error hnext] at h; cases h
      | ok v =>
        refine ⟨t, v, rfl, hnext, ?_⟩
        rintro rfl
        rw [atRest_of_still hnext] at h
        cases h
    | succ n ih =>
      cases hnext : step t with
      | error fault => rw [atRest_of_error hnext] at h; cases h
      | ok v =>
        rw [atRest_of_step hnext] at h
        rw [rounds, hnext]
        exact ih h
  · intro h
    refine atRest_endless
      (P := fun t => ∀ n, ∃ u v, rounds step n t = .ok u ∧ step u = .ok v ∧ v ≠ u) ?_ h
    intro t ht
    obtain ⟨u, v, hu, hv, hne⟩ := ht 0
    obtain rfl := Except.ok.inj hu
    refine ⟨v, hv, hne, fun n => ?_⟩
    have hn := ht (n + 1)
    rwa [rounds, hv] at hn

end LinkedDocs.Markup
