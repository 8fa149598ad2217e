import Mathlib.Data.List.TakeWhile
import LinkedDocs.Markup.Stash
import LinkedDocs.Proofs.Cutting
import LinkedDocs.Proofs.Resting
import LinkedDocs.Proofs.Results

/-!
# What a stash puts back

A text with tokens is a row of slots: characters, and texts that were taken out. Putting the texts
back gives the texts of the slots if no token is left in them. Tokens that have just been made are
read as the numbers they were made of.
-/

namespace LinkedDocs.Markup

open Text

/-! ### Tokens -/

lemma digitValue?_of_mem_ofNat {n : Nat} {c : Char} (h : c ∈ Text.ofNat n) :
    digitValue? c = some (c.toNat - 48) := by
  have hdigit : c.isDigit = true := Nat.isDigit_of_mem_toDigits (by decide) (by decide) h
  have hle : c.toNat ≤ 57 := by
    simp only [Char.isDigit, Bool.and_eq_true, decide_eq_true_eq] at hdigit
    exact hdigit.2
  rw [digitValue?, if_pos (by omega), if_pos hdigit]

lemma isDigit_of_mem_ofNat {n : Nat} {c : Char} (h : c ∈ Text.ofNat n) : Text.isDigit c = true := by
  rw [Text.isDigit, digitValue?_of_mem_ofNat h]
  rfl

lemma digitsValue_ofNat (n : Nat) : digitsValue (Text.ofNat n) = n := by
  have hfold (t : Text) (k : Nat) (h : ∀ c ∈ t, digitValue? c = some (c.toNat - 48)) :
      t.foldl (fun n c => 10 * n + (digitValue? c).getD 0) k = Nat.ofDigitChars 10 t k := by
    rw [Nat.ofDigitChars_eq_foldl]
    induction t generalizing k with
    | nil => rfl
    | cons c t ih =>
      rw [List.foldl_cons, List.foldl_cons, h c (by simp), ih _ fun d hd => h d (by simp [hd])]
      rfl
  rw [digitsValue, hfold _ _ fun c hc => digitValue?_of_mem_ofNat hc]
  exact Nat.ofDigitChars_toDigits (by decide) (by decide)

/-- The token that is written with some digits. -/
def tokenOf (digits : Text) : Text :=
  tokenOpen :: digits ++ [tokenClose]

lemma tokenDigits_eq_some {before : Option Char} {t digits rest : Text}
    (h : tokenDigits before t = some (digits, rest)) :
    t = tokenOf digits ++ rest ∧ ∀ c ∈ digits, Text.isDigit c = true := by
  unfold tokenDigits at h
  split at h
  case h_1 c cs =>
    split at h
    case isTrue hc =>
      split at h
      case h_1 d ds x rest' htake hdrop =>
        split at h
        case isTrue hx =>
          obtain ⟨rfl, rfl⟩ := Prod.mk.inj (Option.some.inj h)
          have hcs : cs = d :: ds ++ x :: rest' := by
            rw [← htake, ← hdrop, List.takeWhile_append_dropWhile]
          refine ⟨by simp [tokenOf, hc, hcs, hx], fun c hmem => ?_⟩
          rw [← htake] at hmem
          exact List.mem_takeWhile_imp hmem
        · cases h
      · cases h
    · cases h
  · cases h

lemma reads_tokenDigits : Reads tokenDigits tokenOf :=
  fun h => (tokenDigits_eq_some h).1

lemma tokenDigits_token {before : Option Char} {n : Nat} {rest : Text} :
    tokenDigits before (token n ++ rest) = some (Text.ofNat n, rest) := by
  have hall : ∀ c ∈ Text.ofNat n, Text.isDigit c = true := fun c hc => isDigit_of_mem_ofNat hc
  have hclose : Text.isDigit tokenClose = false := by decide
  have htake : (Text.ofNat n ++ (tokenClose :: rest)).takeWhile Text.isDigit = Text.ofNat n := by
    rw [List.takeWhile_append_of_pos hall, List.takeWhile_cons_of_neg (by simp [hclose]),
      List.append_nil]
  have hdrop : (Text.ofNat n ++ (tokenClose :: rest)).dropWhile Text.isDigit =
      tokenClose :: rest := by
    rw [List.dropWhile_append_of_pos hall, List.dropWhile_cons_of_neg (by simp [hclose])]
  have htext : token n ++ rest = tokenOpen :: (Text.ofNat n ++ (tokenClose :: rest)) := by
    simp [token]
  obtain ⟨d, ds, hdigits⟩ := List.exists_cons_of_ne_nil
    (show Text.ofNat n ≠ [] from Nat.toDigits_ne_nil)
  rw [htext, tokenDigits]
  simp only [htake, hdrop, if_true]
  rw [hdigits]
  simp

lemma tokenDigits_of_ne {before : Option Char} {c : Char} {t : Text} (hc : c ≠ tokenOpen) :
    tokenDigits before (c :: t) = none := by
  simp [tokenDigits, hc]

/-- The tokens of a text are found as they were written. -/
lemma pieces_tokens {before : Option Char} {ps : List (Piece Nat)}
    (h : ∀ c, .plain c ∈ ps → c ≠ tokenOpen) :
    pieces tokenDigits before (ps.flatMap (Piece.text token)) =
      ps.map (Piece.map Text.ofNat) := by
  induction ps generalizing before with
  | nil => rw [List.flatMap_nil, pieces, List.map_nil]
  | cons piece ps ih =>
    have htail {before : Option Char} := @ih before fun c hc => h c (List.mem_cons_of_mem _ hc)
    rw [List.flatMap_cons]
    cases piece with
    | plain c =>
      rw [Piece.text, List.singleton_append, pieces_cons_of_none
        (tokenDigits_of_ne (h c List.mem_cons_self)), htail]
      rfl
    | found n =>
      rw [Piece.text, pieces_append_of_found tokenDigits_token (by simp [token]), htail]
      rfl

/-! ### Slots -/

/-- A place of a text that has tokens. -/
inductive Slot where
  | char (c : Char)
  | stashed (t : Text)
deriving DecidableEq, Repr

def Slot.text : Slot → Text
  | .char c => [c]
  | .stashed t => t

namespace Stash

variable {s : Stash} {t : Text} {l : List Slot}

/-- What a piece of a text stands for. -/
def slot (s : Stash) : Piece Text → Except Fault Slot
  | .plain c => .ok (.char c)
  | .found digits => (s.get digits).map .stashed

/-- The slots of a text. -/
def slots (s : Stash) (t : Text) : Except Fault (List Slot) :=
  (pieces tokenDigits none t).mapM s.slot

lemma piece_eq (s : Stash) (piece : Piece Text) : s.piece piece = (s.slot piece).map Slot.text := by
  cases piece with
  | plain c => rfl
  | found digits =>
    rw [Stash.piece, slot]
    cases s.get digits <;> rfl

lemma restoreOnce_eq (h : s.slots t = .ok l) : s.restoreOnce t = .ok (l.flatMap Slot.text) := by
  have hpieces : (pieces tokenDigits none t).mapM s.piece = .ok (l.map Slot.text) := by
    rw [mapM_eq_ok, List.forall₂_map_right_iff]
    refine (mapM_eq_ok.1 h).imp fun piece slot hslot => ?_
    rw [piece_eq, hslot]
    rfl
  rw [restoreOnce, hpieces, List.flatMap_def]
  rfl

lemma slots_eq_map (s : Stash) (h : tokenOpen ∉ t) : s.slots t = .ok (t.map .char) := by
  have hpieces : pieces tokenDigits none t = t.map .plain := by
    refine pieces_eq_map_of_none fun a c v ht => tokenDigits_of_ne fun hc => h ?_
    rw [ht, ← hc]
    simp
  rw [slots, hpieces, List.mapM_map]
  exact mapM_eq_ok_map fun c _ => rfl

lemma flatMap_map_char (t : Text) : (t.map Slot.char).flatMap Slot.text = t := by
  rw [List.flatMap_map]
  exact List.flatMap_singleton' t

/-- A text without tokens stays as it is. -/
lemma restoreOnce_eq_self (s : Stash) (h : tokenOpen ∉ t) : s.restoreOnce t = .ok t := by
  rw [restoreOnce_eq (s.slots_eq_map h), flatMap_map_char]

/-- One round puts everything back, if it leaves no token. -/
lemma restore_of_restoreOnce {out : Text} (h : s.restoreOnce t = .ok out)
    (hopen : tokenOpen ∉ out) : s.restore t = .ok out :=
  (atRest_of_step h).trans (atRest_of_still (restoreOnce_eq_self s hopen))

lemma restore_of_error {fault : Fault} (h : s.restoreOnce t = .error fault) :
    s.restore t = .error (.fault fault) :=
  atRest_of_error h

/-- The texts of the slots are put back, if no token is left in them. -/
theorem restore_eq (h : s.slots t = .ok l) (hopen : tokenOpen ∉ l.flatMap Slot.text) :
    s.restore t = .ok (l.flatMap Slot.text) :=
  restore_of_restoreOnce (restoreOnce_eq h) hopen

lemma mem_of_slots (h : s.slots t = .ok l) {c : Char} (hc : .char c ∈ l) : c ∈ t := by
  obtain ⟨piece, hpiece, hslot⟩ := exists_of_mapM h hc
  cases piece with
  | found digits =>
    obtain ⟨item, -, heq⟩ := map_eq_ok.1 hslot
    cases heq
  | plain d =>
    obtain rfl := Slot.char.inj (Except.ok.inj hslot)
    exact mem_of_plain_mem reads_tokenDigits.suffix hpiece

end Stash

end LinkedDocs.Markup
