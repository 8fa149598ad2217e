import LinkedDocs.Text.Utf8
import LinkedDocs.Proofs.Results

/-!
# Decoding undoes encoding

Bytes are decoded to a text exactly if they are its encoding. So the bytes that cannot be decoded
are those that encode no text at all.
-/

namespace LinkedDocs.Utf8

/-- The bytes of a text. -/
def encode (t : Text) : List UInt8 :=
  t.flatMap String.utf8EncodeChar

/-! ## One sequence -/

lemma toNat_ofNat {code : Nat} (h : code.isValidChar) : (Char.ofNat code).val.toNat = code := by
  rw [Char.ofNat, dif_pos h]
  rfl

lemma ofNat_of_toNat {b : UInt8} {n : Nat} (h : b.toNat = n) : UInt8.ofNat n = b := by
  subst h
  exact UInt8.ofNat_toNat

@[simp] lemma continue?_zero {bits read code : Nat} {bytes : List UInt8} :
    continue? bits read 0 bytes = .ok code ↔ bits = code := by
  simp [continue?]

lemma continue?_succ {bits read more code : Nat} {bytes : List UInt8} :
    continue? bits read (more + 1) bytes = .ok code ↔
      ∃ b rest, bytes = b :: rest ∧ 0x80 ≤ b.toNat ∧ b.toNat ≤ 0xbf ∧
        continue? (64 * bits + (b.toNat - 0x80)) (read + 1) more rest = .ok code := by
  cases bytes with
  | nil => simp [continue?]
  | cons b rest =>
    rw [continue?]
    have hb : (0x80 ≤ b ∧ b ≤ 0xbf) ↔ 0x80 ≤ b.toNat ∧ b.toNat ≤ 0xbf := by
      simp [UInt8.le_iff_toNat_le]
    by_cases h : 0x80 ≤ b ∧ b ≤ 0xbf
    · rw [if_pos h]
      simp [hb.1 h]
    · rw [if_neg h]
      simp only [hb] at h
      simp
      omega

/-- A sequence is one byte of seven bits, or a first byte with those that its form asks for. -/
lemma sequence_eq_ok {b : UInt8} {rest : List UInt8} {code more : Nat} :
    sequence b rest = .ok (code, more) ↔
      (b.toNat < 0x80 ∧ code = b.toNat ∧ more = 0) ∨
      (0x80 ≤ b.toNat ∧ ∃ form second later, form? b = some form ∧ rest = second :: later ∧
        form.low.toNat ≤ second.toNat ∧ second.toNat ≤ form.high.toNat ∧ more = form.more + 1 ∧
        continue? (64 * form.bits + (second.toNat - 0x80)) 2 form.more later = .ok code) := by
  have hlt : b < 0x80 ↔ b.toNat < 0x80 := by simp [UInt8.lt_iff_toNat_lt]
  unfold sequence
  by_cases hb : b < 0x80
  · rw [if_pos hb]
    have := hlt.1 hb
    simp
    omega
  · rw [if_neg hb]
    rw [hlt] at hb
    cases hform : form? b with
    | none => simp; omega
    | some form =>
      cases rest with
      | nil => simp; omega
      | cons second later =>
        simp only [UInt8.le_iff_toNat_le]
        by_cases hsecond : form.low.toNat ≤ second.toNat ∧ second.toNat ≤ form.high.toNat
        · rw [if_pos hsecond, map_eq_ok]
          constructor
          · rintro ⟨code, hcode, h⟩
            cases h
            exact .inr ⟨by omega, form, second, later, rfl, rfl, hsecond.1, hsecond.2, rfl, hcode⟩
          · rintro (h | ⟨-, form, second, later, hform, hrest, -, -, rfl, hcode⟩)
            · omega
            · cases hform
              cases hrest
              exact ⟨code, hcode, rfl⟩
        · rw [if_neg hsecond]
          constructor
          · intro h
            cases h
          · rintro (h | ⟨-, form, second, later, hform, hrest, hlow, hhigh, -⟩)
            · omega
            · cases hform
              cases hrest
              exact absurd ⟨hlow, hhigh⟩ hsecond

/-- The two first bytes of a sequence of several, of which the first gives the bits and after which
`more` follow. The bits that both give rule out a form that is too long, a surrogate, and what is
beyond all codes. -/
def Opens (b second : UInt8) (bits more : Nat) : Prop :=
  0x80 ≤ second.toNat ∧ second.toNat ≤ 0xbf ∧
    ((more = 0 ∧ b.toNat = 0xc0 + bits ∧ 2 ≤ bits ∧ bits < 0x20) ∨
    (more = 1 ∧ b.toNat = 0xe0 + bits ∧ bits < 0x10 ∧ (bits = 0 → 0xa0 ≤ second.toNat) ∧
      (bits = 0xd → second.toNat < 0xa0)) ∨
    (more = 2 ∧ b.toNat = 0xf0 + bits ∧ bits ≤ 4 ∧ (bits = 0 → 0x90 ≤ second.toNat) ∧
      (bits = 4 → second.toNat < 0x90)))

lemma opens_iff {b second : UInt8} {bits more : Nat} :
    Opens b second bits more ↔ ∃ form, form? b = some form ∧ form.low.toNat ≤ second.toNat ∧
      second.toNat ≤ form.high.toNat ∧ form.bits = bits ∧ form.more = more := by
  unfold Opens form?
  dsimp only
  have h80 : (0x80 : UInt8).toNat = 0x80 := rfl
  have h8f : (0x8f : UInt8).toNat = 0x8f := rfl
  have h90 : (0x90 : UInt8).toNat = 0x90 := rfl
  have h9f : (0x9f : UInt8).toNat = 0x9f := rfl
  have ha0 : (0xa0 : UInt8).toNat = 0xa0 := rfl
  have hbf : (0xbf : UInt8).toNat = 0xbf := rfl
  split_ifs
  case neg =>
    constructor
    · omega
    · rintro ⟨form, hform, -⟩
      cases hform
  all_goals
    simp only [Option.some.injEq, exists_eq_left', h80, h8f, h90, h9f, ha0, hbf]
    omega

/-- The code that a sequence gives is that of a character, and the bytes are those of the
character. -/
lemma bytes_of_sequence {b : UInt8} {rest : List UInt8} {code more : Nat}
    (h : sequence b rest = .ok (code, more)) :
    b :: rest = String.utf8EncodeChar (Char.ofNat code) ++ rest.drop more := by
  rcases sequence_eq_ok.1 h with ⟨hb, rfl, rfl⟩ |
    ⟨-, form, second, later, hform, rfl, hlow, hhigh, rfl, hcode⟩
  · rw [String.utf8EncodeChar, toNat_ofNat (.inl (by omega))]
    simp [show b.toNat ≤ 127 by omega]
  · have hopens := opens_iff.2 ⟨form, hform, hlow, hhigh, rfl, rfl⟩
    obtain ⟨hsecond, hsecond', h⟩ := hopens
    generalize form.bits = bits at *
    generalize form.more = more at *
    rcases h with ⟨rfl, hb, h⟩ | ⟨rfl, hb, h⟩ | ⟨rfl, hb, h⟩
    · rw [continue?_zero] at hcode
      rw [String.utf8EncodeChar, toNat_ofNat (.inl (by omega)), if_neg (by omega),
        if_pos (by omega), ofNat_of_toNat (show b.toNat = _ by omega),
        ofNat_of_toNat (show second.toNat = _ by omega)]
      rfl
    · obtain ⟨third, later, rfl, hthird, hthird', hcode⟩ := continue?_succ.1 hcode
      rw [continue?_zero] at hcode
      rw [String.utf8EncodeChar, toNat_ofNat (by unfold Nat.isValidChar; omega),
        if_neg (by omega), if_neg (by omega), if_pos (by omega),
        ofNat_of_toNat (show b.toNat = _ by omega), ofNat_of_toNat (show second.toNat = _ by omega),
        ofNat_of_toNat (show third.toNat = _ by omega)]
      rfl
    · obtain ⟨third, later, rfl, hthird, hthird', hcode⟩ := continue?_succ.1 hcode
      obtain ⟨fourth, later, rfl, hfourth, hfourth', hcode⟩ := continue?_succ.1 hcode
      rw [continue?_zero] at hcode
      rw [String.utf8EncodeChar, toNat_ofNat (by unfold Nat.isValidChar; omega),
        if_neg (by omega), if_neg (by omega), if_neg (by omega),
        ofNat_of_toNat (show b.toNat = _ by omega), ofNat_of_toNat (show second.toNat = _ by omega),
        ofNat_of_toNat (show third.toNat = _ by omega),
        ofNat_of_toNat (show fourth.toNat = _ by omega)]
      rfl

lemma sequence_of_opens {b second : UInt8} (bits more : Nat) {code : Nat} {later : List UInt8}
    (hopens : Opens b second bits more)
    (hcode : continue? (64 * bits + (second.toNat - 0x80)) 2 more later = .ok code) :
    sequence b (second :: later) = .ok (code, more + 1) := by
  have hb : 0x80 ≤ b.toNat := by
    unfold Opens at hopens
    omega
  obtain ⟨form, hform, hlow, hhigh, rfl, rfl⟩ := opens_iff.1 hopens
  exact sequence_eq_ok.2 (.inr ⟨hb, form, second, later, hform, rfl, hlow, hhigh, rfl, hcode⟩)

/-- The bytes of a character are a sequence that gives its code. -/
lemma sequence_of_bytes (c : Char) : ∃ b bytes, String.utf8EncodeChar c = b :: bytes ∧
    ∀ rest, sequence b (bytes ++ rest) = .ok (c.toNat, bytes.length) := by
  have hbyte {n : Nat} (h : n < 256) : (UInt8.ofNat n).toNat = n := UInt8.toNat_ofNat_of_lt' h
  have hvalid : c.val.toNat.isValidChar := c.valid
  unfold Nat.isValidChar at hvalid
  rw [String.utf8EncodeChar, ← Char.toNat_val]
  generalize c.val.toNat = v at hvalid
  split_ifs with h₁ h₂ h₃
  · refine ⟨_, _, rfl, fun rest => sequence_eq_ok.2 (.inl ?_)⟩
    rw [hbyte (by omega)]
    exact ⟨by omega, rfl, rfl⟩
  · refine ⟨_, _, rfl, fun rest => sequence_of_opens (v / 64) 0 ?_ ?_⟩
    · unfold Opens
      rw [hbyte (by omega), hbyte (by omega)]
      omega
    · rw [continue?_zero, hbyte (by omega)]
      omega
  · refine ⟨_, _, rfl, fun rest => sequence_of_opens (v / 4096) 1 ?_ ?_⟩
    · unfold Opens
      rw [hbyte (by omega), hbyte (by omega)]
      omega
    · refine continue?_succ.2 ⟨_, _, rfl, ?_⟩
      rw [continue?_zero, hbyte (by omega), hbyte (by omega)]
      omega
  · refine ⟨_, _, rfl, fun rest => sequence_of_opens (v / 262144) 2 ?_ ?_⟩
    · unfold Opens
      rw [hbyte (by omega), hbyte (by omega)]
      omega
    · refine continue?_succ.2 ⟨_, _, rfl, ?_, ?_, continue?_succ.2 ⟨_, _, rfl, ?_⟩⟩
      · rw [hbyte (by omega)]
        omega
      · rw [hbyte (by omega)]
        omega
      · rw [continue?_zero, hbyte (by omega), hbyte (by omega), hbyte (by omega)]
        omega

/-! ## Texts -/

lemma decodeFrom_encode (position : Nat) (done t : Text) :
    decodeFrom position done (encode t) = .ok (done.reverse ++ t) := by
  induction t generalizing position done with
  | nil => simp [encode, decodeFrom]
  | cons c t ih =>
    obtain ⟨b, bytes, hc, hsequence⟩ := sequence_of_bytes c
    have hcons : encode (c :: t) = b :: (bytes ++ encode t) := by
      simp [encode, hc]
    rw [hcons, decodeFrom, hsequence]
    dsimp only
    rw [List.drop_left, Char.ofNat_toNat, ih]
    simp

lemma encode_of_decodeFrom {position : Nat} {done t : Text} {bytes : List UInt8}
    (h : decodeFrom position done bytes = .ok t) :
    ∃ s, t = done.reverse ++ s ∧ bytes = encode s := by
  fun_induction decodeFrom position done bytes with
  | case1 position done =>
    cases h
    exact ⟨[], by simp, rfl⟩
  | case2 => cases h
  | case3 position done b rest code more hsequence ih =>
    obtain ⟨s, rfl, hs⟩ := ih h
    refine ⟨Char.ofNat code :: s, by simp, ?_⟩
    rw [bytes_of_sequence hsequence, hs]
    simp [encode]

/-- Bytes are decoded to a text exactly if they encode it. -/
theorem decode_eq_ok_iff {bytes : List UInt8} {t : Text} :
    decode bytes = .ok t ↔ bytes = encode t := by
  constructor
  · intro h
    obtain ⟨s, rfl, hs⟩ := encode_of_decodeFrom h
    exact hs
  · rintro rfl
    exact decodeFrom_encode 0 [] t

lemma encode_injective : Function.Injective encode := by
  intro s t h
  have hs := decode_eq_ok_iff.2 (rfl : encode s = encode s)
  rw [decode_eq_ok_iff.2 h] at hs
  exact (Except.ok.inj hs).symm

end LinkedDocs.Utf8
