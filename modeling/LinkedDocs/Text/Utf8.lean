import LinkedDocs.Text.Basic

/-!
# UTF-8

A code point takes one to four bytes. Of each code point only the shortest form is accepted, and the
surrogates are none. The first flaw ends decoding.
-/

namespace LinkedDocs.Utf8

/-- What is wrong with a sequence of bytes. -/
inductive FlawKind where
  /-- The first byte starts no sequence. -/
  | badStart
  /-- A later byte does not continue the sequence. -/
  | badContinuation
  /-- The bytes end within the sequence. -/
  | cutOff
deriving DecidableEq

/-- A flaw, with the place and the number of the bytes that are wrong. -/
structure Flaw where
  kind : FlawKind
  /-- The first of the bytes. -/
  byte : UInt8
  position : Nat
  length : Nat
deriving DecidableEq

/-- The shape of the sequences that start with a byte: the bits that the byte gives, the smallest and
largest second byte, and how many bytes follow the second. -/
structure Form where
  bits : Nat
  low : UInt8 := 0x80
  high : UInt8 := 0xbf
  more : Nat

/-- The form of the sequences of two to four bytes that start with a byte. -/
def form? (b : UInt8) : Option Form :=
  let n := b.toNat
  if 0xc2 ≤ n ∧ n ≤ 0xdf then some { bits := n - 0xc0, more := 0 }
  else if n = 0xe0 then some { bits := 0, low := 0xa0, more := 1 }
  else if n = 0xed then some { bits := 0xd, high := 0x9f, more := 1 }
  else if 0xe1 ≤ n ∧ n ≤ 0xef then some { bits := n - 0xe0, more := 1 }
  else if n = 0xf0 then some { bits := 0, low := 0x90, more := 2 }
  else if n = 0xf4 then some { bits := 4, high := 0x8f, more := 2 }
  else if 0xf1 ≤ n ∧ n ≤ 0xf3 then some { bits := n - 0xf0, more := 2 }
  else none

/-- Adds the bits of further bytes, having read `read` bytes so far. On a flaw, says how many bytes
are wrong. -/
def continue? (bits read : Nat) : (more : Nat) → List UInt8 → Except (FlawKind × Nat) Nat
  | 0, _ => .ok bits
  | _ + 1, [] => .error (.cutOff, read)
  | more + 1, b :: bs =>
    if 0x80 ≤ b ∧ b ≤ 0xbf then continue? (64 * bits + (b.toNat - 0x80)) (read + 1) more bs
    else .error (.badContinuation, read)

/-- The code point of a sequence after its first byte, and how many bytes it takes from there. -/
def sequence (b : UInt8) (rest : List UInt8) : Except (FlawKind × Nat) (Nat × Nat) :=
  if b < 0x80 then .ok (b.toNat, 0)
  else
    match form? b, rest with
    | none, _ => .error (.badStart, 1)
    | some _, [] => .error (.cutOff, 1)
    | some form, second :: rest =>
      if form.low ≤ second ∧ second ≤ form.high then
        (continue? (64 * form.bits + (second.toNat - 0x80)) 2 form.more rest).map
          fun code => (code, form.more + 1)
      else .error (.badContinuation, 1)

/-- Decodes bytes, the first of them standing at `position`, after the characters `done`, of which the
last is first. -/
def decodeFrom (position : Nat) (done : Text) : List UInt8 → Except Flaw Text
  | [] => .ok done.reverse
  | b :: rest =>
    match sequence b rest with
    | .error (kind, length) => .error ⟨kind, b, position, length⟩
    | .ok (code, more) => decodeFrom (position + more + 1) (Char.ofNat code :: done) (rest.drop more)
termination_by bytes => bytes.length
decreasing_by simp only [List.length_drop, List.length_cons]; omega

/-- The text that the bytes encode. -/
def decode (bytes : List UInt8) : Except Flaw Text :=
  decodeFrom 0 [] bytes

end LinkedDocs.Utf8
