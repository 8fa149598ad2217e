import LinkedDocs.Number.Double
import LinkedDocs.Text.Utf8

/-!
# Text that is read batch by batch

A text file is read in batches of a fixed number of characters, and for each batch as many chunks
of bytes as it takes. What a chunk leaves unfinished is held back until the next chunk comes: the bytes
of a character, and a carriage return, because a line feed may follow. So the place of a flaw is
counted from the first byte that is decoded with it.
-/

namespace LinkedDocs.Utf8

/-- Decodes bytes that others may follow, and answers those that are left unfinished. -/
def decodeOpen (bytes : List UInt8) : Except Flaw (Text × List UInt8) :=
  match decode bytes with
  | .ok t => .ok (t, [])
  | .error flaw =>
    if flaw.kind = .cutOff then
      (decode (bytes.take flaw.position)).map (·, bytes.drop flaw.position)
    else .error flaw

/-- A file that is being read. -/
structure Intake where
  /-- The bytes that have not been read. -/
  rest : List UInt8
  /-- The bytes of the character that the last chunk ended within. -/
  held : List UInt8 := []
  /-- Whether the last chunk ended with a carriage return. -/
  heldReturn : Bool := false
  /-- How many bytes the last chunk had. -/
  chunkBytes : Nat := 0
  /-- How many characters the last chunk gave. -/
  chunkChars : Nat := 0
  /-- What has been read. -/
  text : Text := []

namespace Intake

/-- The least number of bytes in a chunk, unless the file ends. -/
def leastChunk : Nat := 8192

/-- How many characters a batch has. -/
def batch : Nat := 4096

/-- How many batches are read before the first character is looked at. -/
def ahead : Nat := 2

/-- Where the batches that are read together with the character at a place start. -/
def startOf (place : Nat) : Nat :=
  if place / batch < ahead then 0 else batch * (place / batch)

/-- How many bytes the next chunk has if so many characters are missing: as many as it would take if
characters had as many bytes as those in the last chunk. -/
def chunkSize (missing : Nat) (i : Intake) : Nat :=
  if i.chunkChars = 0 then leastChunk
  else
    let bytes := (Double.ofRatio false i.chunkBytes i.chunkChars).mul (.ofInt missing)
    max leastChunk (bytes.truncate?.getD 0).toNat

/-- Whether everything has been read. -/
def isDone (i : Intake) : Bool :=
  i.rest.isEmpty && i.held.isEmpty && !i.heldReturn

/-- Takes in what was held back when the file ends. -/
def close (i : Intake) : Except Flaw Intake :=
  (decode i.held).map fun t =>
    { i with
      held := []
      heldReturn := false
      text := i.text ++ t ++ (if i.heldReturn then ['\n'] else []) }

/-- Reads one chunk. -/
def readChunk (missing : Nat) (i : Intake) : Except Flaw Intake :=
  let size := i.chunkSize missing
  match i.rest.take size with
  | [] => i.close
  | chunk =>
    (decodeOpen (i.held ++ chunk)).map fun (t, held) =>
      let t := if i.heldReturn then '\r' :: t else t
      let heldReturn := t.getLast? = some '\r'
      let t := Text.unifyLineEnds (if heldReturn then t.dropLast else t)
      { rest := i.rest.drop size
        held
        heldReturn
        chunkBytes := chunk.length
        chunkChars := t.length
        text := i.text ++ t }

/-- Reads until there are so many characters or the file ends, at most `fuel` chunks. -/
def fill (wanted : Nat) : (fuel : Nat) → Intake → Except Flaw Intake
  | 0, i => .ok i
  | fuel + 1, i =>
    if wanted ≤ i.text.length || i.isDone then .ok i
    else (i.readChunk (wanted - i.text.length)).bind (fill wanted fuel)

/-- What can be read after so many batches, and the flaw that comes then, in at most `fuel` more
batches. -/
def readFrom : (fuel batches : Nat) → Intake → Text × Option Flaw
  | 0, _, i => (i.text, none)
  | fuel + 1, batches, i =>
    let wanted := batch * (batches + 1)
    match i.fill wanted (i.rest.length + 2) with
    | .error flaw => (i.text.take (startOf (batch * batches)), some flaw)
    | .ok next =>
      if next.text.length < wanted then (next.text, none) else readFrom fuel (batches + 1) next

end Intake

/-- The batches of a file that can be read, and the flaw in the batch after them. -/
def readable (bytes : List UInt8) : Text × Option Flaw :=
  Intake.readFrom (bytes.length + 1) 0 { rest := bytes }

end LinkedDocs.Utf8
