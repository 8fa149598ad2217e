import LinkedDocs.Fault

/-!
# JSON

Values as JSON text, with one item or entry a line. Null, truth values, numbers, texts, lists and maps
can be written; the other values have no form in JSON.
-/

namespace LinkedDocs.Json

/-- A character within quotes. -/
def char (c : Char) : Text :=
  match c with
  | '"' => "\\\"".toList
  | '\\' => "\\\\".toList
  | '\n' => "\\n".toList
  | '\r' => "\\r".toList
  | '\t' => "\\t".toList
  | '\x08' => "\\b".toList
  | '\x0c' => "\\f".toList
  | c => if c.toNat < 0x20 then "\\u".toList ++ Text.hex 4 c.toNat else [c]

/-- A text in quotes. -/
def text (t : Text) : Text :=
  '"' :: t.flatMap char ++ ['"']

def double : Double → Text
  | .nan => "NaN".toList
  | .infinite negative => (if negative then "-Infinity" else "Infinity").toList
  | x => x.text

def scalar : Scalar → Except Fault Text
  | .null => .ok "null".toList
  | .bool b => .ok (if b then "true" else "false").toList
  | .int n => if (Scalar.int n).isShowable then .ok (Text.ofInt n) else .error .unshowableInteger
  | .double x => .ok (double x)
  | .text t => .ok (text t)
  | other => .error (.notInJson (.scalar other))

/-- A key, which is always in quotes. -/
def key : Scalar → Except Fault Text
  | .text t => .ok (text t)
  | s => (scalar s).map fun t => '"' :: t ++ ['"']

/-- Parts between brackets, each on a line of its own. -/
def enclose (depth : Nat) (opening closing : Char) (parts : List Text) : Text :=
  let indent := fun n => '\n' :: List.replicate (2 * n) ' '
  if parts.isEmpty then [opening, closing]
  else
    opening :: indent (depth + 1) ++ Text.join (',' :: indent (depth + 1)) parts ++
      indent depth ++ [closing]

mutual

/-- A value at a depth. -/
def value (depth : Nat) : Value → Except Fault Text
  | .scalar s => scalar s
  | .list vs => (items (depth + 1) vs).map (enclose depth '[' ']')
  | .tuple vs => (items (depth + 1) vs).map (enclose depth '[' ']')
  | .map es => (entries (depth + 1) es).map (enclose depth '\x7b' '\x7d')
  | .set ks => .error (.notInJson (.set ks))
  | .knot _ body => value depth body

/-- The items of a list. -/
def items (depth : Nat) : List Value → Except Fault (List Text)
  | [] => .ok []
  | v :: rest => do
    let first ← value depth v
    return first :: (← items depth rest)

/-- The entries of a map. -/
def entries (depth : Nat) : List (Scalar × Value) → Except Fault (List Text)
  | [] => .ok []
  | (k, v) :: rest => do
    let first ← key k
    let second ← value depth v
    return (first ++ ": ".toList ++ second) :: (← entries depth rest)

end

/-- The value as JSON. -/
def render (v : Value) : Except Fault Text :=
  value 0 v

end LinkedDocs.Json
