import LinkedDocs.Fault

/-!
# Coming to rest

Some conversions repeat a step until it changes nothing. On some texts there is no end to that, and
then there is no result either.
-/

namespace LinkedDocs.Markup

/-- Repeats a step until it changes nothing or fails; `none` if it does neither. -/
def settle? (step : Text → Except Fault Text) (t : Text) : Option (Except Fault Text) :=
  match step t with
  | .error fault => some (.error fault)
  | .ok next => if next = t then some (.ok t) else by
    -- Written as a term, the call would carry its position in the file.
    apply settle?
    · exact step
    · exact next
partial_fixpoint

/-- The text at which a step comes to rest. -/
def atRest (step : Text → Except Fault Text) (t : Text) : Except NoResult Text :=
  match settle? step t with
  | some (.ok t) => .ok t
  | some (.error fault) => .error (.fault fault)
  | none => .error .endless

end LinkedDocs.Markup
