import LinkedDocs.Text.Quoted

/-!
# Arguments of a command

An option is given by its name, or by its letter, several of which can share a dash. A value follows
its option, after an equals sign or as the next argument; a letter's value can follow directly. All
after a double dash is positional.
-/

namespace LinkedDocs.Command

/-- An option that a command has. -/
structure OptionForm where
  name : Text
  letter : Option Char := none
  hasValue : Bool := false

/-- An option as it was given. -/
structure Given where
  name : Text
  value : Text := []

/-- What is wrong with arguments. -/
inductive Misuse where
  /-- The command cannot be used in this way. -/
  | usage
  /-- An option lacks its value. -/
  | valueMissing (option : Text)
  /-- An option has a value without need. -/
  | valueUnwanted (option : Text)

/-- The arguments of a command, sorted. -/
structure Arguments where
  options : List Given := []
  positional : List Text := []

namespace Arguments

def addOptions (given : List Given) (a : Arguments) : Arguments :=
  { a with options := given ++ a.options }

def addPositional (t : Text) (a : Arguments) : Arguments :=
  { a with positional := t :: a.positional }

/-- Whether an option was given. -/
def has (name : String) (a : Arguments) : Bool :=
  a.options.any (·.name = name.toList)

/-- The value of an option; the last one counts. -/
def value? (name : String) (a : Arguments) : Option Text :=
  (a.options.reverse.find? (·.name = name.toList)).map (·.value)

/-- The names of the options in the order in which they were first given. -/
def names (a : Arguments) : List Text :=
  (a.options.map (·.name)).eraseDups

end Arguments

/-- What an argument is. -/
inductive Role where
  /-- The end of the options. -/
  | stop
  | positional
  /-- Options that are complete. -/
  | complete (given : List Given)
  /-- Options of which the last, as it is `spelled`, lacks its value. -/
  | pending (given : List Given) (name spelled : Text)

namespace Role

/-- The role of a group of letters, after options that are complete. -/
def ofLetters (forms : List OptionForm) (given : List Given) : Text → Except Misuse Role
  | [] => .ok (.complete given)
  | c :: cs =>
    match forms.find? (·.letter = some c) with
    | none => .error .usage
    | some form =>
      if !form.hasValue then ofLetters forms (given ++ [⟨form.name, []⟩]) cs
      else if cs.isEmpty then .ok (.pending given form.name ['-', c])
      else .ok (.complete (given ++ [⟨form.name, cs⟩]))

/-- The role of a name, with what follows an equals sign. -/
def ofName (forms : List OptionForm) (name : Text) (value : Option Text) : Except Misuse Role :=
  let spelled := '-' :: '-' :: name
  match forms.find? (·.name = name), value with
  | none, _ => .error .usage
  | some form, some value =>
    if form.hasValue then .ok (.complete [⟨name, value⟩]) else .error (.valueUnwanted spelled)
  | some form, none =>
    .ok (if form.hasValue then .pending [] name spelled else .complete [⟨name, []⟩])

/-- The role of an argument. -/
def of (forms : List OptionForm) (arg : Text) : Except Misuse Role :=
  match arg with
  | ['-', '-'] => .ok .stop
  | '-' :: '-' :: rest =>
    let value := match rest.dropWhile (· ≠ '=') with
      | _ :: value => some value
      | [] => none
    ofName forms (rest.takeWhile (· ≠ '=')) value
  | '-' :: c :: cs => ofLetters forms [] (c :: cs)
  | _ => .ok .positional

end Role

/-- Sorts arguments. If options must come first, sorting ends at the first positional argument, and
all from there on is positional. -/
def Arguments.read (forms : List OptionForm) (optionsFirst : Bool) :
    List Text → Except Misuse Arguments
  | [] => .ok {}
  | arg :: rest =>
    match Role.of forms arg with
    | .error misuse => .error misuse
    | .ok .stop => .ok { positional := rest }
    | .ok .positional =>
      if optionsFirst then .ok { positional := arg :: rest }
      else (read forms optionsFirst rest).map (·.addPositional arg)
    | .ok (.complete given) => (read forms optionsFirst rest).map (·.addOptions given)
    | .ok (.pending given name spelled) =>
      match rest with
      | [] => .error (.valueMissing spelled)
      | value :: more =>
        (read forms optionsFirst more).map (·.addOptions (given ++ [⟨name, value⟩]))

end LinkedDocs.Command
