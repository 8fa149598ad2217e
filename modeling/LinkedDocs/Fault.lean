import LinkedDocs.Text.Utf8
import LinkedDocs.Value

/-!
# Faults

Everything that can go wrong, as causes. `message` is the one place where a fault gets its
wording, and `label` the word under which it is reported.
-/

namespace LinkedDocs

/-- The two forms in which a setting can ask for a number. -/
inductive NumberForm where
  | integer | decimal
deriving DecidableEq, Repr

/-- Why there is no file at a path. -/
inductive PathFlaw where
  | absent
  | notADirectory
  | directory
  /-- A name in the path has more bytes than a name can have. -/
  | tooLong
deriving DecidableEq, Repr

namespace PathFlaw

def label : PathFlaw → Text
  | .absent => "FileNotFoundError".toList
  | .notADirectory => "NotADirectoryError".toList
  | .directory => "IsADirectoryError".toList
  | .tooLong => "OSError".toList

def message : PathFlaw → Text
  | .absent => "[Errno 2] No such file or directory".toList
  | .notADirectory => "[Errno 20] Not a directory".toList
  | .directory => "[Errno 21] Is a directory".toList
  | .tooLong => "[Errno 36] File name too long".toList

end PathFlaw

inductive Fault where
  /-- A value of a type that does not have the operation. -/
  | lacks (value : Value) (operation : Text)
  /-- A value whose items were asked for, and which has none. -/
  | notIterable (value : Value)
  /-- A value that cannot be shown because it is no text. -/
  | notText (value : Value)
  /-- Bytes where a text was asked for. -/
  | bytesNotText
  /-- A list or map where an identifier or key was asked for. -/
  | notAKey (value : Value)
  /-- A value that was searched for another, and which has no items. -/
  | notSearchable (value : Value)
  /-- A value that was searched for in a text, and which is no text. -/
  | notWithinText (value : Value)
  /-- A value that a text should start with, and which is no text. -/
  | notALead (value : Value)
  /-- A value among texts that were to be joined, and which is no text. -/
  | notJoinable (place : Nat) (value : Value)
  /-- A value that is neither a number nor a text that could be one. -/
  | notANumber (form : NumberForm) (value : Value)
  /-- A scalar that does not write an integer. -/
  | badInteger (base : Nat) (given : Scalar)
  /-- An integer written with too many digits. -/
  | longInteger (digits : Nat)
  /-- An integer that has too many digits to be shown. -/
  | unshowableInteger
  /-- A scalar that does not write a decimal. -/
  | badDecimal (given : Scalar)
  /-- A number of which nothing is written. -/
  | emptyNumber
  /-- An undefined number where an integer was asked for. -/
  | undefinedInteger
  /-- An infinite number where an integer was asked for. -/
  | infiniteInteger
  /-- An integer beyond double precision. -/
  | hugeInteger
  /-- A date or moment that the calendar does not have. -/
  | badDate (reason : Text)
  /-- A text that writes no date. -/
  | noDate
  /-- A code that no character has. -/
  | badCode
  /-- A code beyond the size of a machine integer. -/
  | hugeCode
  /-- An entity whose name is missing. -/
  | nameless (what : Text)
  /-- A word that is none of an enumeration, in any case. -/
  | unknownWord (enumeration : Text) (given : Value)
  /-- A value that is no word of an enumeration. -/
  | noSuchWord (enumeration : Text) (given : Value)
  /-- An entity with the id of another. -/
  | duplicateId (id : Value)
  /-- An id under which there is no entity of the wanted kind. -/
  | wrongKind (id : Value) (wanted : Text)
  /-- A key under which there is nothing. -/
  | absent (key : Value)
  /-- An entity without the field that was asked for. -/
  | noField (owner field : Text)
  /-- A part that a record cannot have. -/
  | unexpectedPart (owner part : Text)
  /-- The parts that a record must have and does not. -/
  | missingParts (owner : Text) (parts : List Text)
  /-- An entity listed where its kind has no place. -/
  | misplaced
  /-- A container that holds itself, directly or not. -/
  | cyclic
  /-- A placeholder token that stands for nothing. -/
  | looseToken
  /-- A placeholder token whose number is beyond every place. -/
  | hugeToken
  /-- A wait that is longer than the clock can measure. -/
  | longWait
  /-- A disturbance from outside. -/
  | disturbed (reason : Text)
  | invalidGraph (cause : Fault)
  | invalidSetting (cause : Fault)
  | unknownLayout (given : Text)
  | longSeparator (given : Text)
  | tooFewWorkers (given : Int)
  | timeoutNotPositive (given : Double)
  /-- A path at which no file can be read or written. -/
  | badPath (flaw : PathFlaw) (path : Text)
  /-- A path with a character that no path can have. -/
  | nullInPath
  /-- A graph file that cannot be opened. -/
  | unreadable (path : Text) (cause : Fault)
  | malformedDocument (path : Text)
  | noMapping (path : Text)
  /-- Bytes from `first` to `last` that are no text, `byte` being the first of them. -/
  | undecodable (byte first last : Nat) (reason : Text)
  /-- Characters from `first` to `last` that have no bytes, `char` being the first of them. -/
  | unencodable (char : Char) (first last : Nat)
  /-- A value that cannot be written as JSON. -/
  | notInJson (value : Value)
  /-- A closing tag, at a position, without its opening tag. -/
  | unopenedTag (tag : Text) (position : Nat)
  /-- A closing tag for any tag, at a position, where none is open. -/
  | nothingToClose (position : Nat)

namespace Fault

/-- The word under which a fault is reported. -/
def label : Fault → Text
  | .lacks .. => "AttributeError".toList
  | .noField .. => "AttributeError".toList
  | .notIterable _ => "TypeError".toList
  | .notText _ => "TypeError".toList
  | .bytesNotText => "TypeError".toList
  | .notAKey _ => "TypeError".toList
  | .notSearchable _ => "TypeError".toList
  | .notWithinText _ => "TypeError".toList
  | .notALead _ => "TypeError".toList
  | .notJoinable .. => "TypeError".toList
  | .notANumber .. => "TypeError".toList
  | .unexpectedPart .. => "TypeError".toList
  | .missingParts .. => "TypeError".toList
  | .badInteger .. => "ValueError".toList
  | .longInteger _ => "ValueError".toList
  | .unshowableInteger => "ValueError".toList
  | .badDecimal _ => "ValueError".toList
  | .emptyNumber => "IndexError".toList
  | .undefinedInteger => "ValueError".toList
  | .badDate _ => "ValueError".toList
  | .noDate => "AttributeError".toList
  | .badCode => "ValueError".toList
  | .hugeCode => "OverflowError".toList
  | .infiniteInteger => "OverflowError".toList
  | .hugeInteger => "OverflowError".toList
  | .nameless _ => "ValueError".toList
  | .unknownWord .. => "ValueError".toList
  | .noSuchWord .. => "ValueError".toList
  | .duplicateId _ => "ValueError".toList
  | .wrongKind .. => "KeyError".toList
  | .absent _ => "KeyError".toList
  | .misplaced => "AssertionError".toList
  | .cyclic => "RecursionError".toList
  | .looseToken => "IndexError".toList
  | .hugeToken => "IndexError".toList
  | .longWait => "OverflowError".toList
  | .disturbed _ => "RuntimeError".toList
  | .invalidGraph _ => "GraphLoadError".toList
  | .badPath flaw _ => flaw.label
  | .nullInPath => "ValueError".toList
  | .unreadable .. => "GraphLoadError".toList
  | .malformedDocument _ => "GraphLoadError".toList
  | .noMapping _ => "GraphLoadError".toList
  | .invalidSetting _ => "ConfigError".toList
  | .unknownLayout _ => "ConfigError".toList
  | .longSeparator _ => "ConfigError".toList
  | .tooFewWorkers _ => "ConfigError".toList
  | .timeoutNotPositive _ => "ConfigError".toList
  | .undecodable .. => "UnicodeDecodeError".toList
  | .unencodable .. => "UnicodeEncodeError".toList
  | .notInJson _ => "TypeError".toList
  | .unopenedTag .. => "MarkupError".toList
  | .nothingToClose .. => "MarkupError".toList

/-- The two digits of a byte. -/
def byteText (byte : Nat) : Text :=
  "0x".toList ++ Text.hex 2 byte

/-- The wording of a fault. -/
def message : Fault → Text
  | .lacks value operation =>
    '\'' :: value.typeName ++ "' object has no attribute '".toList ++ operation ++ "'".toList
  | .noField owner field =>
    '\'' :: owner ++ "' object has no attribute '".toList ++ field ++ "'".toList
  | .notIterable value => '\'' :: value.typeName ++ "' object is not iterable".toList
  | .notText value =>
    "expected string or bytes-like object, got '".toList ++ value.typeName ++ "'".toList
  | .bytesNotText => "cannot use a string pattern on a bytes-like object".toList
  | .notAKey value => "unhashable type: '".toList ++ value.typeName ++ "'".toList
  | .notSearchable value =>
    "argument of type '".toList ++ value.typeName ++ "' is not iterable".toList
  | .notWithinText value =>
    "'in <string>' requires string as left operand, not ".toList ++ value.typeName
  | .notALead value =>
    "startswith first arg must be str or a tuple of str, not ".toList ++ value.typeName
  | .notJoinable place value =>
    "sequence item ".toList ++ Text.ofNat place ++ ": expected str instance, ".toList ++
      value.typeName ++ " found".toList
  | .notANumber .integer value =>
    "int() argument must be a string, a bytes-like object or a real number, not '".toList ++
      value.typeName ++ "'".toList
  | .notANumber .decimal value =>
    "float() argument must be a string or a real number, not '".toList ++
      value.typeName ++ "'".toList
  | .badInteger base given =>
    "invalid literal for int() with base ".toList ++ Text.ofNat base ++ ": ".toList ++
      given.inspect.take 200
  | .longInteger digits =>
    "Exceeds the limit (4300 digits) for integer string conversion: value has ".toList ++
      Text.ofNat digits ++
      " digits; use sys.set_int_max_str_digits() to increase the limit".toList
  | .unshowableInteger =>
    "Exceeds the limit (4300 digits) for integer string conversion; ".toList ++
      "use sys.set_int_max_str_digits() to increase the limit".toList
  | .badDecimal given => "could not convert string to float: ".toList ++ given.inspect
  | .emptyNumber => "string index out of range".toList
  | .undefinedInteger => "cannot convert float NaN to integer".toList
  | .infiniteInteger => "cannot convert float infinity to integer".toList
  | .hugeInteger => "int too large to convert to float".toList
  | .badDate reason => reason
  | .noDate => "'NoneType' object has no attribute 'groupdict'".toList
  | .badCode => "chr() arg not in range(0x110000)".toList
  | .hugeCode => "Python int too large to convert to C int".toList
  | .nameless what => what ++ " without a name".toList
  | .unknownWord enumeration given =>
    "Unknown ".toList ++ enumeration ++ " '".toList ++ given.toText ++ "'".toList
  | .noSuchWord enumeration given => given.inspect ++ " is not a valid ".toList ++ enumeration
  | .duplicateId id => "Duplicate entity id '".toList ++ id.toText ++ "'".toList
  | .wrongKind id wanted =>
    Text.quoted ("Entity '".toList ++ id.toText ++ "' is not a ".toList ++ wanted)
  | .absent key => key.inspect
  | .unexpectedPart owner part =>
    owner ++ ".__init__() got an unexpected keyword argument '".toList ++ part ++ "'".toList
  | .missingParts owner parts =>
    owner ++ ".__init__() missing ".toList ++ Text.ofNat parts.length ++
      (if parts.length = 1 then " required positional argument: " else
        " required positional arguments: ").toList ++
      Text.enumeration (parts.map Text.quoted)
  | .misplaced => []
  | .cyclic => "maximum recursion depth exceeded".toList
  | .looseToken => "list index out of range".toList
  | .hugeToken => "cannot fit 'int' into an index-sized integer".toList
  | .longWait => "timestamp out of range for platform time_t".toList
  | .disturbed reason => reason
  | .invalidGraph cause => "Invalid graph: ".toList ++ cause.message
  | .invalidSetting cause => "Invalid configuration value: ".toList ++ cause.message
  | .unknownLayout given =>
    "namespace_mode must be one of ['file', 'folder'], got ".toList ++ given.quoted
  | .longSeparator given =>
    "namespace_separator must be a single character, got ".toList ++ given.quoted
  | .tooFewWorkers given => "max_workers must be at least 1, got ".toList ++ Text.ofInt given
  | .timeoutNotPositive given => "entity_timeout must be positive, got ".toList ++ given.text
  | .badPath flaw path => flaw.message ++ ": ".toList ++ path.quoted
  | .nullInPath => "embedded null byte".toList
  | .unreadable path cause =>
    "Cannot read graph file ".toList ++ path ++ ": ".toList ++ cause.message
  | .malformedDocument path => "Invalid YAML in ".toList ++ path
  | .noMapping path => path ++ ": top level must be a mapping with an 'assemblies' list".toList
  | .undecodable byte first last reason =>
    if first = last then
      "'utf-8' codec can't decode byte ".toList ++ byteText byte ++ " in position ".toList ++
        Text.ofNat first ++ ": ".toList ++ reason
    else
      "'utf-8' codec can't decode bytes in position ".toList ++ Text.ofNat first ++ "-".toList ++
        Text.ofNat last ++ ": ".toList ++ reason
  | .unencodable char first last =>
    (if first = last then
      "'utf-8' codec can't encode character ".toList ++ Text.quoted [char] ++ " in position ".toList ++
        Text.ofNat first
    else
      "'utf-8' codec can't encode characters in position ".toList ++ Text.ofNat first ++
        "-".toList ++ Text.ofNat last) ++ ": surrogates not allowed".toList
  | .notInJson value =>
    "Object of type ".toList ++ value.shortTypeName ++ " is not JSON serializable".toList
  | .unopenedTag tag position =>
    "closing tag '".toList ++ tag ++ "' at position ".toList ++ Text.ofNat position ++
      " doesn't match any open tag".toList
  | .nothingToClose position =>
    "closing tag '[/]' at position ".toList ++ Text.ofNat position ++
      " has nothing to close".toList

/-- Whether the fault comes from the content of a value, so that a setting or graph with it is
reported as invalid. -/
def isFromContent (fault : Fault) : Bool :=
  [ "AttributeError", "KeyError", "TypeError", "ValueError"].any (·.toList == fault.label)

end Fault

/-- Why there is no result: something has gone wrong, or the work for it never ends. -/
inductive NoResult where
  | fault (fault : Fault)
  | endless

namespace Utf8

/-- The wording of a flaw. -/
def FlawKind.text : FlawKind → Text
  | .badStart => "invalid start byte".toList
  | .badContinuation => "invalid continuation byte".toList
  | .cutOff => "unexpected end of data".toList

def Flaw.fault (flaw : Flaw) : Fault :=
  .undecodable flaw.byte.toNat flaw.position (flaw.position + flaw.length - 1) flaw.kind.text

end Utf8

end LinkedDocs
