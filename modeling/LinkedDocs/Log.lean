import LinkedDocs.Text.Basic

/-!
# Log lines

What the program says about its work while it is at it.
-/

namespace LinkedDocs.Log

inductive Level where
  | debug | info | warning
deriving DecidableEq

def Level.text : Level → Text
  | .debug => "DEBUG".toList
  | .info => "INFO".toList
  | .warning => "WARNING".toList

/-- A message, with the part of the program that it comes from. -/
structure Line where
  level : Level
  source : Text
  message : Text

namespace Line

def text (l : Line) : Text :=
  l.level.text ++ ' ' :: l.source ++ ": ".toList ++ l.message

/-- Whether the line is shown: warnings always, the rest on request. -/
def isShown (verbose : Bool) (l : Line) : Bool :=
  verbose || l.level = .warning

end Line

end LinkedDocs.Log
