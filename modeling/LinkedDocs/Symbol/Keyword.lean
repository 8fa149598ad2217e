import LinkedDocs.Text.Case

/-!
# Keywords

The language keywords that have a reference page, and where it is.
-/

namespace LinkedDocs.Keyword

open Text

/-- The four parts of the language reference. -/
inductive Chapter where
  | keywords | builtinTypes | operators | statements

/-- The address of a part of the language reference. -/
def Chapter.url : Chapter → Text
  | .keywords => "https://learn.microsoft.com/dotnet/csharp/language-reference/keywords/".toList
  | .builtinTypes =>
    "https://learn.microsoft.com/dotnet/csharp/language-reference/builtin-types/".toList
  | .operators => "https://learn.microsoft.com/dotnet/csharp/language-reference/operators/".toList
  | .statements => "https://learn.microsoft.com/dotnet/csharp/language-reference/statements/".toList

/-- Every keyword with the part of the reference and the page that describe it. -/
def pages : List (String × Chapter × String) := [
  ("null", .keywords, "null"),
  ("true", .builtinTypes, "bool"),
  ("false", .builtinTypes, "bool"),
  ("void", .builtinTypes, "void"),
  ("async", .keywords, "async"),
  ("await", .operators, "await"),
  ("static", .keywords, "static"),
  ("abstract", .keywords, "abstract"),
  ("virtual", .keywords, "virtual"),
  ("override", .keywords, "override"),
  ("sealed", .keywords, "sealed"),
  ("new", .operators, "new-operator"),
  ("this", .keywords, "this"),
  ("base", .keywords, "base"),
  ("ref", .keywords, "ref"),
  ("out", .keywords, "out-parameter-modifier"),
  ("in", .keywords, "in-parameter-modifier"),
  ("params", .keywords, "params"),
  ("readonly", .keywords, "readonly"),
  ("const", .keywords, "const"),
  ("default", .operators, "default"),
  ("is", .operators, "is"),
  ("as", .operators, "type-testing-and-cast#as-operator"),
  ("typeof", .operators, "type-testing-and-cast#typeof-operator"),
  ("nameof", .operators, "nameof"),
  ("using", .statements, "using"),
  ("yield", .statements, "yield"),
  ("lock", .statements, "lock"),
  ("volatile", .keywords, "volatile"),
  ("internal", .keywords, "internal"),
  ("public", .keywords, "public"),
  ("private", .keywords, "private"),
  ("protected", .keywords, "protected"),
  ("interface", .keywords, "interface"),
  ("class", .keywords, "class"),
  ("struct", .builtinTypes, "struct"),
  ("enum", .builtinTypes, "enum"),
  ("delegate", .builtinTypes, "reference-types#the-delegate-type"),
  ("event", .keywords, "event")]

/-- The form of a word under which keywords are looked up: trimmed, in lower case. -/
def canonical (word : Text) : Text :=
  lower (strip word)

/-- The reference page of a keyword, whatever its case. -/
def url? (word : Text) : Option Text :=
  (pages.find? fun (keyword, _) => keyword.toList == canonical word).map
    fun (_, chapter, page) => chapter.url ++ page.toList

end LinkedDocs.Keyword
