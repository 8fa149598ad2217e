import LinkedDocs.Config
import LinkedDocs.Graph.Basic
import LinkedDocs.Record

/-!
# The link index

Where the documentation of every symbol is. An index is built from a flat list of registrations,
keys with the targets they stand for: the first registration of a key counts, keys are compared
under case folding, and the empty key is never registered.
-/

namespace LinkedDocs

/-- Where an entity's documentation is. -/
structure LinkTarget where
  entityId : Value
  path : Text
  displayName : Value
  symbolKind : SymbolKind
  anchor : Option Text := none

/-- The path with the anchor, if there is one. -/
def LinkTarget.href (target : LinkTarget) : Text :=
  match target.anchor with
  | some (c :: cs) => target.path ++ '#' :: c :: cs
  | _ => target.path

/-- Targets by folded key. -/
structure LinkIndex where
  entries : List (Text × LinkTarget) := []

namespace LinkIndex

open Text

def size (index : LinkIndex) : Nat :=
  index.entries.length

/-- The target of a key, whatever its case. -/
def lookup? (index : LinkIndex) (key : Text) : Option LinkTarget :=
  index.entries.lookup (fold key)

/-- Adds a target under a key, unless the key is empty or taken. -/
def register (index : LinkIndex) (key : Text) (target : LinkTarget) : LinkIndex :=
  if key.isEmpty || (index.lookup? key).isSome then index
  else ⟨index.entries ++ [(fold key, target)]⟩

/-- The index of a list of registrations, of which the first of each key counts. -/
def ofRegistrations (registrations : List (Text × LinkTarget)) : LinkIndex :=
  registrations.foldl (fun index (key, target) => index.register key target) {}

/-- The index of given keys, of which the last of each folding counts. -/
def ofEntries (entries : List (Text × LinkTarget)) : LinkIndex :=
  entries.foldl (fun index (key, target) =>
    ⟨index.entries.filter (·.1 != fold key) ++ [(fold key, target)]⟩) {}

/-! ## Pages -/

/-- The name that the namespace without a name is shown under. -/
def spaceTitle (name : Text) : Text :=
  if name.isEmpty then "Global".toList else name

/-- The folder of a namespace: one level for each segment of its name. -/
def folder (name : Text) : Text :=
  replaceChar '.' ['/'] (spaceTitle name)

/-- The page of a namespace, below the root. -/
def namespacePage (config : Config) (name : Text) : Text :=
  match config.layout with
  | .folder => folder name ++ "/index".toList
  | .file => replaceChar '.' [config.separator] (spaceTitle name)

/-- The page of a type, below the root. -/
def typePage (config : Config) (space type : Text) : Text :=
  match config.layout with
  | .folder => folder space ++ '/' :: type
  | .file => type

/-- The path of a page from the site's root. -/
def pagePath (config : Config) (page : Text) : Text :=
  let slashed := replaceChar '\\' ['/']
  let root := trimChar '/' (slashed config.root)
  match (slashed page).dropWhile (· == '/') with
  | [] => '/' :: root
  | page => '/' :: root ++ '/' :: page

/-! ## Registrations -/

/-- The name of a namespace as text; nothing given is the empty name. -/
def spaceName (name : Value) : Except Fault Text :=
  if name.holds then name.expectText "replace".toList else .ok []

/-- The name of a type as text. -/
def typeName (config : Config) (name : Value) : Except Fault Text :=
  match config.layout, name with
  | _, .scalar (.text t) => .ok t
  | .file, other => .error (.lacks other "replace".toList)
  | .folder, other => .error (.notText other)

/-- The full name of a type as a key, which must be text. -/
def keyOfFullName (fullName : Value) : Except Fault Text :=
  fullName.expectText (if fullName.holds then "casefold".toList else "strip".toList)

/-- The letter for members of a kind; that of methods if the kind is none. -/
def memberLetter : Loose MemberKind → Except Fault Char
  | .proper kind => .ok kind.letter
  | .stray v => v.identifier.map fun _ => MemberKind.method.letter

/-- Whether the field says so. -/
def isKind {α : Type} [DecidableEq α] (kind : α) : Loose α → Bool
  | .proper a => a = kind
  | .stray _ => false

/-- The registration of an assembly. -/
def assemblyRegistrations (config : Config) (assembly : Entity) : List (Text × LinkTarget) :=
  [("A:".toList ++ assembly.name.toText, {
    entityId := assembly.id
    path := pagePath config []
    displayName := assembly.name
    symbolKind := .assembly })]

/-- The registration of a namespace with a name. -/
def namespaceRegistrations (config : Config) (space : Entity) (name : Text) :
    List (Text × LinkTarget) :=
  [("N:".toList ++ space.name.toText, {
    entityId := space.id
    path := pagePath config (namespacePage config name)
    displayName := .text (spaceTitle name)
    symbolKind := .namespace })]

/-- A type that is registered: its names, and the path of its page. -/
structure TypeSite where
  type : Entity
  name : Text
  fullName : Text
  path : Text

/-- The site of a type in the namespace with a name. -/
def siteOf (config : Config) (space : Text) (type : Entity) : Except Fault TypeSite := do
  let name ← typeName config type.name
  let fullName ← keyOfFullName type.fullName
  return { type, name, fullName, path := pagePath config (typePage config space name) }

/-- The registrations of a type: its full name, the normalized form of it, and its simple name. -/
def typeRegistrations (site : TypeSite) : List (Text × LinkTarget) :=
  let target : LinkTarget := {
    entityId := site.type.id
    path := site.path
    displayName := .text (Symbol.displayName site.name)
    symbolKind := .type }
  let normalized := Symbol.normalize site.fullName
  let aliases := if normalized = site.fullName then []
    else [ "T:".toList ++ normalized, normalized]
  ([ "T:".toList ++ site.fullName, site.fullName] ++ aliases ++ [site.name]).map (·, target)

/-- The registrations of a member: its qualified name, and the further names of constructors and of
the fields of enumerations. -/
def memberRegistrations (site : TypeSite) (member : Entity) :
    Except Fault (List (Text × LinkTarget)) :=
  match member.detail with
  | .member kind .. => do
    let letter ← memberLetter kind
    let name ← member.name.expectText "lower".toList
    let target : LinkTarget := {
      entityId := member.id
      path := site.path
      displayName := .text (Symbol.displayName site.name ++ '.' :: name)
      symbolKind := .ofLetter letter
      anchor := some (lower name) }
    let qualified := site.fullName ++ '.' :: name
    let ofType := site.name ++ '.' :: name
    let isEnum := match site.type.detail with
      | .type _ kind _ => isKind .enumType kind
      | _ => false
    let keys :=
      [letter :: ':' :: qualified, qualified] ++
      (if isKind .constructor kind then [ "M:".toList ++ site.fullName ++ ".#ctor".toList]
        else []) ++
      (if isKind .field kind && isEnum then [ofType, "F:".toList ++ ofType] else [])
    return keys.map (·, target)
  | _ => .ok []

/-- The registrations of a type that a namespace lists, and of its members. -/
def registerType (g : Graph) (config : Config) (space : Text) (id : Value) :
    Except Fault (List (Text × LinkTarget)) := do
  let site ← siteOf config space (← g.expect .type id)
  let members ← (← site.type.children.items).mapM fun id => do
    memberRegistrations site (← g.expect .member id)
  return typeRegistrations site ++ members.flatten

/-- The registrations of a namespace that an assembly lists, and of its types. -/
def registerNamespace (g : Graph) (config : Config) (id : Value) :
    Except Fault (List (Text × LinkTarget)) := do
  let space ← g.expect .namespace id
  let name ← spaceName space.name
  let types ← (← space.children.items).mapM (registerType g config name)
  return namespaceRegistrations config space name ++ types.flatten

/-- The registrations of an assembly and of its namespaces. -/
def registerAssembly (g : Graph) (config : Config) (assembly : Entity) :
    Except Fault (List (Text × LinkTarget)) := do
  let spaces ← (← assembly.children.items).mapM (registerNamespace g config)
  return assemblyRegistrations config assembly ++ spaces.flatten

/-- Every registration, depth first in list order. -/
def registrations (g : Graph) (config : Config) : Except Fault (List (Text × LinkTarget)) := do
  return (← g.assemblies.mapM (registerAssembly g config)).flatten

/-- The index of a graph. -/
def build (g : Graph) (config : Config) : Except Fault LinkIndex := do
  return ofRegistrations (← registrations g config)

end LinkIndex

end LinkedDocs
