import LinkedDocs.File

/-!
# Storage

The files below a working directory. A path leads through directories, all of which must be there,
also where the path goes up again.
-/

namespace LinkedDocs

/-- A place in the storage: so many levels above the working directory, and from there down some
names. -/
structure Location where
  above : Nat := 0
  names : List Text := []
deriving DecidableEq

namespace Location

/-- The place one level up. -/
def parent (l : Location) : Location :=
  if l.names.isEmpty then { l with above := l.above + 1 }
  else { l with names := l.names.dropLast }

/-- The place of a name within a directory. -/
def child (l : Location) (name : Text) : Location :=
  { l with names := l.names ++ [name] }

end Location

/-- The files and directories that were put somewhere. Every directory on the way to one of them is
there too. -/
structure Storage where
  places : List (Location × File) := []

namespace Storage

/-- What is at a place. -/
def look (s : Storage) (l : Location) : File :=
  match s.places.find? (·.1 = l) with
  | some (_, file) => file
  | none =>
    let isOnTheWay := fun p : Location => p.above = l.above && l.names.isPrefixOf p.names
    if l.names.isEmpty || s.places.any (isOnTheWay ·.1) then .directory else .missing .absent

/-- Puts a file at a place. -/
def put (s : Storage) (l : Location) (file : File) : Storage :=
  ⟨s.places.filter (·.1 ≠ l) ++ [(l, file)]⟩

/-- The storage with the given files below the working directory. -/
def ofFiles (files : List (Text × File)) : Storage :=
  files.foldl (fun s (path, file) =>
    s.put ⟨0, (Text.splitOn '/' path).filter (!File.staysInPlace ·)⟩ file) {}

/-- The most bytes that a name can have. -/
def maxNameSize : Nat := 255

/-- The place to which the parts of a path lead. -/
def follow (s : Storage) (l : Location) : List Text → Except PathFlaw Location
  | [] => .ok l
  | part :: more =>
    match s.look l with
    | .missing flaw => .error flaw
    | .content _ => .error .notADirectory
    | .directory =>
      if File.staysInPlace part then follow s l more
      else if part = "..".toList then follow s l.parent more
      else if maxNameSize < (String.ofList part).utf8ByteSize then .error .tooLong
      else follow s (l.child part) more

/-- The place that a path names. Of absolute paths only the root is known. -/
def locate (s : Storage) (path : Text) : Except PathFlaw Location :=
  if path.isEmpty then .error .absent
  else if Text.startsWith ['/'] path && !path.all (· = '/') then .error .absent
  else s.follow {} (Text.splitOn '/' path)

/-- What is found at a path. -/
def find (s : Storage) (path : Text) : File :=
  match s.locate path with
  | .ok l => s.look l
  | .error flaw => .missing flaw

/-- Writes a file. Its directory must be there, and the path must not name a directory. -/
def write (s : Storage) (path : Text) (bytes : List UInt8) : Except PathFlaw Storage := do
  let l ← s.locate path
  match s.look l with
  | .directory => .error .directory
  | _ => return s.put l (.content bytes)

end Storage

end LinkedDocs
