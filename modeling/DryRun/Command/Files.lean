import DryRun.Text.Utf8

/-!
# Files

The command reads and writes files. A path is a list of names, from the root or from the working
directory; a file is known by its names from the root. A directory is there if it is listed, if a file
lies below it, or if the working directory does.
-/

namespace DryRun.Command

/-- A path as it was given. -/
structure Path where
  /-- The slashes at its start: none for a path from the working directory. -/
  root : Text
  /-- The names between slashes; a dot is left out, two dots are kept. -/
  names : List Text
deriving DecidableEq, Repr

namespace Path

def parentName : Text := "..".toList

/-- The path that a text writes. -/
def ofText (t : Text) : Path :=
  let slashes := (t.takeWhile (· == '/')).length
  { root := if slashes == 2 then "//".toList else if slashes == 0 then [] else "/".toList
    names := (Text.splitBy (· == '/') t).filter fun name => !name.isEmpty && name != ['.'] }

/-- The text of a path; the working directory itself is a dot. -/
def render (p : Path) : Text :=
  if p.root.isEmpty && p.names.isEmpty then ['.'] else p.root ++ Text.join ['/'] p.names

/-- Follows names by their text alone, where the root lies above itself; `above` holds the names so far,
the last one first. -/
def resolveFrom : List Text → List Text → List Text
  | above, [] => above.reverse
  | above, name :: names =>
    if name == parentName then resolveFrom (above.drop 1) names
    else resolveFrom (name :: above) names

/-- Where a path starts from if the working directory is `base`. -/
def start (p : Path) (base : List Text) : List Text := if p.root.isEmpty then base else []

/-- The names from the root if the working directory is `base`. -/
def resolve (p : Path) (base : List Text) : List Text := resolveFrom (p.start base).reverse p.names

/-- The places that a path leads through, itself included. -/
def stages (p : Path) (base : List Text) : List (List Text) :=
  (List.range (p.names.length + 1)).map fun n => { p with names := p.names.take n }.resolve base

end Path

/-- Why a file cannot be written. -/
inductive WriteError where
  /-- A directory on the way is not there. -/
  | notFound
  /-- The path is that of a directory. -/
  | isDirectory
  /-- A file stands where a directory is needed. -/
  | notDirectory
deriving DecidableEq, Repr

/-- A file: its names from the root and its octets. -/
structure File where
  path : List Text
  octets : List UInt8
deriving DecidableEq, Repr

/-- Files and directories. -/
structure Files where
  /-- The names of the working directory from the root. -/
  base : List Text := []
  directories : List (List Text) := []
  entries : List File := []
deriving DecidableEq, Repr

namespace Files

/-- The octets of a file. -/
def read? (fs : Files) (path : List Text) : Option (List UInt8) :=
  (fs.entries.find? (·.path == path)).map (·.octets)

def isFile (fs : Files) (path : List Text) : Bool := (fs.read? path).isSome

def isDirectory (fs : Files) (path : List Text) : Bool :=
  path.isPrefixOf fs.base || fs.directories.contains path ||
    fs.entries.any fun f => path.length < f.path.length && path.isPrefixOf f.path

/-- The file at a path is replaced, or added at the end. -/
def put (fs : Files) (path : List Text) (octets : List UInt8) : Files :=
  if fs.isFile path then
    { fs with entries := fs.entries.map fun f => if f.path == path then { f with octets } else f }
  else { fs with entries := fs.entries ++ [⟨path, octets⟩] }

/-- Follows names through directories to the place of a file that is to be written; `above` is the
directory so far, reversed. -/
def placeFrom (fs : Files) : List Text → List Text → Except WriteError (List Text)
  | _, [] => .error .isDirectory
  | above, name :: names =>
    if name == Path.parentName then fs.placeFrom (above.drop 1) names
    else
      let here := (name :: above).reverse
      if fs.isDirectory here then fs.placeFrom (name :: above) names
      else if names.isEmpty then .ok here
      else if fs.isFile here then .error .notDirectory
      else .error .notFound

/-- The place of a file that is to be written. -/
def place (fs : Files) (p : Path) : Except WriteError (List Text) :=
  fs.placeFrom (p.start fs.base).reverse p.names

/-- The files after one of them is written. -/
def write (fs : Files) (p : Path) (octets : List UInt8) : Except WriteError Files :=
  (fs.place p).map fun path => fs.put path octets

end Files

end DryRun.Command
