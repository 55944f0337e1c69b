import CuratedHistory.Text.Basic

namespace CuratedHistory.Path

/-! Paths as texts. Separators and single dots at the end of a path do not count,
except for the root and for a path that is a single dot. -/

/-- The path, last character first, without separators and single dots at its end. -/
def trimReversed : Text → Text
  | ['/'] => ['/']
  | '/' :: rest => trimReversed rest
  | '.' :: '/' :: rest => trimReversed ('/' :: rest)
  | reversed => reversed

/-- The last piece of a path, and what precedes it with its separator; both have
their last character first. -/
def splitReversed (path : Text) : Text × Text :=
  Text.splitAtFirst (· == '/') (trimReversed path.reverse)

/-- The path of the directory that holds the last piece. It is empty for a single
piece, and the root and the empty path have none. -/
def parent? (path : Text) : Option Text :=
  match splitReversed path with
  | ([], _) => none
  | (_ :: _, []) => some []
  | (_ :: _, rest) => some (trimReversed rest).reverse

/-- The last piece of a path, if it is a name. -/
def fileName? (path : Text) : Option Text :=
  match (splitReversed path).1.reverse with
  | [] => none
  | ['.'] => none
  | ['.', '.'] => none
  | name => some name

/-- A name in two at its last dot. A name whose only dot comes first, or that has
none, is all stem. -/
def splitName (name : Text) : Text × Option Text :=
  match Text.splitAtFirst (· == '.') name.reverse with
  | (_, []) => (name, none)
  | (_, [_]) => (name, none)
  | (extension, _ :: stem) => (stem.reverse, some extension.reverse)

def extension? (path : Text) : Option Text :=
  (fileName? path).bind fun name => (splitName name).2

/-- The path up to the end of the stem of its file name. -/
def upToStem? (path : Text) : Option Text :=
  (fileName? path).map fun name =>
    let (_, rest) := splitReversed path
    rest.reverse ++ (splitName name).1

/-- The path with its extension taken off, character for character from its end,
and another one put in. A path that then has no file name stays as it is. -/
def withExtension (extension path : Text) : Text :=
  let kept :=
    match extension? path with
    | some old => path.take (path.length - old.length)
    | none => path
  match upToStem? kept with
  | some stem => stem ++ '.' :: extension
  | none => kept

/-- A name inside a directory; inside the empty path it is just the name. -/
def join (directory name : Text) : Text :=
  if directory = [] ∨ directory.getLast? = some '/' then directory ++ name
  else directory ++ '/' :: name

end CuratedHistory.Path
