import FuseVolumes.Text.Blank

/-! File system paths as text. -/

namespace FuseVolumes.Path

def isAbsolute (path : String) : Bool :=
  match path.toList with
  | '/' :: _ => true
  | _ => false

def endsInSlash (path : String) : Bool :=
  path.toList.getLast? == some '/'

/-- `part` below `base`: an absolute part stands alone, and a slash is added unless the
base is empty or ends in one. -/
def join (base part : String) : String :=
  if isAbsolute part then part
  else if base.isEmpty || endsInSlash base then base ++ part
  else base ++ "/" ++ part

/-- Every part below the one before it. -/
def joinAll (base : String) (parts : List String) : String :=
  parts.foldl join base

/-! ## Parents -/

/-- The pieces between slashes, of which a first empty one stands for the root. -/
def pieces (path : String) : List (List Char) := Text.pieces (· == '/') path.toList

/-- Drops pieces that name nothing from the end, but not the first piece. -/
def trimPieces (pieces : List (List Char)) : List (List Char) :=
  match pieces with
  | [] => []
  | first :: rest =>
    first :: (rest.reverse.dropWhile fun piece => piece.isEmpty || piece == ['.']).reverse

def ofPieces : List (List Char) → String
  | [[]] => "/"
  | pieces => .ofList (Text.joinWith ['/'] pieces)

/-- The path without its last name; neither the root nor the empty path has a parent. -/
def parent? (path : String) : Option String :=
  match trimPieces (pieces path) with
  | [] | [[]] => none
  | named =>
    match named.dropLast with
    | [] => some ""
    | above => some (ofPieces (trimPieces above))

end FuseVolumes.Path
