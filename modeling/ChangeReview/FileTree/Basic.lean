import ChangeReview.OrderedMap
import ChangeReview.Path.Basic
import ChangeReview.Text.Encoding

/-!
# File trees

Directories, regular files and symbolic links below one directory. Nothing outside of it exists.
-/

namespace ChangeReview

/-- A file, a link, or a directory with its entries. -/
inductive FileTree where
  | file (data : Bytes) (isExecutable : Bool)
  | link (target : Text)
  | directory (entries : List (Text × FileTree))

namespace FileTree

/-- The empty directory. -/
def empty : FileTree := .directory []

/-- The entry of a name in a directory. -/
def entry? (t : FileTree) (name : Text) : Option FileTree :=
  match t with
  | .directory entries => entries.lookup name
  | _ => none

/-- What stands at a path, links not followed. -/
def at? (t : FileTree) : (path : List Text) → Option FileTree
  | [] => some t
  | name :: rest => (t.entry? name).bind (·.at? rest)

/-- The tree with something else at a path; missing directories are made. -/
def put (t : FileTree) : (path : List Text) → FileTree → FileTree
  | [], new => new
  | name :: rest, new =>
    let entries := match t with
      | .directory entries => entries
      | _ => []
    .directory (OrderedMap.put entries name (put ((t.entry? name).getD .empty) rest new))

/-- Whether it is a directory. -/
def isDirectory : FileTree → Bool
  | .directory _ => true
  | _ => false

/-- Whether it is a regular file. -/
def isFile : FileTree → Bool
  | .file .. => true
  | _ => false

/-- Where a path leads. -/
inductive Landing where
  /-- What stands at the path once its links are followed. -/
  | found (path : List Text) (entry : FileTree)
  /-- Nothing, and how far the path could be followed. -/
  | absent (path : List Text) (fault : FileFault)

/-- A path with one more part. Two points lead up. -/
def step (path : List Text) (part : Text) : List Text :=
  if part == ".." then path.dropLast else path ++ [part]

/-- Where the parts lead from the directory at `here`, at most `links` links being followed. The last part
may be a link itself unless `last` asks to follow it. -/
def follow (t : FileTree) (last : Bool) (links : Nat) (here : List Text) (parts : List Text) : Landing :=
  match parts with
  | [] =>
    match t.at? here with
    | some entry => .found here entry
    | none => .absent here .missing
  | part :: rest =>
    if part == ".." then
      if here.isEmpty then .absent (rest.foldl step []) .missing else follow t last links here.dropLast rest
    else
      let there := here ++ [part]
      match t.at? there with
      | none => .absent (rest.foldl step there) .missing
      | some (.directory _) => follow t last links there rest
      | some (.file data isExecutable) =>
        if rest.isEmpty then .found there (.file data isExecutable)
        else .absent (rest.foldl step there) .notDirectory
      | some (.link target) =>
        if rest.isEmpty && !last then .found there (.link target)
        else if Path.isAbsolute target then .absent (rest.foldl step there) .missing
        else match links with
          | 0 => .absent (there ++ rest) .linkLoop
          | links + 1 => follow t last links here (Path.parts target ++ rest)
termination_by (links, parts.length)

/-- How many links a path may lead through. -/
def linkLimit : Nat := 40

/-- Where a path leads, every link followed. -/
def find (t : FileTree) (path : List Text) : Landing := t.follow true linkLimit [] path

/-- Where a path leads, the last part taken as it is. -/
def findPlain (t : FileTree) (path : List Text) : Landing := t.follow false linkLimit [] path

/-- The path that the parts lead to from `here`, with every link on it followed; what does not exist is kept.
Refused, with the place, if more than `links` links would have to be followed. -/
def canonical (t : FileTree) (links : Nat) (here : List Text) (parts : List Text) :
    Except (List Text) (List Text) :=
  match parts with
  | [] => .ok here
  | part :: rest =>
    if part == ".." then canonical t links here.dropLast rest
    else
      let there := here ++ [part]
      match t.at? there with
      | some (.link target) =>
        if Path.isAbsolute target then canonical t links there rest
        else match links with
          | 0 => .error (there ++ rest)
          | links + 1 => canonical t links here (Path.parts target ++ rest)
      | _ => canonical t links there rest
termination_by (links, parts.length)

end FileTree

end ChangeReview
