import ChangeReview.Language

/-!
# Paths

Paths inside a repository, divided by slashes: their parts, a key for comparing them, and what a path
alone tells about a file.
-/

namespace ChangeReview.Path

/-- The last part of a path. -/
def fileName (path : Text) : Text := Text.afterLast "/" path

/-- The parts of a path after cancelling empty parts, single points, and each part before two points.
An absolute path has nothing above its root. -/
def normalParts (isAbsolute : Bool) (parts : List Text) : List Text :=
  (parts.foldl step []).reverse
where
  /-- The parts so far, last first, with one more. -/
  step (kept : List Text) (part : Text) : List Text :=
    if part.isEmpty || part == "." then kept
    else if part != ".." then part :: kept
    else match kept with
      | [] => if isAbsolute then [] else [part]
      | last :: rest => if last == ".." then part :: kept else rest

/-- The key under which a path is compared; an empty path has an empty key. Exactly two leading slashes
are kept. -/
def key (path : Text) : Text :=
  if path.isEmpty then []
  else
    let slashes := (path.takeWhile fun (c : CodePoint) => c == '/').length
    let lead : Text := if slashes == 0 then [] else if slashes == 2 then "//" else "/"
    let body := Text.join "/" (normalParts (slashes != 0) (Text.splitOn '/' path))
    let whole := lead ++ body
    if whole.isEmpty then "." else whole

/-- Whether a path starts at the root. -/
def isAbsolute (path : Text) : Bool := path.startsWith "/"

/-- The parts of a path that lead anywhere: neither empty nor a single point. -/
def parts (path : Text) : List Text := (Text.splitOn '/' path).filter fun p => !p.isEmpty && p != "."

/-- A path without the parts that lead nowhere. Exactly two leading slashes are kept. -/
def tidy (path : Text) : Text :=
  let slashes := (path.takeWhile fun (c : CodePoint) => c == '/').length
  let lead : Text := if slashes == 0 then [] else if slashes == 2 then "//" else "/"
  let whole := lead ++ Text.join "/" (parts path)
  if whole.isEmpty then "." else whole

/-- A path taken from a directory. -/
def join (directory path : Text) : Text :=
  if isAbsolute path then tidy path else tidy (directory ++ "/" ++ path)

/-- The ending of a file name from its last point on. Points at the start of the name begin none. -/
def extension (path : Text) : Text :=
  match Text.cutLast? "." (fileName path) with
  | some (stem, ending) =>
    if stem.any fun (c : CodePoint) => c != '.' then '.' :: ending else []
  | none => []

/-- The language of a file by its ending. -/
def language? (path : Text) : Option Language :=
  let ending := extension path
  if ending == ".py" then some .python
  else if ending == ".js" || ending == ".jsx" then some .javascript
  else if ending == ".ts" || ending == ".tsx" then some .typescript
  else if ending == ".go" then some .go
  else none

/-- A letter without its case; the long s counts as an s. -/
def foldCase (c : CodePoint) : CodePoint :=
  if 0x41 ≤ c.val && c.val ≤ 0x5A then CodePoint.ofNat (c.val + 0x20)
  else if c.val == 0x17F then 's' else c

/-- The directories whose files are tests. -/
def testDirectories : List Text := Text.list ["test", "tests", "spec", "__tests__"]

/-- The endings of file names that mark tests. -/
def testEndings : List Text :=
  "_test.py" :: (Text.list [".spec.", "_spec.", ".test.", "_test."]).flatMap fun mark =>
    (Text.list ["ts", "js", "tsx", "jsx"]).map fun ending => mark ++ ending

/-- Whether a file name marks a test. -/
def isTestName (name : Text) : Bool :=
  (Text.startsWith name "test_" && Text.endsWith name ".py") || testEndings.any (Text.endsWith name)

/-- Whether a path looks like a test file, in any case of letters. One line feed at the end of the path
does not count. -/
def isTest (path : Text) : Bool :=
  let path := path.map foldCase
  (Text.splitOn '/' path).dropLast.any testDirectories.contains
    || isTestName (fileName path)
    || isTestName (fileName ((Text.before? "\n" path).getD path))

/-- The patterns of generated and vendored files. -/
def generatedPatterns : List Text :=
  Text.list ["package-lock.json", "yarn.lock", "pnpm-lock.yaml", "poetry.lock", "Pipfile.lock", "Cargo.lock",
    "go.sum", "composer.lock", "Gemfile.lock", "flake.lock", ".min.js", ".min.css", ".map", "vendor/",
    "node_modules/", "third_party/", "__generated__/", ".pb.go", "_generated.go"]

/-- Whether a path matches a pattern: a directory by a slash at the end, an ending by a point at the
start, any other a file name. -/
def matchesPattern (path pattern : Text) : Bool :=
  if Text.endsWith pattern "/" then Text.includes ('/' :: path) ('/' :: pattern)
  else if Text.startsWith pattern "." then Text.endsWith path pattern
  else path == pattern || Text.endsWith path ('/' :: pattern)

/-- Whether a path matches one of the patterns. -/
def isGenerated (patterns : List Text) (path : Text) : Bool := patterns.any (matchesPattern path)

end ChangeReview.Path
