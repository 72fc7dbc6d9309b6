import ChangeReview.Patch.Reader

/-!
# Raw records of a patch

A patch divided at the lines that open records, without reading the hunks. Here a line ends at any line
break.
-/

namespace ChangeReview.Patch

/-- Lines in groups, a new one at each line that opens a record. -/
def recordGroups : List Text → List (List Text)
  | [] => []
  | line :: rest =>
    match recordGroups rest with
    | [] => [[line]]
    | group :: groups =>
      if (group.head?.map (Text.startsWith · recordMark)).getD false then [line] :: group :: groups
      else (line :: group) :: groups

/-- The records of a patch; what stands before the first one is a record too. -/
def rawRecords (diff : Text) : List Text := (recordGroups diff.linesWithBreaks).map List.flatten

/-- The records of a patch without what stands before the first one. -/
def openedRecords (diff : Text) : List Text :=
  ((recordGroups diff.linesWithBreaks).filter fun group =>
    (group.head?.map (Text.startsWith · recordMark)).getD false).map List.flatten

/-- Whether a record of the patch could not be read, judged by reading each one alone. -/
def hasUnread (diff : Text) : Bool :=
  let records := openedRecords diff
  total (records.map fun r => (read false [] r).length) != records.length

/-- The first line of a record. -/
def headerLine (record : Text) : Text := Text.upTo "\n" record

/-- The endings of source files that are analysed. -/
def sourceEndings : List Text := Text.list [".go", ".js", ".jsx", ".py", ".ts", ".tsx"]

/-- Whether a record calls a source file binary. -/
def isBinarySource (record : Text) : Bool :=
  Text.includes record "\nBinary files "
    && sourceEndings.any fun ending =>
      Text.endsWith (headerLine record) ending || Text.endsWith (headerLine record) (ending ++ ("\"" : Text))

/-- `t` with each `part` replaced, from the left. -/
def replaceAll (part replacement : Text) (t : Text) : Text := Text.join replacement (Text.splitBy part t)

/-- A patch of the file `-`, which had to be named with a directory, with its own name restored before the
hunks. -/
def restoreDash (patch : Text) : Text :=
  go patch.linesWithBreaks
where
  /-- The lines up to the first hunk restored, the others kept. -/
  go : List Text → Text
    | [] => []
    | line :: rest =>
      if Text.startsWith line "@@" || Text.startsWith line "GIT binary patch" then (line :: rest).flatten
      else if (Text.list ["diff --git ", "+++ ", "Binary files "]).any (Text.startsWith line) then
        replaceAll "b/./-" "b/-" (replaceAll "a/./-" "a/-" line) ++ go rest
      else line ++ go rest

/-- A digit of an object name. -/
def isObjectDigit (c : CodePoint) : Bool := c.isAsciiDigit || (0x61 ≤ c.val && c.val ≤ 0x66)

/-- The two object names of an index line: zeros and a name of hexadecimal digits. -/
def indexNames? (line : Text) : Option (Text × Text) := do
  let rest ← Text.after? "index " line
  let (zeros, rest) := rest.span fun (c : CodePoint) => c == '0'
  let (name, rest) := (← Text.after? ".." rest).span isObjectDigit
  if zeros.isEmpty || name.isEmpty || rest != "\n" then none else some (zeros, name)

/-- Whether a record adds one empty regular file, whose object is named by `emptyObject`. -/
def isEmptyAddition (record : Text) (emptyObject : Option Text) : Bool :=
  match emptyObject, record.linesWithBreaks with
  | some object, [_, mode, index] =>
    (mode == "new file mode 100644\n" || mode == "new file mode 100755\n")
      && match indexNames? index with
        | some (zeros, name) =>
          zeros.length == name.length && 4 ≤ name.length && Text.startsWith object name
        | none => false
  | _, _ => false

/-- Whether a patch adds one file completely. -/
def isCompleteAddition (patch : Text) (emptyObject : Option Text) : Bool :=
  match rawRecords patch with
  | [record] =>
    Text.startsWith record recordMark && Text.includes record "\nnew file mode "
      && if emptyObject.isSome then isEmptyAddition record emptyObject
        else (Text.includes record "\n--- /dev/null\n" && Text.includes record "\n+++ "
            && Text.includes record "\n@@ ")
          || Text.includes record "\nBinary files /dev/null and "
  | _ => false

end ChangeReview.Patch
