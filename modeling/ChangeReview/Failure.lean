import ChangeReview.Text.Visible

/-!
# Failures

The causes for which an operation gives no answer, each with its wording.
-/

namespace ChangeReview

/-- Why a sequence of bytes is not UTF-8. -/
inductive DecodeFault where
  | startByte
  | continuation
  | endOfData
deriving DecidableEq

/-- The wording of a decoding fault. -/
def DecodeFault.message : DecodeFault → Text
  | .startByte => "invalid start byte"
  | .continuation => "invalid continuation byte"
  | .endOfData => "unexpected end of data"

/-- Why a path could not be used. -/
inductive FileFault where
  | missing
  | notDirectory
  | isDirectory
  | inTheWay
  | linkLoop
deriving DecidableEq

namespace FileFault

/-- The number of a fault. -/
def number : FileFault → Nat
  | .missing => 2
  | .inTheWay => 17
  | .notDirectory => 20
  | .isDirectory => 21
  | .linkLoop => 40

/-- The wording of a fault. -/
def message : FileFault → Text
  | .missing => "No such file or directory"
  | .inTheWay => "File exists"
  | .notDirectory => "Not a directory"
  | .isDirectory => "Is a directory"
  | .linkLoop => "Too many levels of symbolic links"

end FileFault

/-- Why an operation gave no answer. -/
inductive Failure where
  /-- A run of surrogates that no encoding can write. -/
  | unencodable (position : Nat) (run : Text)
  /-- A run of bytes that is no part of UTF-8. -/
  | undecodable (position : Nat) (run : List UInt8) (fault : DecodeFault)
  /-- A language without a grammar. -/
  | unsupportedLanguage (name : Text)
  /-- A NUL in a declaration that is to be parsed. -/
  | nulInSource
  /-- A parameter that is nothing but question marks. -/
  | namelessParameter
  /-- A match of symbols with neither an old nor a new side. -/
  | emptyMatch
  /-- A summary length that does not exist. -/
  | unknownTier (tier : Text)
  /-- A review whose status does not tell whether it has an error. -/
  | inconsistentStatus
  /-- A quoted path that ends within an escape. -/
  | incompleteEscape
  /-- A quoted path with an escape that has no meaning. -/
  | unsupportedEscape (letter : CodePoint)
  /-- A quoted path with an octal escape past one octet. -/
  | octetOutOfRange
  /-- A path, or the program of a command, that could not be used. -/
  | file (fault : FileFault) (path : Text)
  /-- A path whose links lead in a circle. -/
  | linkCircle (path : Text)
  /-- A directory that is in no repository. -/
  | notRepository (path : Text)
  /-- A command that failed while `task` was tried, with the first line of its complaint. -/
  | commandFailed (task line : Text)
  /-- A range of revisions that does not exist. -/
  | invalidRange (range line : Text)
  /-- A base revision that does not exist. -/
  | invalidBase (ref : Text)
  /-- A base revision without a common ancestor. -/
  | noMergeBase (ref : Text)
  /-- A record that is hidden as binary and missing from the diff as text. -/
  | missingTextRecord (header : Text)
  /-- A repository whose root was answered by nothing. -/
  | emptyRoot (path : Text)
  /-- A repository whose hooks directory was answered by nothing. -/
  | emptyHooksPath (path : Text)
  /-- A hook that would be overwritten. -/
  | hookExists (path : Text)
  /-- A value that was to be an object, or a list, and is none. -/
  | notObject
  /-- An object without one of its members. -/
  | missingMember (key : Text)
  /-- A list that was to have an item. -/
  | emptyList
  /-- A text that is no JSON. -/
  | notJson
  /-- A command with a status that is not allowed, where it ran, and what it said. -/
  | badStatus (status : Int) (place : Option Text) (line detail : Text)
  /-- A service that does not answer, and its complaint. -/
  | noAnswer (complaint : Text)
  /-- A hook that does not exist. -/
  | unknownHook (name : Text)
  /-- A hook that could not be installed, and why. -/
  | hook (cause : Failure)
deriving DecidableEq

namespace Failure

/-- The wording of a failure. -/
def message : Failure → Text
  | .unencodable position run =>
    match run with
    | [c] =>
      "'utf-8' codec can't encode character '" ++ c.numbered ++ "' in position "
        ++ Text.ofNat position ++ ": surrogates not allowed"
    | _ =>
      "'utf-8' codec can't encode characters in position " ++ Text.ofNat position ++ "-"
        ++ Text.ofNat (position + run.length - 1) ++ ": surrogates not allowed"
  | .undecodable position run fault =>
    match run with
    | [b] =>
      "'utf-8' codec can't decode byte 0x" ++ Text.hex 2 b.toNat ++ " in position "
        ++ Text.ofNat position ++ ": " ++ fault.message
    | _ =>
      "'utf-8' codec can't decode bytes in position " ++ Text.ofNat position ++ "-"
        ++ Text.ofNat (position + run.length - 1) ++ ": " ++ fault.message
  | .unsupportedLanguage name => "Unsupported language: " ++ name
  | .nulInSource => "source code string cannot contain null bytes"
  | .namelessParameter => "list index out of range"
  | .emptyMatch => ""
  | .unknownTier tier => "Unknown summary tier: " ++ tier.terminalSafe
  | .inconsistentStatus => "status must be 'error' if and only if error is present"
  | .incompleteEscape => "Incomplete Git path escape"
  | .unsupportedEscape letter => "Unsupported Git path escape: \\" ++ ([letter] : Text)
  | .octetOutOfRange => "byte must be in range(0, 256)"
  | .file fault path =>
    "[Errno " ++ Text.ofNat fault.number ++ "] " ++ fault.message ++ ": " ++ path.quoted
  | .linkCircle path => "Symlink loop from " ++ path.quoted
  | .notRepository path => "Not a git repository: " ++ path
  | .commandFailed task line => task ++ ": " ++ line
  | .invalidRange range line => "Invalid ref range '" ++ range ++ "': " ++ line
  | .invalidBase ref => "Invalid base ref '" ++ ref ++ "'"
  | .noMergeBase ref => "No merge base between '" ++ ref ++ "' and HEAD"
  | .missingTextRecord header => "Git textual diff omitted supported source record: " ++ header
  | .emptyRoot path => "Git returned an empty repository root for: " ++ path
  | .emptyHooksPath path => "Git returned an empty hooks path for: " ++ path
  | .hookExists path => "Hook already exists: " ++ path ++ "\nUse --force to overwrite."
  | .notObject => "string indices must be integers, not 'str'"
  | .missingMember key => key.quoted
  | .emptyList => "list index out of range"
  | .notJson => "no JSON"
  | .badStatus status place line detail =>
    let location : Text := match place with
      | some place => " in " ++ place
      | none => []
    "Command failed with exit " ++ Text.ofInt status ++ location ++ ": " ++ line ++ "\n" ++ detail
  | .noAnswer complaint => complaint
  | .unknownHook name => name.quoted
  | .hook cause => cause.message

end Failure

/-- Accepts a text that has no surrogates. -/
def Text.checkEncodable (t : Text) : Except Failure Unit :=
  match t.findIdx? CodePoint.isSurrogate with
  | none => .ok ()
  | some position =>
    .error (.unencodable position ((t.drop position).takeWhile CodePoint.isSurrogate))

end ChangeReview
