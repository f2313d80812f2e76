/-!
# Files

What reading a file as text can give.
-/

namespace DetailPanel

/-- Why a file cannot be read. -/
inductive FileFault where
  | missing
  /-- The path goes on below a file. -/
  | notDirectory
  | isDirectory
  | nameTooLong
  | notText
  /-- Any other fault, with the system's number and words for it. -/
  | other (code : Nat) (details : String)
  deriving DecidableEq, Repr

def FileFault.message : FileFault → String
  | .missing => "No such file or directory (os error 2)"
  | .notDirectory => "Not a directory (os error 20)"
  | .isDirectory => "Is a directory (os error 21)"
  | .nameTooLong => "File name too long (os error 36)"
  | .notText => "stream did not contain valid UTF-8"
  | .other code details => details ++ " (os error " ++ toString code ++ ")"

/-- The text of a file, or why there is none. -/
abbrev Reading := Except FileFault String

/-- Append a relative path to a path. -/
def joinPath (base path : String) : String :=
  if base.isEmpty then path
  else if base.endsWith "/" then base ++ path
  else base ++ "/" ++ path

end DetailPanel
