import WindowRules.Text.Bytes

/-!
# Files

What reading a file gives: its bytes, or the reason why there are none.  Whoever
calls the library reads the files; here it is only decided what their bytes mean.
-/

namespace WindowRules

/-- Why a file cannot be read. -/
inductive FileFault where
  | missing
  | isDirectory
  /-- Something on the way to the file is no directory. -/
  | notDirectory
  | denied
  | nameTooLong
  /-- The name holds the character that ends names. -/
  | nameCut
  | notText
  /-- Another reason, in words. -/
  | other (reason : String)
  deriving DecidableEq

/-- The reason in words. -/
def FileFault.message : FileFault → String
  | .missing => "No such file or directory (os error 2)"
  | .isDirectory => "Is a directory (os error 21)"
  | .notDirectory => "Not a directory (os error 20)"
  | .denied => "Permission denied (os error 13)"
  | .nameTooLong => "File name too long (os error 36)"
  | .nameCut => "file name contained an unexpected NUL byte"
  | .notText => "stream did not contain valid UTF-8"
  | .other reason => reason

/-- The bytes of a file, if it can be read. -/
abbrev FileContent := Except FileFault (List UInt8)

/-- The text of a file with some name. -/
def FileContent.text (name : String) (content : FileContent) : Except FileFault String :=
  if name.contains '\x00' then .error .nameCut
  else do
    match Text.ofBytes? (← content) with
    | some s => .ok (.ofList s)
    | none => .error .notText

end WindowRules
