/-! # Why a file could not be read

The causes with the messages of the operating system, and two causes of our own: a path that no
file can have, and a file whose bytes are no text. -/

namespace GeoScript

/-- Why the text of a file could not be had. -/
inductive ReadError where
  | missing
  | notADirectory
  | isADirectory
  | nameTooLong
  /-- The path holds the character that ends paths. -/
  | nulInPath
  /-- The bytes are not UTF-8. -/
  | notText
  /-- Any other cause, with its message. -/
  | other (message : String)
deriving DecidableEq

/-- What is reported to the reader of the message. -/
def ReadError.message : ReadError → String
  | .missing => "No such file or directory (os error 2)"
  | .notADirectory => "Not a directory (os error 20)"
  | .isADirectory => "Is a directory (os error 21)"
  | .nameTooLong => "File name too long (os error 36)"
  | .nulInPath => "file name contained an unexpected NUL byte"
  | .notText => "stream did not contain valid UTF-8"
  | .other message => message

end GeoScript
