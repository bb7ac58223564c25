import Semihosting.Text.Numeral

/-!
# Host errors

Why a host refused a request. These errors never stop the guest: it sees a result code, and the
wording goes to the log.

## Main definitions

* `Errno` — the error numbers of the operating system
* `IoError` — the causes
* `IoError.message` — their wording
-/

namespace Semihosting

/-- An error of the operating system. -/
inductive Errno where
  | noEntry
  | badDescriptor
  | entryExists
  | notDirectory
  | isDirectory
  | invalidArgument
  | fileTooLarge
  | nameTooLong
deriving DecidableEq, Repr

namespace Errno

/-- The number of an error. -/
def code : Errno → Nat
  | noEntry => 2
  | badDescriptor => 9
  | entryExists => 17
  | notDirectory => 20
  | isDirectory => 21
  | invalidArgument => 22
  | fileTooLarge => 27
  | nameTooLong => 36

/-- The wording of an error. -/
def text : Errno → String
  | noEntry => "No such file or directory"
  | badDescriptor => "Bad file descriptor"
  | entryExists => "File exists"
  | notDirectory => "Not a directory"
  | isDirectory => "Is a directory"
  | invalidArgument => "Invalid argument"
  | fileTooLarge => "File too large"
  | nameTooLong => "File name too long"

end Errno

/-- Why a host refused a request. -/
inductive IoError where
  | os (errno : Errno)
  /-- No file of this name is stored. -/
  | notFound (name : String)
  /-- A file of this name is stored already. -/
  | alreadyExists (name : String)
  /-- A file name holds a zero byte. -/
  | zeroInName
  /-- A seek leads to no position of a file. -/
  | seekOutOfRange
  /-- The host denies access to the file. -/
  | denied
  /-- The request was interrupted and may be tried again. -/
  | interrupted
  /-- The request failed for good. -/
  | broken
deriving DecidableEq, Repr

/-- The wording of a host error. -/
def IoError.message : IoError → String
  | os errno => errno.text ++ " (os error " ++ Numeral.decimal errno.code ++ ")"
  | notFound name => name
  | alreadyExists name => name
  | zeroInName => "file name contained an unexpected NUL byte"
  | seekOutOfRange => "seek to a negative offset"
  | denied => "denied"
  | interrupted => "interrupted"
  | broken => "broken"

end Semihosting
