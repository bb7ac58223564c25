import Semihosting.Call
import Semihosting.File.IoError
import Semihosting.Text.Quoted

/-!
# Log events

What the debugger reports about a run. Each event has a level, a source and a wording; which
events are shown is for the log filter to decide.

## Main definitions

* `Level` — how grave an event is
* `Event` — what happened
* `Event.level`, `Event.source`, `Event.message` — how it is reported
-/

namespace Semihosting

/-- How grave an event is, gravest first. -/
inductive Level where
  | error
  | warn
  | info
  | debug
  | trace
deriving DecidableEq, Repr

namespace Level

/-- The rank of a level; graver events have lower ranks. -/
def rank : Level → Nat
  | error => 1
  | warn => 2
  | info => 3
  | debug => 4
  | trace => 5

/-- The name of a level. -/
def name : Level → String
  | error => "ERROR"
  | warn => "WARN"
  | info => "INFO"
  | debug => "DEBUG"
  | trace => "TRACE"

end Level

/-- Something the debugger reports. -/
inductive Event where
  | callServed (call : Call)
  /-- No handler knows the number of a call. -/
  | callUnknown (request : Request)
  /-- The guest received the result of a call. -/
  | callReturned (number result : Word)
  /-- A file was to be opened with a mode string that means nothing. -/
  | modeRejected (mode path : String)
  /-- A file could not be opened. -/
  | openFailed (path : String) (reason : IoError)
  /-- Reading from a stream failed. -/
  | readFailed (reason : IoError)
  /-- Writing to a stream failed. -/
  | writeFailed (reason : IoError)
  /-- The guest asked for input and there is none. -/
  | inputMissing
  /-- The guest received `count` bytes of input and `left` remain. -/
  | inputDelivered (count left : Nat)
  /-- A whole file was saved. -/
  | fileSaved (count : Nat) (path : String)
  /-- A whole file could not be saved. -/
  | saveFailed (path : String) (reason : IoError)
  | loggingStarted
  /-- A program is about to run. -/
  | programStarted (program host : String)
  /-- A file is stored at the end of a run. -/
  | fileKept (name : String) (size : Nat)
deriving DecidableEq

namespace Event

/-- How grave an event is. -/
def level : Event → Level
  | callServed _ => .debug
  | callUnknown _ => .trace
  | callReturned .. => .trace
  | modeRejected .. => .warn
  | openFailed .. => .warn
  | readFailed _ => .trace
  | writeFailed _ => .trace
  | inputMissing => .warn
  | inputDelivered .. => .debug
  | fileSaved .. => .debug
  | saveFailed .. => .warn
  | loggingStarted => .info
  | programStarted .. => .info
  | fileKept .. => .info

/-- The part of the debugger that reports an event. -/
def source : Event → String
  | callServed _ => "hostcall::syscalls"
  | callUnknown _ => "hostcall::syscalls"
  | callReturned .. => "hostcall::guest"
  | modeRejected .. => "hostcall::syscalls::file_operation"
  | openFailed .. => "hostcall::syscalls::file_operation"
  | readFailed _ => "hostcall::syscalls::file_operation"
  | writeFailed _ => "hostcall::syscalls::file_operation"
  | inputMissing => "hostcall::syscalls::file_stream"
  | inputDelivered .. => "hostcall::syscalls::file_stream"
  | fileSaved .. => "hostcall::syscalls::file_write"
  | saveFailed .. => "hostcall::syscalls::file_write"
  | loggingStarted => "hostcall::cli"
  | programStarted .. => "hostcall::cli::run"
  | fileKept .. => "hostcall::cli::run"

/-- The wording of an event. -/
def message : Event → String
  | callServed call => call.text
  | callUnknown request => "no handler for " ++ (request.answered 0).text
  | callReturned number result =>
    "syscall " ++ Numeral.decimal number.toNat ++ " returned " ++ Numeral.signed result.signed
  | modeRejected mode path => "invalid mode " ++ Text.quote mode ++ " for " ++ Text.quote path
  | openFailed path reason => "failed to open " ++ Text.quote path ++ ": " ++ reason.message
  | readFailed reason => "read failed: " ++ reason.message
  | writeFailed reason => "write failed: " ++ reason.message
  | inputMissing => "read_stream called without an input file"
  | inputDelivered count left =>
    "streamed " ++ Numeral.decimal count ++ " bytes, " ++ Numeral.decimal left ++ " left"
  | fileSaved count path =>
    "wrote " ++ Numeral.decimal count ++ " bytes to " ++ Text.quote path
  | saveFailed path reason => "failed to write " ++ Text.quote path ++ ": " ++ reason.message
  | loggingStarted => "logging initialized!"
  | programStarted program host => "running " ++ program ++ " on the " ++ host ++ " host"
  | fileKept name size =>
    "memory host file " ++ Text.quote name ++ ": " ++ Numeral.decimal size ++ " bytes"

end Event

end Semihosting
