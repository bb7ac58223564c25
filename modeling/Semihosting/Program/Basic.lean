/-!
# Built-in programs

The guest programs that come with the debugger.

## Main definitions

* `Program` — the programs
* `Program.name`, `Program.usage`, `Program.help` — how they are listed
* `Program.find?` — the program of a name
-/

namespace Semihosting

/-- The built-in programs. -/
inductive Program where
  | fileWrite
  | timestamp
  | random
  | copy
  | cat
deriving DecidableEq, Repr

namespace Program

/-- The programs in the order of their listing. -/
def all : List Program := [fileWrite, timestamp, random, copy, cat]

/-- The name of a program. -/
def name : Program → String
  | fileWrite => "file_write"
  | timestamp => "timestamp"
  | random => "random"
  | copy => "copy"
  | cat => "cat"

/-- How a program is called. -/
def usage : Program → String
  | copy => "copy SRC DST"
  | program => program.name

/-- What a program does. -/
def help : Program → String
  | fileWrite => "Write \"Hello World!\\n\" to file_write_foo.txt"
  | timestamp => "Print the host time in nanoseconds"
  | random => "Print a random 64-bit number from the host"
  | copy => "Copy a host file through the stdio host calls"
  | cat => "Print the debugger input file (--read-file)"

/-- The program of a name. -/
def find? (name : String) : Option Program := all.find? fun program => program.name = name

theorem mem_all (p : Program) : p ∈ all := by cases p <;> decide

@[simp] theorem find?_name (p : Program) : find? p.name = some p := by cases p <;> decide

end Program

end Semihosting
