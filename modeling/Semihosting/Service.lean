import Semihosting.Word

/-!
# Services

The services a guest can ask for, each with its number and its name.

## Main definitions

* `Service` — the known services
* `Service.number`, `Service.name`, `Service.arity` — number and name of a service, and how many
  arguments it takes
* `Service.ofNumber?` — the service of a number

## Main results

* `Service.ofNumber?_eq_some_iff` — numbers tell services apart, and no other number is known
-/

namespace Semihosting

/-- The services a guest can ask for. -/
inductive Service where
  | close
  | read
  | write
  | readStream
  | timestamp
  | random
  | fopen
  | freopen
  | fread
  | feof
  | ferror
  | fgetc
  | fclose
  | ftell
  | fseek
  | fwrite
  | fileWrite
deriving DecidableEq, Repr

namespace Service

/-- The number by which a guest asks for a service. -/
def number : Service → Word
  | close => 57
  | read => 63
  | write => 64
  | readStream => 9000
  | timestamp => 9001
  | random => 9002
  | fopen => 9003
  | freopen => 9004
  | fread => 9005
  | feof => 9006
  | ferror => 9007
  | fgetc => 9008
  | fclose => 9009
  | ftell => 9010
  | fseek => 9011
  | fwrite => 9012
  | fileWrite => 9013

/-- The name of a service. -/
def name : Service → String
  | close => "close"
  | read => "read"
  | write => "write"
  | readStream => "read_stream"
  | timestamp => "timestamp"
  | random => "random"
  | fopen => "fopen"
  | freopen => "freopen"
  | fread => "fread"
  | feof => "feof"
  | ferror => "ferror"
  | fgetc => "fgetc"
  | fclose => "fclose"
  | ftell => "ftell"
  | fseek => "fseek"
  | fwrite => "fwrite"
  | fileWrite => "file_write"

/-- How many arguments a service takes. -/
def arity : Service → Nat
  | timestamp | random => 0
  | close | feof | ferror | fgetc | fclose | ftell => 1
  | readStream | fopen => 2
  | read | write | freopen | fseek | fileWrite => 3
  | fread | fwrite => 4

/-- The services in the order of their numbers. -/
def all : List Service :=
  [close, read, write, readStream, timestamp, random, fopen, freopen, fread, feof, ferror, fgetc,
    fclose, ftell, fseek, fwrite, fileWrite]

theorem mem_all (s : Service) : s ∈ all := by cases s <;> decide

/-- The service asked for by a number, if the number is known. -/
def ofNumber? (n : Word) : Option Service := all.find? fun s => s.number = n

@[simp] theorem ofNumber?_number (s : Service) : ofNumber? s.number = some s := by
  cases s <;> decide

/-- No two services share a number. -/
theorem number_injective {s t : Service} (h : s.number = t.number) : s = t :=
  Option.some.inj (by rw [← ofNumber?_number s, h, ofNumber?_number])

/-- A number stands for a service exactly when it is that service's number. -/
theorem ofNumber?_eq_some_iff {n : Word} {s : Service} : ofNumber? n = some s ↔ s.number = n := by
  constructor
  · intro h
    simpa using List.find?_some h
  · rintro rfl
    exact ofNumber?_number s

end Service

end Semihosting
