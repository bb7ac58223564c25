/-!
# Backends

The hosts a session can run on: the machine itself, or a store in memory.

## Main definitions

* `Backend` — the hosts
* `Backend.pick?` — the usable host of a name, or the first usable one
-/

namespace Semihosting

/-- The hosts a session can run on. -/
inductive Backend where
  /-- The files of the machine that the debugger runs on. -/
  | native
  /-- A file store in memory. -/
  | memory
deriving DecidableEq, Repr

namespace Backend

/-- The hosts in order of preference. -/
def all : List Backend := [native, memory]

/-- The name of a host. -/
def name : Backend → String
  | native => "native"
  | memory => "memory"

/-- Whether a host can be used where the debugger runs. -/
def usable : Backend → Bool
  | native => true
  | memory => true

/-- The usable host of a name, or the first usable one if no name is given. -/
def pick? (wanted : Option String) : Option Backend :=
  all.find? fun backend => backend.usable && wanted.all (· = backend.name)

end Backend

end Semihosting
