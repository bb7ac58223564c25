import Semihosting.Guest.Basic
import Semihosting.Program.Basic

/-!
# Running the built-in programs

Each program talks to the world through host calls only and ends with an exit code, zero for
success. The two that move data do so in chunks, for as many rounds as there can be data.

## Main definitions

* `Program.run` — a program with its arguments, as a guest's action
* `Program.copyChunks`, `Program.catChunks` — the rounds of the programs that move data
-/

namespace Semihosting.Program

open Guest (Action)

variable {σ ς : Type} [FileHost σ ς]

/-- The size of the buffer through which data is moved. -/
def chunk : Word := 4096

/-! ### Programs of a single call -/

/-- Writes a fixed text to a fixed file. The program succeeds whatever the host says. -/
def runFileWrite : Action σ ς Nat := do
  let data ← Guest.allocateBytes "Hello World!\n".toUTF8
  let path ← Guest.allocateString "file_write_foo.txt"
  discard (Guest.call .fileWrite [path, data, 13])
  return 0

/-- Prints the word that a service without arguments answers. -/
def runPrint (service : Service) : Action σ ς Nat := do
  let word ← Guest.call service []
  discard (Guest.print (Numeral.decimal word.toNat ++ "\n"))
  return 0

/-! ### Copying -/

/-- Moves chunks from one stream to another until the first is at its end or either fails; the
result is the exit code. -/
def copyChunks (source target : String) (buffer input output : Word) : Nat → Action σ ς Nat
  | 0 => return 0
  | rounds + 1 => do
    let count ← Guest.call .fread [buffer, 1, chunk, input]
    -- An empty chunk is the end of the file or an error; only the flag tells which.
    if count = 0 then
      if (← Guest.call .ferror [input]) ≠ 0 then
        discard (Guest.print ("copy: error reading " ++ source ++ "\n"))
        return 1
      return 0
    else if (← Guest.call .fwrite [buffer, 1, count, output]) ≠ count then
      discard (Guest.print ("copy: error writing " ++ target ++ "\n"))
      return 1
    else copyChunks source target buffer input output rounds

/-- Copies a file. -/
def copyFile (source target : String) : Action σ ς Nat := do
  let sourcePath ← Guest.allocateString source
  let targetPath ← Guest.allocateString target
  let readMode ← Guest.allocateString "rb"
  let writeMode ← Guest.allocateString "wb"
  let buffer ← Guest.allocate chunk 8
  let input ← Guest.call .fopen [sourcePath, readMode]
  if input = 0 then
    discard (Guest.print ("copy: cannot open " ++ source ++ "\n"))
    return 1
  let output ← Guest.call .fopen [targetPath, writeMode]
  if output = 0 then
    discard (Guest.call .fclose [input])
    discard (Guest.print ("copy: cannot create " ++ target ++ "\n"))
    return 1
  let code ← copyChunks source target buffer input output ((← get).supply + 1)
  discard (Guest.call .fclose [input])
  if (← Guest.call .fclose [output]) ≠ 0 then return 1
  return code

/-- Copies a file, given its name and the name of the copy. -/
def runCopy : List String → Action σ ς Nat
  | [source, target] => copyFile source target
  | _ => do
    discard (Guest.print "usage: copy SRC DST\n")
    return 2

/-! ### Printing the input -/

/-- Prints the input chunk by chunk; the result is the exit code. -/
def catChunks (buffer length : Word) : Nat → Action σ ς Nat
  | 0 => return 0
  | rounds + 1 => do
    Guest.storeWord length chunk
    let answer ← Guest.call .readStream [buffer, length]
    if answer = 0 then
      let count ← Guest.loadWord length
      discard (Guest.call .write [1, buffer, count])
      catChunks buffer length rounds
    else if answer = 1 then return 0
    else
      discard (Guest.print "cat: no input file\n")
      return 1

/-- Prints the input of the session. -/
def runCat : Action σ ς Nat := do
  let buffer ← Guest.allocate chunk 8
  let length ← Guest.allocate 8 8
  catChunks buffer length ((← get).supply + 1)

/-- Runs a program; the result is its exit code. -/
def run (p : Program) (arguments : List String) : Action σ ς Nat :=
  match p with
  | fileWrite => runFileWrite
  | timestamp => runPrint .timestamp
  | random => runPrint .random
  | copy => runCopy arguments
  | cat => runCat

end Semihosting.Program
