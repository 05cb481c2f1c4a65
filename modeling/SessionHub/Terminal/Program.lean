import SessionHub.Terminal.Resize
import SessionHub.Text.Numeral
import SessionHub.Text.Utf8

/-!
# Simple programs

Programs whose behaviour on a terminal is known entirely, and the executions that carry
them out. The terminal is raw: bytes pass as they are, and none is shown unless the
program puts it out.
-/

namespace SessionHub
namespace Terminal

/-- What a program does. -/
inductive Program
  /-- It puts out what it reads. -/
  | echo
  /-- It puts out so many of the bytes that it reads, and ends. -/
  | echoFirst (count : Nat)
  /-- It reads so many bytes, puts out the rows and columns of its terminal, and ends. -/
  | sizeAfter (count : Nat)
  /-- It puts out bytes and ends. -/
  | emit (bytes : List UInt8)
deriving DecidableEq, Repr

/-- A program that is carried out on a terminal. -/
structure Execution where
  program : Program
  /-- The size of the terminal. -/
  size : WindowSize
  /-- How many bytes were read. -/
  count : Nat := 0
  /-- What was put out and not read from the terminal yet. -/
  output : List UInt8 := []
  isRunning : Bool := true
deriving DecidableEq, Repr

namespace Execution

/-- The text of a size: rows and columns on a line. -/
def sizeText (size : WindowSize) : List UInt8 :=
  Text.Utf8.encode
    (Text.natDigits size.rows.toNat ++ ' ' :: Text.natDigits size.cols.toNat ++ ['\n'])

variable (execution : Execution)

/-- The execution after it has put out its last bytes. -/
def ending (bytes : List UInt8) : Execution :=
  { execution with output := execution.output ++ bytes, isRunning := false }

/-- The execution after it has done what it can do with the bytes read so far. -/
def proceed : Execution :=
  match execution.program with
  | .echo => execution
  | .echoFirst limit => if limit ≤ execution.count then execution.ending [] else execution
  | .sizeAfter limit =>
    if limit ≤ execution.count then execution.ending (sizeText execution.size) else execution
  | .emit bytes => execution.ending bytes

/-- Carry out a program on a new terminal. -/
def start (program : Program) (size : WindowSize) : Execution :=
  { program, size : Execution }.proceed

/-- What a running program puts out of bytes that are typed. -/
def response (bytes : List UInt8) : List UInt8 :=
  match execution.program with
  | .echo => bytes
  | .echoFirst limit => bytes.take (limit - execution.count)
  | .sizeAfter _ | .emit _ => []

/-- Type bytes. -/
def type (bytes : List UInt8) : Execution :=
  if execution.isRunning then
    { execution with
      output := execution.output ++ execution.response bytes
      count := execution.count + bytes.length }.proceed
  else execution

/-- Resize the terminal. -/
def resize (size : WindowSize) : Execution :=
  { execution with size }

/-- The execution after its output was read from the terminal. -/
def drained : Execution :=
  { execution with output := [] }

end Execution
end Terminal
end SessionHub
