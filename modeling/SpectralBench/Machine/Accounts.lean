import SpectralBench.Decimal.Natural
import SpectralBench.Text.Blank

/-!
# The system's accounts of the machine

The system tells in short texts how much memory and how many threads the machine has, and when it
was started. Each text has one fact on a line, behind the name of the fact.
-/

namespace SpectralBench.Accounts

/-- The words behind a name, on the first line that starts with the name. -/
def entry? (name : String) (text : String) : Option (List (List Char)) :=
  ((Text.lines text.toList).map Text.words).findSome? fun words =>
    match words with
    | first :: rest => if String.ofList first = name then some rest else none
    | [] => none

/-- The number behind a name. -/
def number? (name : String) (text : String) : Option UInt64 :=
  match entry? name text with
  | some (number :: _) => (Decimal.readNatural number).toOption
  | _ => none

/-- Bytes of memory, from an account in kibibytes. -/
def memory? (text : String) : Option UInt64 :=
  (number? "MemTotal:" text).map (· * 1024)

/-- The number of threads: one for each paragraph about a processor. -/
def threads (text : String) : Nat :=
  ((Text.lines text.toList).map Text.words).countP fun words =>
    words.head? = some "processor".toList

/-- The second at which the machine was started. -/
def started? (text : String) : Option UInt64 :=
  number? "btime" text

/-- The whole seconds that the machine has been up. -/
def uptime? (text : String) : Option UInt64 := do
  let first ← (Text.words text.toList).head?
  let seconds ← (Text.split (· = '.') first).head?
  (Decimal.readNatural seconds).toOption

end SpectralBench.Accounts
