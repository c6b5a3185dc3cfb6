import SpectralBench.Text.Hexadecimal
import SpectralBench.Text.Plain

/-!
# Quoted text

Diagnostics show a text that somebody else wrote between double quotes. Quotes, backslashes and the
common controls have short escapes, every other character that is not plain is written by its code
point, and the rest stands as it is.
-/

namespace SpectralBench.Text

/-- How one character is written inside quotes. -/
def escape (c : Char) : List Char :=
  match c with
  | '"' => ['\\', '"']
  | '\\' => ['\\', '\\']
  | '\n' => ['\\', 'n']
  | '\r' => ['\\', 'r']
  | '\t' => ['\\', 't']
  | '\x00' => ['\\', '0']
  | c => if isPlain c then [c] else ['\\', 'u', '\x7b'] ++ hexDigits c.toNat ++ ['\x7d']

/-- A text between double quotes, with escapes. -/
def quoted (text : String) : String :=
  String.ofList ('"' :: text.toList.flatMap escape ++ ['"'])

/-- Numbers between square brackets, separated by a comma and a space. -/
def bracketed (numbers : List Nat) : String :=
  "[" ++ ", ".intercalate (numbers.map toString) ++ "]"

end SpectralBench.Text
