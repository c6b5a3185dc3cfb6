import SpectralBench.Json.Node
import SpectralBench.Json.Value
import SpectralBench.Text.Hexadecimal

/-!
# Strings of a document

Inside quotes a backslash starts an escape. A code point beyond the first plane is escaped as a pair
of surrogates, and a surrogate without its partner is a fault for whoever reads the string; whoever
skips it only looks for four hexadecimal digits. What follows an escape is shorter than what it was
read from, so reading a string ends.
-/

namespace SpectralBench.Json

/-- The character behind a short escape's letter. -/
def unescape? (letter : Char) : Option Char :=
  match letter with
  | '"' => some '"'
  | '\\' => some '\\'
  | '/' => some '/'
  | 'b' => some '\x08'
  | 'f' => some '\x0c'
  | 'n' => some '\n'
  | 'r' => some '\r'
  | 't' => some '\t'
  | _ => none

/-- Bytes of a text. -/
def byteLength (text : List Char) : Nat :=
  text.foldr (fun c bytes => c.utf8Size + bytes) 0

/-- Reads the four digits of a hexadecimal escape; what follows is shorter. Fewer than four bytes are
the end of the text. -/
def hexEscape : (text : List Char) →
    Except Fault (Nat × { rest : List Char // rest.length < text.length })
  | a :: b :: c :: d :: rest =>
    match Text.hexValue? a, Text.hexValue? b, Text.hexValue? c, Text.hexValue? d with
    | some a, some b, some c, some d =>
      .ok (((a * 16 + b) * 16 + c) * 16 + d, ⟨rest, by simp only [List.length_cons]; omega⟩)
    | _, _, _, _ => .error .badEscape
  | short => if byteLength short < 4 then .error .endInString else .error .badEscape

/-- What stands behind the start of a hexadecimal escape, if a text begins with one. -/
def behindEscape? : (text : List Char) → Option { rest : List Char // rest.length < text.length }
  | '\\' :: 'u' :: rest => some ⟨rest, by simp only [List.length_cons]; omega⟩
  | _ => none

def isHighSurrogate (n : Nat) : Bool :=
  0xD800 ≤ n && n ≤ 0xDBFF

def isLowSurrogate (n : Nat) : Bool :=
  0xDC00 ≤ n && n ≤ 0xDFFF

/-- The character of a pair of surrogates. -/
def paired (high low : Nat) : Char :=
  .ofNat ((high - 0xD800) * 0x400 + (low - 0xDC00) + 0x10000)

/-- What the text of a string shows: what it reads as, and where skipping it ends. -/
structure Shown where
  read : Except Fault (List Char)
  skipped : Except Fault (List Char)

namespace Shown

/-- A fault for readers and skippers alike. -/
def fault (f : Fault) : Shown :=
  ⟨.error f, .error f⟩

/-- Puts a character in front. -/
def cons (c : Char) (s : Shown) : Shown :=
  { s with read := s.read.map (c :: ·) }

/-- A fault for readers only. -/
def unreadable (f : Fault) (s : Shown) : Shown :=
  { s with read := .error f }

end Shown

/-- Reads a string behind its opening quote. -/
def readText (text : List Char) : Shown :=
  match text with
  | [] => .fault .endInString
  | '"' :: rest => ⟨.ok [], .ok rest⟩
  | ['\\'] => .fault .endInString
  | '\\' :: 'u' :: rest =>
    match hexEscape rest with
    | .error f => .fault f
    | .ok (n, ⟨afterFirst, _⟩) =>
      if isLowSurrogate n then (readText afterFirst).unreadable .loneSurrogate
      else if !isHighSurrogate n then (readText afterFirst).cons (.ofNat n)
      else
        match behindEscape? afterFirst with
        | some ⟨rest2, _⟩ =>
          match hexEscape rest2 with
          | .error f => .fault f
          | .ok (low, ⟨afterSecond, _⟩) =>
            if isLowSurrogate low then (readText afterSecond).cons (paired n low)
            else (readText afterFirst).unreadable .loneSurrogate
        | none =>
          if afterFirst.isEmpty || afterFirst = ['\\'] then .fault .endInString
          else (readText afterFirst).unreadable .cutEscape
  | '\\' :: letter :: rest =>
    match unescape? letter with
    | some c => (readText rest).cons c
    | none => .fault .badEscape
  | c :: rest => if c.toNat < 0x20 then .fault .controlCharacter else (readText rest).cons c
termination_by text.length
decreasing_by all_goals (simp only [List.length_cons] at *; omega)

end SpectralBench.Json
