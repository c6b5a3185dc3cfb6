import SpectralBench.Text.Split

/-!
# Blank characters

White space is the Unicode property `White_Space`. Trimming removes it at both ends of a text, and
the words of a text are what stands between blanks.

Main statements:

* `trim_of_ends` — a text that neither starts nor ends with a blank is its own trimmed form.
-/

namespace SpectralBench.Text

/-- The property `White_Space`: 25 characters. -/
def isBlank (c : Char) : Bool :=
  let n := c.toNat
  (0x9 ≤ n && n ≤ 0xD) || n == 0x20 || n == 0x85 || n == 0xA0 || n == 0x1680 ||
    (0x2000 ≤ n && n ≤ 0x200A) || n == 0x2028 || n == 0x2029 || n == 0x202F || n == 0x205F ||
    n == 0x3000

/-- Removes the blanks at the start of a text. -/
def trimStart (text : List Char) : List Char :=
  text.dropWhile isBlank

/-- Removes the blanks at the end of a text. -/
def trimEnd (text : List Char) : List Char :=
  (text.reverse.dropWhile isBlank).reverse

/-- Removes the blanks at both ends of a text. -/
def trim (text : List Char) : List Char :=
  trimEnd (trimStart text)

/-- A text that neither starts nor ends with a blank. -/
def EndsPlain (text : List Char) : Prop :=
  (∀ c ∈ text.head?, isBlank c = false) ∧ ∀ c ∈ text.getLast?, isBlank c = false

theorem trimStart_of_head {text : List Char} (h : ∀ c ∈ text.head?, isBlank c = false) :
    trimStart text = text := by
  cases text with
  | nil => rfl
  | cons c rest => simp [trimStart, h c (by simp)]

theorem trimEnd_of_getLast {text : List Char} (h : ∀ c ∈ text.getLast?, isBlank c = false) :
    trimEnd text = text := by
  have hr : trimStart text.reverse = text.reverse :=
    trimStart_of_head (by simpa [List.head?_reverse] using h)
  have := congrArg List.reverse hr
  simpa [trimEnd, trimStart] using this

theorem trim_of_ends {text : List Char} (h : EndsPlain text) : trim text = text := by
  rw [trim, trimStart_of_head h.1, trimEnd_of_getLast h.2]

theorem trim_of_forall_not {text : List Char} (h : ∀ c ∈ text, isBlank c = false) :
    trim text = text :=
  trim_of_ends ⟨fun c hc => h c (List.mem_of_head? hc), fun c hc => h c (List.mem_of_getLast? hc)⟩

/-- The maximal runs of characters that are not blank. -/
def words (text : List Char) : List (List Char) :=
  (split isBlank text).filter (!·.isEmpty)

/-- `trim` on strings. -/
def trimmed (text : String) : String :=
  String.ofList (trim text.toList)

/-- A label as readers compare it: trimmed, with the ASCII capitals lowered. -/
def folded (text : String) : String :=
  String.ofList ((trim text.toList).map Char.toLower)

end SpectralBench.Text
