/-!
# Texts

The parts of a text and the numerals in it. Texts are read after their leading and trailing blanks
are removed; the blank characters are those with the Unicode property `White_Space`. A text is cut
into fields at every occurrence of a separating character, so that a text with `n` separators has
`n + 1` fields, empty ones included. A line is ended by a line feed, or by a carriage return with a
line feed right after it; the ending of the last line may be missing, and a carriage return that no
line feed follows is part of its line. Numbers are written in decimal or in lower case hexadecimal,
without a sign and without leading zeros; a word is read from decimal digits, which an optional plus
sign may precede.

## Main definitions

* `isBlank`, `trim`: blank characters, and a text without its leading and trailing blanks
* `fields`: the fields of a text
* `lines`: the lines of a text, without their endings
* `decimal`, `hex`: the digits of a natural number
* `padLeft`, `padRight`: a text filled up to a width
* `readWord?`: the 32-bit word a decimal numeral stands for

## Main results

* `length_fields`: a text has one field more than it has separators
-/

namespace CallAtlas.Text

/-! ## Blanks -/

/-- Whether the code point of a character lies in one of some ranges, ends included. -/
def inRanges (ranges : List (Nat × Nat)) (c : Char) : Bool :=
  ranges.any fun r => r.1 ≤ c.toNat && c.toNat ≤ r.2

/-- The ranges of code points with the property `White_Space`. -/
def blankRanges : List (Nat × Nat) :=
  [(0x09, 0x0D), (0x20, 0x20), (0x85, 0x85), (0xA0, 0xA0), (0x1680, 0x1680), (0x2000, 0x200A),
    (0x2028, 0x2029), (0x202F, 0x202F), (0x205F, 0x205F), (0x3000, 0x3000)]

/-- Whether a character is blank. -/
def isBlank (c : Char) : Bool := inRanges blankRanges c

/-- The characters between the first and the last one that are not blank. -/
def trimChars (cs : List Char) : List Char :=
  ((cs.dropWhile isBlank).reverse.dropWhile isBlank).reverse

/-- A text without its leading and trailing blanks. -/
def trim (s : String) : String :=
  String.ofList (trimChars s.toList)

@[simp] theorem trimChars_nil : trimChars [] = [] := rfl

@[simp] theorem toList_trim (s : String) : (trim s).toList = trimChars s.toList := by
  simp [trim]

/-! ## Fields and lines -/

/-- The fields of a text, cut at every `sep`. -/
def fields (sep : Char) : List Char → List (List Char)
  | [] => [[]]
  | c :: cs =>
    if c = sep then [] :: fields sep cs
    else match fields sep cs with
      | [] => [[c]]
      | f :: fs => (c :: f) :: fs

@[simp] theorem fields_nil (sep : Char) : fields sep [] = [[]] := rfl

theorem fields_ne_nil (sep : Char) (cs : List Char) : fields sep cs ≠ [] := by
  cases cs with
  | nil => simp
  | cons c cs => unfold fields; split <;> (try split) <;> simp

/-- A text has one field more than it has separators. -/
theorem length_fields (sep : Char) (cs : List Char) :
    (fields sep cs).length = cs.count sep + 1 := by
  induction cs with
  | nil => simp
  | cons c cs ih =>
    unfold fields
    by_cases h : c = sep
    · simp [h, ih]
    · rw [if_neg h, List.count_cons_of_ne (by simpa using h), ← ih]
      split
      · exact absurd ‹_› (fields_ne_nil sep cs)
      · simp [*]

/-- The lines of a text, without their endings. -/
def lines : List Char → List (List Char)
  | [] => []
  | '\n' :: cs => [] :: lines cs
  | '\r' :: '\n' :: cs => [] :: lines cs
  | c :: cs =>
    match lines cs with
    | [] => [[c]]
    | line :: rest => (c :: line) :: rest

/-! ## Numerals -/

/-- The decimal digits of a number. -/
def decimal (n : Nat) : String := String.ofList (Nat.toDigits 10 n)

/-- The lower case hexadecimal digits of a number. -/
def hex (n : Nat) : String := String.ofList (Nat.toDigits 16 n)

/-- A text preceded by as many `fill` as it lacks to be `width` characters long. -/
def padLeft (width : Nat) (fill : Char) (s : String) : String :=
  String.ofList (List.replicate (width - s.length) fill) ++ s

/-- A text followed by as many `fill` as it lacks to be `width` characters long. -/
def padRight (width : Nat) (fill : Char) (s : String) : String :=
  s ++ String.ofList (List.replicate (width - s.length) fill)

/-- The value of an ASCII decimal digit. -/
def digitValue? (c : Char) : Option Nat :=
  if '0' ≤ c ∧ c ≤ '9' then some (c.toNat - '0'.toNat) else none

/-- The value of a sequence of decimal digits that continues a number of value `acc`. -/
def readDigits? (acc : Nat) : List Char → Option Nat
  | [] => some acc
  | c :: cs => do readDigits? (acc * 10 + (← digitValue? c)) cs

/-- The value of a decimal numeral: at least one digit, after at most one plus sign. -/
def readNumeral? : List Char → Option Nat
  | [] => none
  | '+' :: [] => none
  | '+' :: cs => readDigits? 0 cs
  | cs => readDigits? 0 cs

/-- The 32-bit word a decimal numeral stands for, none when it does not fit. -/
def readWord? (s : String) : Option UInt32 := do
  let n ← readNumeral? s.toList
  if n < UInt32.size then some (UInt32.ofNat n) else none

end CallAtlas.Text
