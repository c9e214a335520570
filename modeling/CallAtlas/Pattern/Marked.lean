import CallAtlas.Pattern.Regex

/-!
# Searching for expressions

Whether an expression occurs in a text is decided in one pass over the text that follows all
occurrences at once. In a copy of the expression the places where a character has just been read
are marked; each character of the text moves the marks on.

## Main definitions

* `TextPosition`, `Anchor.holdsAt`: positions of a text and the conditions on them
* `Marked`: expressions with marks
* `Marked.passes`, `Marked.reaches`, `Marked.advance`: how marks move
* `Regex.occursIn`: whether an expression occurs in a text
-/

namespace CallAtlas

/-- A position of a text, by the characters before and after it. -/
structure TextPosition where
  before : Option Char
  after : Option Char
deriving DecidableEq, Inhabited

/-- Whether a character belongs to a word. -/
def isInWord (ascii : Bool) (c : Char) : Bool :=
  CharSet.isWordChar c && (!ascii || c.toNat < 0x80)

/-- Whether a condition on words holds at a position. -/
def WordCondition.holdsAt (ascii : Bool) (p : TextPosition) : WordCondition → Bool
  | boundary => p.before.any (isInWord ascii) != p.after.any (isInWord ascii)
  | notBoundary => p.before.any (isInWord ascii) == p.after.any (isInWord ascii)
  | start => !p.before.any (isInWord ascii) && p.after.any (isInWord ascii)
  | stop => p.before.any (isInWord ascii) && !p.after.any (isInWord ascii)
  | startHalf => !p.before.any (isInWord ascii)
  | stopHalf => !p.after.any (isInWord ascii)

/-- Whether a condition holds at a position. -/
def Anchor.holdsAt (p : TextPosition) : Anchor → Bool
  | textStart => p.before.isNone
  | textEnd => p.after.isNone
  | lineStart => p.before.all (· = '\n')
  | lineEnd => p.after.all (· = '\n')
  | anyLineStart => p.before.all fun c => c = '\n' || (c = '\r' && p.after ≠ some '\n')
  | anyLineEnd => p.after.all fun c => c = '\r' || (c = '\n' && p.before ≠ some '\r')
  | word condition ascii => condition.holdsAt ascii p

/-- An expression in which the places where a character has just been read are marked. -/
inductive Marked where
  | empty
  | char (set : CharSet) (isMarked : Bool)
  | anchor (condition : Anchor)
  | seq (a b : Marked)
  | alt (a b : Marked)
  /-- One or more occurrences. -/
  | plus (r : Marked)
deriving Inhabited

namespace Marked

/-- Whether an expression occurs at a position without a character. -/
def passes (p : TextPosition) : Marked → Bool
  | empty => true
  | char _ _ => false
  | anchor condition => condition.holdsAt p
  | seq a b => a.passes p && b.passes p
  | alt a b => a.passes p || b.passes p
  | plus r => r.passes p

/-- Whether an occurrence with a marked character ends at a position. -/
def reaches (p : TextPosition) : Marked → Bool
  | empty => false
  | char _ isMarked => isMarked
  | anchor _ => false
  | seq a b => b.reaches p || (a.reaches p && b.passes p)
  | alt a b => a.reaches p || b.reaches p
  | plus r => r.reaches p

/-- The marks after one more character, which stands at a position; `starts` says whether
occurrences may start there. -/
def advance (p : TextPosition) (c : Char) (starts : Bool) : Marked → Marked
  | empty => empty
  | char set _ => char set (starts && set.contains c)
  | anchor condition => anchor condition
  | seq a b =>
    seq (a.advance p c starts) (b.advance p c (a.reaches p || (starts && a.passes p)))
  | alt a b => alt (a.advance p c starts) (b.advance p c starts)
  | plus r => plus (r.advance p c (starts || r.reaches p))

/-- Whether an occurrence that has begun, or begins here, ends somewhere in the rest of a text;
`before` is the character before the rest. -/
def occursFrom (before : Option Char) (m : Marked) : List Char → Bool
  | [] => m.reaches ⟨before, none⟩ || m.passes ⟨before, none⟩
  | c :: cs =>
    m.reaches ⟨before, some c⟩ || m.passes ⟨before, some c⟩
      || (m.advance ⟨before, some c⟩ c true).occursFrom (some c) cs

/-- A number of occurrences in a row. The two halves are of about the same length. -/
def copies (m : Marked) (n : Nat) : Marked :=
  if n = 0 then empty
  else if n = 1 then m
  else seq (m.copies (n / 2)) (m.copies (n - n / 2))
termination_by n

/-- At least `min` and at most `max` occurrences in a row. -/
def between (m : Marked) (min : Nat) (max : Option Nat) : Marked :=
  match min, max with
  | min, some max => seq (m.copies min) ((alt m empty).copies (max - min))
  | 0, none => alt (plus m) empty
  | min + 1, none => seq (m.copies min) (plus m)

end Marked

namespace Regex

/-- An expression without marks, for texts of at most `length` characters. More occurrences in a
row than the text has positions make no difference: two of them are at the same place. -/
def unmarked (length : Nat) : Regex → Marked
  | empty => .empty
  | literal chars => chars.foldr (fun c m => .seq (.char (.single c) false) m) .empty
  | oneOf set _ => .char set false
  | anchor condition => .anchor condition
  | group _ r => r.unmarked length
  | seq a b => .seq (a.unmarked length) (b.unmarked length)
  | alt a b => .alt (a.unmarked length) (b.unmarked length)
  | times r min max _ =>
    (r.unmarked length).between (Nat.min min (length + 1)) (max.map (Nat.min · (length + 1)))

/-- Whether an expression occurs somewhere in a text. -/
def occursIn (r : Regex) (text : String) : Bool :=
  (r.unmarked text.length).occursFrom none text.toList

end Regex

end CallAtlas
