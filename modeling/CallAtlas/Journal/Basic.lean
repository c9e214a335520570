import CallAtlas.Text

/-!
# Notices

An analysis goes on past what it cannot use: bytes that were not decoded, references that lead
nowhere, definitions given twice. Each such event, and each completed phase, has a notice. Notices
are functions of what is analysed, apart from the results themselves.

## Main definitions

* `Level`, `Notice`: the importance and the text of an event
* `Notice.report`: the lines of the notices up to a level, sorted
-/

namespace CallAtlas

/-- The importance of a notice, the most important first. -/
inductive Level where
  | warn
  | info
  | debug
  | trace
deriving DecidableEq, Inhabited

namespace Level

/-- The place of a level in the order of importance. -/
def rank : Level → Nat
  | warn => 0
  | info => 1
  | debug => 2
  | trace => 3

/-- The word for a level. -/
def text : Level → String
  | warn => "WARN"
  | info => "INFO"
  | debug => "DEBUG"
  | trace => "TRACE"

end Level

/-- An event worth telling. -/
structure Notice where
  level : Level
  text : String
deriving DecidableEq, Inhabited

namespace Notice

/-- The line of a notice: its level and its text. -/
def line (n : Notice) : String := n.level.text ++ " " ++ n.text

/-- The lines of the notices up to a level, sorted. -/
def report (level : Level) (notices : List Notice) : List String :=
  ((notices.filter (·.level.rank ≤ level.rank)).map line).mergeSort fun a b => compare a b != .gt

end Notice

end CallAtlas
