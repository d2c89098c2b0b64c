import CompilerGateway.Toml.Scalar

/-!
# Tables that stand for dates

In the later edition a table may stand for a date or a time of day: one whose first key, in
ascending order, is `Toml.dateKey`. That key then has to have a text with a date or time, and
what else is in the table does not count. `Toml.keepsDates` says whether all such tables within
a value are in order; a table in which another key comes first is a table like any other, and
what it holds is looked at in turn.
-/

namespace CompilerGateway

namespace Toml

/-- The key of a table that stands for a date or a time of day. -/
def dateKey : String := "$__toml_private_datetime"

/-- Whether a value is a text with a date, a time of day, or both. -/
def isTimeText : Json → Bool
  | .str text => isTime .relaxed text.toList
  | _ => false

mutual

/-- Whether every table in a value that stands for a date or time gives one. -/
def keepsDates : Json → Bool
  | .arr items => keepDates items
  | .obj [] => true
  | .obj ((key, value) :: rest) =>
    if key = dateKey then isTimeText value else keepsDates value && keepDatesBelow rest
  | _ => true

/-- Whether every table in several values that stands for a date or time gives one. -/
def keepDates : List Json → Bool
  | [] => true
  | item :: rest => keepsDates item && keepDates rest

/-- Whether every table in the values of several keys that stands for a date or time gives
one. -/
def keepDatesBelow : List (String × Json) → Bool
  | [] => true
  | (_, value) :: rest => keepsDates value && keepDatesBelow rest

end

/-- The key of dates counts only where it comes first. -/
theorem keepsDates_obj_cons {key : String} {value : Json} {rest : List (String × Json)}
    (h : key ≠ dateKey) :
    keepsDates (.obj ((key, value) :: rest))
      = (keepsDates value && keepDatesBelow rest) := by
  rw [keepsDates, if_neg h]

end Toml

end CompilerGateway
