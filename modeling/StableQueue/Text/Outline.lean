/-!
# Outlines of Values

An `Outline` is the structure of a value as it is shown to a programmer: an atom, a named record of
labelled items, or a name wrapped around one item. Records are written with braces and wrapped items
with parentheses. A record may be marked as showing only some of its items.

An outline is written on one line, or with every item on a line of its own, indented by four spaces
more than what it belongs to.
-/

namespace StableQueue.Text

mutual

/-- The structure of a shown value. -/
inductive Outline where
  /-- A value shown as it is. -/
  | atom (text : String)
  /-- A name followed by labelled items in braces. -/
  | record (name : String) (items : Items)
  /-- A name followed by an item in parentheses. -/
  | wrapped (name : String) (item : Outline)

/-- The labelled items of a record. -/
inductive Items where
  /-- Nothing follows. -/
  | done
  /-- More follows that is not shown. -/
  | andMore
  /-- A labelled item, and what follows. -/
  | item (label : String) (value : Outline) (rest : Items)

end

namespace Outline

/-- A number. -/
def number (n : Nat) : Outline := atom (toString n)

/-- A number that may be negative. -/
def integer (n : Int) : Outline := atom (toString n)

/-- A truth value. -/
def truth (b : Bool) : Outline := atom (if b then "true" else "false")

/-- A record all of whose items are shown. -/
def fields (name : String) (items : List (String × Outline)) : Outline :=
  record name (items.foldr (fun (label, value) rest => .item label value rest) .done)

/-- A record that has more items than are shown. -/
def someFields (name : String) (items : List (String × Outline)) : Outline :=
  record name (items.foldr (fun (label, value) rest => .item label value rest) .andMore)

/-- A value that may be missing. -/
def optional : Option Outline → Outline
  | none => atom "None"
  | some value => wrapped "Some" value

end Outline

mutual

/-- The outline on one line. -/
def Outline.line : Outline → String
  | .atom text => text
  | .record name .done => name
  | .record name items => name ++ " \x7b " ++ items.line ++ " \x7d"
  | .wrapped name item => name ++ "(" ++ item.line ++ ")"

/-- The items on one line, separated by commas. -/
def Items.line : Items → String
  | .done => ""
  | .andMore => ".."
  | .item label value .done => label ++ ": " ++ value.line
  | .item label value rest => label ++ ": " ++ value.line ++ ", " ++ rest.line

end

mutual

/-- The outline over several lines; those after the first start with `margin`. -/
def Outline.block (margin : String) : Outline → String
  | .atom text => text
  | .record name .done => name
  | .record name items => name ++ " \x7b\n" ++ items.block (margin ++ "    ") ++ margin ++ "\x7d"
  | .wrapped name item =>
    name ++ "(\n" ++ margin ++ "    " ++ item.block (margin ++ "    ") ++ ",\n" ++ margin ++ ")"

/-- The items, each on lines of its own that start with `margin` and end with a comma. -/
def Items.block (margin : String) : Items → String
  | .done => ""
  | .andMore => margin ++ "..\n"
  | .item label value rest =>
    margin ++ label ++ ": " ++ value.block margin ++ ",\n" ++ rest.block margin

end

/-- The outline as a text, on one line or over several. -/
def Outline.text (pretty : Bool) (outline : Outline) : String :=
  if pretty then outline.block "" else outline.line

end StableQueue.Text
