/-
  JSON documents of numbers, truth values, lists and records, and their indented text.

  An element stands on a line of its own, two blanks deeper than the bracket that holds it.  A
  list or record without elements is written on one line.
-/

namespace PlayStation.Text

/-- A document. -/
inductive Json where
  | number (n : Nat)
  | truth (b : Bool)
  | list (items : List Json)
  /-- Named parts, in the order in which they are written. -/
  | record (fields : List (String × Json))
deriving Repr, Inhabited

namespace Json

/-- A line break, and the blanks in front of what stands `depth` brackets deep. -/
def newLine (depth : Nat) : String := "\n" ++ String.ofList (List.replicate (2 * depth) ' ')

mutual

/-- The text of a document that stands `depth` brackets deep. -/
def renderAt (depth : Nat) : Json → String
  | .number n => toString n
  | .truth b => if b then "true" else "false"
  | .list [] => "[]"
  | .list (item :: items) =>
    "[" ++ newLine (depth + 1) ++ renderAt (depth + 1) item ++ renderItems (depth + 1) items
      ++ newLine depth ++ "]"
  | .record [] => "\x7b\x7d"
  | .record ((name, value) :: fields) =>
    "\x7b" ++ newLine (depth + 1) ++ "\"" ++ name ++ "\": " ++ renderAt (depth + 1) value
      ++ renderFields (depth + 1) fields ++ newLine depth ++ "\x7d"

/-- The elements after the first one. -/
def renderItems (depth : Nat) : List Json → String
  | [] => ""
  | item :: items => "," ++ newLine depth ++ renderAt depth item ++ renderItems depth items

/-- The parts after the first one. -/
def renderFields (depth : Nat) : List (String × Json) → String
  | [] => ""
  | (name, value) :: fields =>
    "," ++ newLine depth ++ "\"" ++ name ++ "\": " ++ renderAt depth value
      ++ renderFields depth fields

end

/-- The text of a document. -/
def render (document : Json) : String := renderAt 0 document

end Json

end PlayStation.Text
