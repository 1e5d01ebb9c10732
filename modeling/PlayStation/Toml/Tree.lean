/-
  The TREE that a TOML document stands for, as far as settings need it.

  A value is a string, a number, a truth value, the empty array or a table.  Documents with other
  values are refused: no setting takes one.

  A table remembers how it came about, because that decides what may still be added to it:

    inline    written between braces; complete
    dotted    made by a key with dots; takes further keys with dots, but no header
    header    made by a header; takes headers below it, but no second one of its own
    parent    made on the way to a header below it; may still get a header of its own
-/

namespace PlayStation.Toml

/-- How a table came about. -/
inductive Origin where
  | inline
  | dotted
  | header
  | parent
deriving DecidableEq, Repr, Inhabited

/-- A value. -/
inductive Tree where
  | text (s : String)
  | integer (n : Int)
  | truth (b : Bool)
  | emptyArray
  | table (origin : Origin) (entries : List (String × Tree))
deriving Inhabited

/-- What a table holds, in the order in which it came. -/
abbrev Entries := List (String × Tree)

namespace Entries

/-- The entries with the value of a present key replaced. -/
def replace (entries : Entries) (key : String) (value : Tree) : Entries :=
  entries.map fun entry => if entry.1 == key then (key, value) else entry

/-- Gives a key, perhaps a dotted one, a value.  Keys are given once, and only tables that dots or
    deeper headers made can be entered. -/
def assign (entries : Entries) (value : Tree) : List String → Option Entries
  | [] => none
  | [key] =>
    match entries.lookup key with
    | none => some (entries ++ [(key, value)])
    | some _ => none
  | key :: path =>
    match entries.lookup key with
    | none => do
      let inner ← assign [] value path
      some (entries ++ [(key, .table .dotted inner)])
    | some (.table origin inner) =>
      match origin with
      | .dotted | .parent => do
        let inner ← assign inner value path
        some (replace entries key (.table origin inner))
      | .inline | .header => none
    | some _ => none

/-- Makes the table that a header names.  A table gets one header, and inline tables none. -/
def openTable (entries : Entries) : List String → Option Entries
  | [] => none
  | [key] =>
    match entries.lookup key with
    | none => some (entries ++ [(key, .table .header [])])
    | some (.table .parent inner) => some (replace entries key (.table .header inner))
    | some _ => none
  | key :: path =>
    match entries.lookup key with
    | none => do
      let inner ← openTable [] path
      some (entries ++ [(key, .table .parent inner)])
    | some (.table .inline _) => none
    | some (.table origin inner) => do
      let inner ← openTable inner path
      some (replace entries key (.table origin inner))
    | some _ => none

/-- Gives a key a value in the table that the last header named. -/
def assignUnder (entries : Entries) (value : Tree) (path : List String) :
    List String → Option Entries
  | [] => assign entries value path
  | key :: header =>
    match entries.lookup key with
    | some (.table origin inner) => do
      let inner ← assignUnder inner value path header
      some (replace entries key (.table origin inner))
    | _ => none

end Entries

end PlayStation.Toml
