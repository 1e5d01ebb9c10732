/-
  DOCUMENTS: lines of keys and values under headers.

  A line is empty, gives a key a value, or is a header that names the table for the lines below.
  Comments run to the end of their line.  White space within a line is blanks and tabs.  Within the
  brackets of arrays and inline tables there may be line breaks and comments too, wherever one part
  ends and the next begins: around a key, its equals sign and its value, but not around the dots of
  a key.

  Readers that call each other take fuel: the number of characters left is always enough, since
  every step uses one up.
-/
import PlayStation.Toml.Scalar

namespace PlayStation.Toml

/-! ## What stands between -/

/-- The input without the white space within the line that it starts with. -/
def skipInlineBlanks (cs : List Char) : List Char := cs.dropWhile isInlineBlank

/-- Skips the rest of a comment and the line break behind it. -/
def skipComment : List Char → Option (List Char)
  | [] => some []
  | '\n' :: cs => some cs
  | '\r' :: '\n' :: cs => some cs
  | c :: cs => if isTextChar c then skipComment cs else none

/-- Skips what may stand behind the last token of a line, and the line break. -/
def endLine (cs : List Char) : Option (List Char) :=
  match skipInlineBlanks cs with
  | [] => some []
  | '#' :: cs => skipComment cs
  | '\n' :: cs => some cs
  | '\r' :: '\n' :: cs => some cs
  | _ => none

/-- Skips white space, line breaks and comments. -/
def skipFiller (inComment : Bool) : List Char → Option (List Char)
  | [] => some []
  | '\n' :: cs => skipFiller false cs
  | '\r' :: '\n' :: cs => skipFiller false cs
  | c :: cs =>
    if inComment then if isTextChar c then skipFiller true cs else none
    else if c == '#' then skipFiller true cs
    else if isInlineBlank c then skipFiller false cs
    else some (c :: cs)

/-! ## Keys -/

/-- The character may be part of a key without quotes. -/
def isKeyChar (c : Char) : Bool := c.isAlphanum || c == '_' || c == '-'

/-- Reads one key. -/
def readKey : List Char → Option (String × List Char)
  | '\x22' :: cs => readBasic [] cs
  | '\x27' :: cs => readLiteral [] cs
  | cs =>
    let key := cs.takeWhile isKeyChar
    if key.isEmpty then none else some (String.ofList key, cs.dropWhile isKeyChar)

/-- Reads keys joined by dots, and the blanks behind them. -/
def readPath : Nat → List Char → Option (List String × List Char)
  | 0, _ => none
  | fuel + 1, cs => do
    let (key, cs) ← readKey cs
    match skipInlineBlanks cs with
    | '.' :: cs =>
      let (path, cs) ← readPath fuel (skipInlineBlanks cs)
      some (key :: path, cs)
    | cs => some ([key], cs)

/-! ## Values -/

mutual

/-- Reads a value. -/
def readValue : Nat → List Char → Option (Tree × List Char)
  | 0, _ => none
  | fuel + 1, cs =>
    match cs with
    | '\x22' :: '\x22' :: '\x22' :: cs =>
      (readLongBasic [] (dropLineBreak cs)).map fun (text, cs) => (.text text, cs)
    | '\x27' :: '\x27' :: '\x27' :: cs =>
      (readLongLiteral [] (dropLineBreak cs)).map fun (text, cs) => (.text text, cs)
    | '\x22' :: cs => (readBasic [] cs).map fun (text, cs) => (.text text, cs)
    | '\x27' :: cs => (readLiteral [] cs).map fun (text, cs) => (.text text, cs)
    | '[' :: cs =>
      match skipFiller false cs with
      | some (']' :: cs) => some (.emptyArray, cs)
      | _ => none
    | '\x7b' :: cs => do
      let (entries, cs) ← readEntries fuel [] (← skipFiller false cs)
      some (.table .inline entries, cs)
    | cs => readAtom cs

/-- Reads the rest of an inline table, from a key or the closing brace on. -/
def readEntries : Nat → Entries → List Char → Option (Entries × List Char)
  | 0, _, _ => none
  | _ + 1, entries, '\x7d' :: cs => some (entries, cs)
  | fuel + 1, entries, cs => do
    let (entries, cs) ← readAssignment fuel entries cs
    match ← skipFiller false cs with
    | ',' :: cs => readEntries fuel entries (← skipFiller false cs)
    | '\x7d' :: cs => some (entries, cs)
    | _ => none

/-- Reads a key and its value into the entries of a table. -/
def readAssignment : Nat → Entries → List Char → Option (Entries × List Char)
  | 0, _, _ => none
  | fuel + 1, entries, cs => do
    let (path, cs) ← readPath (fuel + 1) cs
    match ← skipFiller false cs with
    | '=' :: cs =>
      let (value, cs) ← readValue fuel (← skipFiller false cs)
      some (← entries.assign value path, cs)
    | _ => none

end

/-! ## Lines -/

/-- What a line does. -/
inductive Line where
  | empty
  /-- Gives a key a value. -/
  | assignment (path : List String) (value : Tree)
  /-- Names the table for the lines below. -/
  | header (path : List String)

/-- Reads a line, and its end. -/
def readLine (fuel : Nat) (cs : List Char) : Option (Line × List Char) :=
  match skipInlineBlanks cs with
  | '[' :: cs => do
    match ← readPath fuel (skipInlineBlanks cs) with
    | (path, ']' :: cs) => some (.header path, ← endLine cs)
    | _ => none
  | cs =>
    match endLine cs with
    | some cs => some (.empty, cs)
    | none => do
      match ← readPath fuel cs with
      | (path, '=' :: cs) =>
        let (value, cs) ← readValue fuel (skipInlineBlanks cs)
        some (.assignment path value, ← endLine cs)
      | _ => none

/-- Reads lines into a document; `header` names the table that they belong to. -/
def readLines : Nat → Entries → List String → List Char → Option Entries
  | _, entries, _, [] => some entries
  | 0, _, _, _ => none
  | fuel + 1, entries, header, cs => do
    match ← readLine (fuel + 1) cs with
    | (.empty, cs) => readLines fuel entries header cs
    | (.assignment path value, cs) =>
      readLines fuel (← entries.assignUnder value path header) header cs
    | (.header path, cs) => readLines fuel (← entries.openTable path) path cs

/-- The entries of a document.  A mark of the byte order in front of it is skipped. -/
def ofText? (text : String) : Option Entries :=
  let cs := match text.toList with
    | '\ufeff' :: cs => cs
    | cs => cs
  readLines (cs.length + 1) [] [] cs

end PlayStation.Toml
