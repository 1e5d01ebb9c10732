/-
  VARIABLES from a file of assignments.

    # a comment
    NAME=value
    export NAME="a value with ${OTHER}"

  A value may be quoted in part or as a whole.  Between single quotes everything is text.
  Elsewhere a backslash takes the special meaning away from the character behind it, and $NAME or
  ${NAME} stands for the value of a variable.  Outside quotes a blank ends the value, and only a
  comment may follow it.  Quotes may span lines.

  Reading stops at the first line that is none of this; the lines before it hold.  A variable that
  is set already keeps its value.
-/
import PlayStation.Settings.Environment
import PlayStation.Text.Alphanumeric
import PlayStation.Text.Blank

namespace PlayStation.Dotenv

/-! ## Lines, joined where quotes span them -/

/-- Where in a line, with respect to its quotes. -/
inductive Quoting where
  | outside
  /-- Behind a blank; a comment may start here. -/
  | blank
  | escape
  | single
  | singleEscape
  | double
  | doubleEscape
deriving DecidableEq, Repr

/-- What a character outside quotes leads to. -/
def Quoting.start (c : Char) : Quoting :=
  if c == '\\' then .escape
  else if c == '\x22' then .double
  else if c == '\x27' then .single
  else .outside

/-- One character further. -/
def Quoting.next (q : Quoting) (c : Char) : Quoting :=
  match q with
  | .outside =>
    if Text.isBlank c && c != '\n' && c != '\r' then .blank else Quoting.start c
  | .blank => Quoting.start c
  | .escape => .outside
  | .single => if c == '\\' then .singleEscape else if c == '\x27' then .outside else .single
  | .singleEscape => .single
  | .double => if c == '\\' then .doubleEscape else if c == '\x22' then .outside else .double
  | .doubleEscape => .double

/-- Goes through a line up to a comment.  What is in front of it, and the quoting at the end of the
    line unless it was a comment that ended it. -/
def scan (q : Quoting) : List Char → List Char × Option Quoting
  | [] => ([], some q)
  | c :: cs =>
    if q = .blank && c == '#' then ([], none)
    else
      let (kept, final) := scan (q.next c) cs
      (c :: kept, final)

/-- Splits behind every line break; `line` holds the current line, backwards. -/
def splitLines (line : List Char) : List Char → List (List Char)
  | [] => if line.isEmpty then [] else [line.reverse]
  | c :: cs =>
    if c == '\n' then (c :: line).reverse :: splitLines [] cs else splitLines (c :: line) cs

/-- A line without its line break. -/
def dropLineEnd (line : List Char) : List Char :=
  match line.reverse with
  | '\n' :: '\r' :: rest => rest.reverse
  | '\n' :: rest => rest.reverse
  | _ => line

/-- Joins lines that quotes span; `pending` holds what was joined so far.  An open end is none. -/
def joinLines (pending : List Char) (q : Quoting) : List (List Char) → List (Option (List Char))
  | [] => if q = .outside then [] else [none]
  | line :: lines =>
    let joined := pending ++ line
    if (Text.trimStart joined).head? == some '#' then some [] :: joinLines [] .outside lines
    else
      match scan q line with
      | (kept, none) => some (pending ++ kept) :: joinLines [] .outside lines
      | (_, some .outside) => some (dropLineEnd joined) :: joinLines [] .outside lines
      | (_, some inside) => joinLines joined inside lines

/-! ## Values -/

/-- A part of a value. -/
inductive Piece where
  | letter (c : Char)
  /-- Stands for the value of a variable. -/
  | reference (name : String)
deriving DecidableEq, Repr

/-- Where in a value; `inside` tells double quotes from none. -/
inductive Mode where
  | plain
  | single
  | double
  /-- Behind a backslash. -/
  | escape (inside : Bool)
  /-- Behind a dollar sign, with the name so far, backwards. -/
  | name (inside : Bool) (letters : List Char)
  /-- The same, in braces. -/
  | braced (inside : Bool) (letters : List Char)
  /-- Behind the value. -/
  | ended
deriving DecidableEq, Repr

/-- Within double quotes or outside quotes. -/
def Mode.within (inside : Bool) : Mode := if inside then .double else .plain

/-- The character that a backslash in front of `c` leaves. -/
def unescape? (c : Char) : Option Char :=
  if c == '\\' || c == '\x27' || c == '\x22' || c == '$' || c == ' ' then some c
  else if c == 'n' then some '\n'
  else none

/-- The reference with a name that was read backwards. -/
def Piece.referenceTo (letters : List Char) : Piece := .reference (String.ofList letters.reverse)

/-- Reads a value. -/
def readValue : Mode → List Char → Option (List Piece)
  | .plain, [] => some []
  | .ended, [] => some []
  | .escape inside, [] => if inside then none else some []
  | .name inside letters, [] => if inside then none else some [.referenceTo letters]
  | _, [] => none
  | .plain, c :: cs =>
    if c == '$' then readValue (.name false []) cs
    else if c == '\x27' then readValue .single cs
    else if c == '\x22' then readValue .double cs
    else if c == '\\' then readValue (.escape false) cs
    else if c == ' ' || c == '\t' then readValue .ended cs
    else (readValue .plain cs).map (.letter c :: ·)
  | .single, c :: cs =>
    if c == '\x27' then readValue .plain cs else (readValue .single cs).map (.letter c :: ·)
  | .double, c :: cs =>
    if c == '$' then readValue (.name true []) cs
    else if c == '\x22' then readValue .plain cs
    else if c == '\\' then readValue (.escape true) cs
    else (readValue .double cs).map (.letter c :: ·)
  | .escape inside, c :: cs =>
    match unescape? c with
    | none => none
    | some letter => (readValue (.within inside) cs).map (.letter letter :: ·)
  | .name inside letters, c :: cs =>
    if Text.isAlphanumeric c then readValue (.name inside (c :: letters)) cs
    else if c == '\x7b' && letters.isEmpty then readValue (.braced inside []) cs
    else if c == '$' then
      (readValue (.name inside []) cs).map (.referenceTo letters :: ·)
    else
      (readValue (.within inside) cs).map fun pieces =>
        .referenceTo letters :: .letter c :: pieces
  | .braced inside letters, c :: cs =>
    if c == '\x7d' then
      (readValue (.within inside) cs).map (.referenceTo letters :: ·)
    else readValue (.braced inside (c :: letters)) cs
  | .ended, c :: cs =>
    if c == ' ' || c == '\t' then readValue .ended cs
    else if c == '#' then some []
    else none

/-! ## Assignments -/

/-- A name and its value, in which references are still open. -/
structure Assignment where
  name : String
  value : List Piece
deriving DecidableEq, Repr

/-- Reads a name: a letter or underscore, then letters, digits, underscores and dots. -/
def readName : List Char → Option (String × List Char)
  | [] => none
  | c :: cs =>
    if c.isAlpha || c == '_' then
      let inName (c : Char) : Bool := c.isAlphanum || c == '_' || c == '.'
      some (String.ofList (c :: cs.takeWhile inName), cs.dropWhile inName)
    else none

/-- Reads a name and the equals sign behind it.  The word `export` may stand in front. -/
def readTarget (cs : List Char) : Option (String × List Char) := do
  let (name, cs) ← readName cs
  match Text.trimStart cs with
  | '=' :: cs => some (name, cs)
  | cs =>
    if name = "export" then
      let (name, cs) ← readName cs
      match Text.trimStart cs with
      | '=' :: cs => some (name, cs)
      | _ => none
    else none

/-- Reads a line: none if it is not well formed, and otherwise the assignment it may hold. -/
def readLine (line : List Char) : Option (Option Assignment) :=
  match Text.trim line with
  | [] => some none
  | '#' :: _ => some none
  | cs => do
    let (name, cs) ← readTarget cs
    match Text.trimStart cs with
    | [] => some (some ⟨name, []⟩)
    | '#' :: _ => some (some ⟨name, []⟩)
    | cs => some (some ⟨name, ← readValue .plain cs⟩)

/-- The assignments in front of the first line that is not well formed. -/
def wellFormedPart : List (Option (List Char)) → List Assignment
  | [] => []
  | none :: _ => []
  | some line :: lines =>
    match readLine line with
    | none => []
    | some none => wellFormedPart lines
    | some (some assignment) => assignment :: wellFormedPart lines

/-- The assignments of a file, in order.  A mark of the byte order in front is skipped. -/
def ofText (text : String) : List Assignment :=
  let cs := match text.toList with
    | '\ufeff' :: cs => cs
    | cs => cs
  wellFormedPart (joinLines [] .outside (splitLines [] cs))

/-! ## Variables -/

section

variable {m : Type → Type} [Monad m]

/-- The value under some name: of a variable that was there before, or of one in `added`. -/
def lookup (before : String → m (Option String)) (added : Environment) (name : String) :
    m (Option String) := do
  match ← before name with
  | some value => pure (some value)
  | none => pure (added.valueOf? name)

/-- The text of a value; variables that are not set have none. -/
def expand (getVariable : String → m (Option String)) : List Piece → m String
  | [] => pure ""
  | .letter c :: pieces => do pure (String.singleton c ++ (← expand getVariable pieces))
  | .reference name :: pieces => do
    let value ← getVariable name
    pure (value.getD "" ++ (← expand getVariable pieces))

/-- The variables that assignments add, one after the other, to those that were there before; none
    if one of them cannot be held. -/
def addAll (before : String → m (Option String)) (added : Environment) :
    List Assignment → m (Option Environment)
  | [] => pure (some added)
  | assignment :: rest => do
    let value ← expand (lookup before added) assignment.value
    match ← lookup before added assignment.name with
    | some _ => addAll before added rest
    | none =>
      if Variable.isHoldable value then addAll before (added ++ [⟨assignment.name, value⟩]) rest
      else pure none

end

end PlayStation.Dotenv
