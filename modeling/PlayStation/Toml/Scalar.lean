/-
  SCALARS of a TOML document: strings in four notations, numbers and truth values.

    "basic"        with escapes, on one line
    'literal'      as it is, on one line
    """basic"""    with escapes, over several lines
    '''literal'''  as it is, over several lines

  A line break right behind the opening quotes of the long notations is not part of the text.  In
  the long basic notation a backslash at the end of a line swallows all white space up to the next
  character.  The closing quotes may follow one or two quotes that are text.
-/
import PlayStation.Toml.Tree

namespace PlayStation.Toml

/-- The character may stand in text and comments: no control character but the tab. -/
def isTextChar (c : Char) : Bool := c == '\t' || (0x20 ≤ c.toNat && c.toNat != 0x7F)

/-- The white space that stands within a line. -/
def isInlineBlank (c : Char) : Bool := c == ' ' || c == '\t'

/-! ## Numbers -/

/-- The value of a digit in some base up to sixteen. -/
def digit? (base : Nat) (c : Char) : Option Nat :=
  let value :=
    if '0' ≤ c && c ≤ '9' then c.toNat - 48
    else if 'a' ≤ c && c ≤ 'f' then c.toNat - 87
    else if 'A' ≤ c && c ≤ 'F' then c.toNat - 55
    else base
  if value < base then some value else none

/-- Reads digits on from `value`.  An underscore stands between two digits only. -/
def digits? (base value : Nat) (afterDigit : Bool) : List Char → Option Nat
  | [] => if afterDigit then some value else none
  | '_' :: cs => if afterDigit then digits? base value false cs else none
  | c :: cs => do
    let d ← digit? base c
    digits? base (base * value + d) true cs

/-- A decimal number has no leading zeros. -/
def decimal? : List Char → Option Nat
  | '0' :: _ :: _ => none
  | cs => digits? 10 0 false cs

/-- A number; only decimal ones have signs. -/
def integer? : List Char → Option Int
  | '0' :: 'x' :: cs => (digits? 16 0 false cs).map Int.ofNat
  | '0' :: 'o' :: cs => (digits? 8 0 false cs).map Int.ofNat
  | '0' :: 'b' :: cs => (digits? 2 0 false cs).map Int.ofNat
  | '+' :: cs => (decimal? cs).map Int.ofNat
  | '-' :: cs => (decimal? cs).map fun n => -Int.ofNat n
  | cs => (decimal? cs).map Int.ofNat

/-- The character may be part of a number or a word. -/
def isAtomChar (c : Char) : Bool :=
  c.isAlphanum || c == '_' || c == '+' || c == '-' || c == '.' || c == ':'

/-- Reads a number or a truth value. -/
def readAtom (cs : List Char) : Option (Tree × List Char) :=
  let atom := cs.takeWhile isAtomChar
  let value : Option Tree :=
    if atom = ['t', 'r', 'u', 'e'] then some (.truth true)
    else if atom = ['f', 'a', 'l', 's', 'e'] then some (.truth false)
    else (integer? atom).map .integer
  value.map fun value => (value, cs.dropWhile isAtomChar)

/-! ## Escapes -/

/-- The character with the code point that `count` hexadecimal digits give. -/
def codePoint? (count : Nat) (cs : List Char) : Option Char := do
  let digits := cs.take count
  if digits.length < count then none
  else
    let n ← digits.foldlM (fun n c => (digit? 16 c).map (16 * n + ·)) 0
    if h : n.isValidChar then some (Char.ofNatAux n h) else none

/-- The character that the text behind a backslash stands for, and how long that text is. -/
def escape? : List Char → Option (Char × Nat)
  | [] => none
  | c :: cs =>
    match c with
    | 'b' => some ('\x08', 1)
    | 't' => some ('\t', 1)
    | 'n' => some ('\n', 1)
    | 'f' => some ('\x0c', 1)
    | 'r' => some ('\r', 1)
    | 'e' => some ('\x1b', 1)
    | '\\' => some ('\\', 1)
    | '\x22' => some ('\x22', 1)
    | 'x' => (codePoint? 2 cs).map (·, 3)
    | 'u' => (codePoint? 4 cs).map (·, 5)
    | 'U' => (codePoint? 8 cs).map (·, 9)
    | _ => none

/-! ## Strings on one line -/

/-- Reads a basic string behind its opening quote; `text` holds what was read, backwards. -/
def readBasic (text : List Char) : List Char → Option (String × List Char)
  | [] => none
  | c :: cs =>
    if c == '\x22' then some (String.ofList text.reverse, cs)
    else if c == '\\' then
      match escape? cs with
      | none => none
      | some (escaped, used) => readBasic (escaped :: text) (cs.drop used)
    else if isTextChar c then readBasic (c :: text) cs
    else none
termination_by cs => cs.length
decreasing_by all_goals (simp only [List.length_cons, List.length_drop]; omega)

/-- Reads a literal string behind its opening quote. -/
def readLiteral (text : List Char) : List Char → Option (String × List Char)
  | [] => none
  | c :: cs =>
    if c == '\x27' then some (String.ofList text.reverse, cs)
    else if isTextChar c then readLiteral (c :: text) cs
    else none

/-! ## Strings over several lines -/

/-- The input without a line break at its start. -/
def dropLineBreak : List Char → List Char
  | '\n' :: cs => cs
  | '\r' :: '\n' :: cs => cs
  | cs => cs

/-- The length of the white space, line breaks included, that the input starts with. -/
def gapLength : List Char → Nat
  | '\r' :: '\n' :: cs => gapLength cs + 2
  | c :: cs => if isInlineBlank c || c == '\n' then gapLength cs + 1 else 0
  | [] => 0

/-- The length of what a backslash at the end of a line swallows, if it is at the end of one. -/
def swallowed? (cs : List Char) : Option Nat :=
  match cs.dropWhile isInlineBlank with
  | '\n' :: _ => some (gapLength cs)
  | '\r' :: '\n' :: _ => some (gapLength cs)
  | _ => none

/-- What a run of quotes is: text, or the end of the text behind up to two quotes of it. -/
def closing? (quote : Char) (text cs : List Char) : Option (String × List Char) :=
  let run := min 5 (cs.takeWhile (· == quote)).length
  if run < 3 then none
  else some (String.ofList (text.reverse ++ List.replicate (run - 3) quote), cs.drop run)

/-- Reads a basic string of several lines behind its opening quotes. -/
def readLongBasic (text : List Char) : List Char → Option (String × List Char)
  | [] => none
  | c :: cs =>
    if c == '\x22' then
      match closing? '\x22' text (c :: cs) with
      | some reading => some reading
      | none => readLongBasic (c :: text) cs
    else if c == '\\' then
      match swallowed? cs, escape? cs with
      | some length, _ => readLongBasic text (cs.drop length)
      | none, some (escaped, used) => readLongBasic (escaped :: text) (cs.drop used)
      | none, none => none
    else if c == '\n' || isTextChar c then readLongBasic (c :: text) cs
    else if c == '\r' && cs.head? == some '\n' then readLongBasic (c :: text) cs
    else none
termination_by cs => cs.length
decreasing_by all_goals (simp only [List.length_cons, List.length_drop]; omega)

/-- Reads a literal string of several lines behind its opening quotes. -/
def readLongLiteral (text : List Char) : List Char → Option (String × List Char)
  | [] => none
  | c :: cs =>
    if c == '\x27' then
      match closing? '\x27' text (c :: cs) with
      | some reading => some reading
      | none => readLongLiteral (c :: text) cs
    else if c == '\n' || isTextChar c then readLongLiteral (c :: text) cs
    else if c == '\r' && cs.head? == some '\n' then readLongLiteral (c :: text) cs
    else none

end PlayStation.Toml
