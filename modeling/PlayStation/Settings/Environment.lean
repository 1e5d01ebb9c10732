/-
  The ENVIRONMENT of a run: variables that are set.

  A variable is held as one text, NAME=value, and it is found by comparing a name and an equals
  sign with the beginning of that text.  So a variable answers to its own name, and also to longer
  names that its value goes on with: A=B=5 holds B=5 under the name A, and 5 under the name A=B.
  Of several variables that answer the first one counts.  Nothing answers to the empty name.
-/

namespace PlayStation

/-- What stands behind a beginning, exactly if the text begins so. -/
theorem isPrefixOf?_eq_some_iff (start rest text : List Char) :
    List.isPrefixOf? start text = some rest ↔ text = start ++ rest := by
  induction start generalizing text with
  | nil =>
    show some text = some rest ↔ _
    simp
  | cons c start ih =>
    cases text with
    | nil =>
      show none = some rest ↔ _
      simp
    | cons d text =>
      show (if c == d then List.isPrefixOf? start text else none) = some rest ↔ _
      by_cases h : c = d
      · simp [h, ih]
      · simp [h, Ne.symm h]

/-- A variable that is set. -/
structure Variable where
  name : String
  value : String
deriving DecidableEq, Repr

namespace Variable

/-- The text that holds a variable. -/
def text (v : Variable) : List Char := v.name.toList ++ '=' :: v.value.toList

/-- The value that a variable has under some name. -/
def valueAs? (v : Variable) (name : String) : Option String :=
  (List.isPrefixOf? (name.toList ++ ['=']) v.text).map String.ofList

/-- A variable has a value under a name exactly if one text holds it and the variable of that name
    and value. -/
theorem valueAs?_eq_some_iff (v : Variable) (name value : String) :
    v.valueAs? name = some value ↔ v.text = Variable.text ⟨name, value⟩ := by
  rw [valueAs?, Option.map_eq_some_iff]
  constructor
  · rintro ⟨rest, h, rfl⟩
    rw [(isPrefixOf?_eq_some_iff _ _ _).1 h]
    simp [text]
  · intro h
    exact ⟨value.toList, (isPrefixOf?_eq_some_iff _ _ _).2 (by rw [h]; simp [text]), by simp⟩

/-- A value can be held: the character with the code zero would end the text. -/
def isHoldable (value : String) : Bool := value.toList.all fun c => c != '\x00'

end Variable

/-- The variables that are set, from first to last. -/
abbrev Environment := List Variable

/-- The value under some name. -/
def Environment.valueOf? (e : Environment) (name : String) : Option String :=
  if name.isEmpty then none else e.findSome? fun v => v.valueAs? name

end PlayStation
