/-
  TABLES: a fixed number of entries, numbered from zero.

  A table is a vector whose entries are addressed by `Fin`, so that an access needs no bounds check
  and no bounds proof.  Two laws say all there is: an entry that was put is there, and the others
  are what they were.
-/

namespace PlayStation

universe u

variable {α : Type u} {n : Nat}

/-- A table of `n` entries. -/
abbrev Table (α : Type u) (n : Nat) := Vector α n

namespace Table

/-- The entry of a number. -/
@[inline] def entry (t : Table α n) (i : Fin n) : α := Vector.get t i

/-- The table with one entry replaced. -/
@[inline] def put (t : Table α n) (i : Fin n) (value : α) : Table α n :=
  Vector.set t i.val value i.isLt

@[simp] theorem entry_put_self (t : Table α n) (i : Fin n) (value : α) :
    (t.put i value).entry i = value :=
  Vector.getElem_set_self i.isLt

theorem entry_put_of_ne (t : Table α n) {i j : Fin n} (value : α) (h : i ≠ j) :
    (t.put i value).entry j = t.entry j :=
  Vector.getElem_set_ne i.isLt j.isLt fun e => h (Fin.ext e)

@[simp] theorem entry_replicate (value : α) (i : Fin n) :
    entry (Vector.replicate n value) i = value :=
  Vector.getElem_replicate i.isLt

@[simp] theorem entry_map {β : Type u} (f : α → β) (t : Table α n) (i : Fin n) :
    entry (Vector.map f t) i = f (t.entry i) :=
  Vector.getElem_map f i.isLt

@[simp] theorem entry_zipWith {β γ : Type u} (f : α → β → γ) (t : Table α n) (u : Table β n)
    (i : Fin n) : entry (Vector.zipWith f t u) i = f (t.entry i) (u.entry i) :=
  Vector.getElem_zipWith i.isLt

/-- Tables with the same entries are the same. -/
theorem ext_entry {t u : Table α n} (h : ∀ i, t.entry i = u.entry i) : t = u := by
  apply Vector.ext
  intro i hi
  exact h ⟨i, hi⟩

end Table

end PlayStation
