/-
  VARIABLES that override settings.

  Three variables override a setting each.  Two of them are taken as they are; the third is a number
  and can be wrong.  They are taken in turn, and a number that is wrong stops it between the first
  and the last of them.

  1. **Blanks** (`trim_eq_iff`): what is left of a text without the blanks at its ends.

  2. **Numbers** (`ticksOfText?_trim_iff`): the texts that are tick counts, and what they count, by
     the value of their digits in base ten.

  3. **Overriding** (`applyVars_cases`): either every setting has the value of its variable, or the
     value it had; or the count is wrong, and then the path of the BIOS image has been overridden
     and nothing else.
-/
import Mathlib.Data.List.Induction
import Mathlib.Data.List.TakeWhile
import Mathlib.Data.Nat.Digits.Defs
import PlayStation.Settings.Basic

namespace PlayStation

/-! ## Blanks -/

namespace Text

theorem trimStart_append_of_blank {before rest : List Char}
    (hbefore : ∀ c ∈ before, isBlank c = true) :
    trimStart (before ++ rest) = trimStart rest := List.dropWhile_append_of_pos hbefore

/-- There is nothing to take from a text that begins with something else than a blank. -/
theorem trimStart_append_of_visible {core rest : List Char} (hsome : core ≠ [])
    (hcore : ∀ c ∈ core, isBlank c = false) : trimStart (core ++ rest) = core ++ rest := by
  cases core with
  | nil => exact absurd rfl hsome
  | cons c core =>
    have hfirst : ¬isBlank c = true := Bool.eq_false_iff.1 (hcore c List.mem_cons_self)
    exact List.dropWhile_cons_of_neg hfirst

/-- What is cut off in front is blank. -/
theorem exists_trimStart (cs : List Char) :
    ∃ before, (∀ c ∈ before, isBlank c = true) ∧ cs = before ++ trimStart cs :=
  ⟨cs.takeWhile isBlank, fun _ hc => List.mem_takeWhile_imp hc,
    List.takeWhile_append_dropWhile.symm⟩

theorem exists_trimEnd (cs : List Char) :
    ∃ after, (∀ c ∈ after, isBlank c = true) ∧ cs = trimEnd cs ++ after := by
  obtain ⟨before, hblank, hcs⟩ := exists_trimStart cs.reverse
  refine ⟨before.reverse, fun c hc => hblank c (List.mem_reverse.1 hc), ?_⟩
  rw [trimEnd, ← List.reverse_append, ← hcs, List.reverse_reverse]

/-- **A text without its blanks** is what stands between blanks, if there is no blank in it. -/
theorem trim_eq_iff {core : List Char} (hsome : core ≠ [])
    (hcore : ∀ c ∈ core, isBlank c = false) (text : List Char) :
    trim text = core ↔
      ∃ before after, text = before ++ core ++ after ∧
        (∀ c ∈ before, isBlank c = true) ∧ ∀ c ∈ after, isBlank c = true := by
  constructor
  · rintro rfl
    obtain ⟨before, hbefore, htext⟩ := exists_trimStart text
    obtain ⟨after, hafter, hrest⟩ := exists_trimEnd (trimStart text)
    refine ⟨before, after, ?_, hbefore, hafter⟩
    rw [List.append_assoc, trim, ← hrest, ← htext]
  · rintro ⟨before, after, rfl, hbefore, hafter⟩
    have hstart : trimStart (before ++ core ++ after) = core ++ after := by
      rw [List.append_assoc, trimStart_append_of_blank hbefore,
        trimStart_append_of_visible hsome hcore]
    have hback : trimStart (core ++ after).reverse = core.reverse := by
      have hsome' : core.reverse ≠ [] := fun h => hsome (List.reverse_eq_nil_iff.1 h)
      have hend : trimStart (core.reverse ++ []) = core.reverse ++ [] :=
        trimStart_append_of_visible hsome' fun c hc => hcore c (List.mem_reverse.1 hc)
      rw [List.append_nil] at hend
      rw [List.reverse_append,
        trimStart_append_of_blank fun c hc => hafter c (List.mem_reverse.1 hc), hend]
    rw [trim, hstart, trimEnd, hback, List.reverse_reverse]

end Text

/-! ## Numbers -/

open Text (isBlank)

/-- The number that decimal digits stand for, the first of them counting most. -/
def decimalValue (digits : List Char) : Nat :=
  Nat.ofDigits 10 (digits.reverse.map fun c => c.toNat - 48)

theorem decimalValue_concat (digits : List Char) (c : Char) :
    decimalValue (digits ++ [c]) = 10 * decimalValue digits + (c.toNat - 48) := by
  rw [decimalValue, List.reverse_concat, List.map_cons, Nat.ofDigits_cons, Nat.add_comm]
  rfl

theorem toNat_of_isDigit {c : Char} (h : c.isDigit = true) : 48 ≤ c.toNat ∧ c.toNat ≤ 57 :=
  Char.isDigit_iff_toNat.1 h

/-- The digits of base ten are what core calls digits. -/
theorem digit?_ten (c : Char) :
    Toml.digit? 10 c = if c.isDigit then some (c.toNat - 48) else none := by
  have hdigit : (decide ('0' ≤ c) && decide (c ≤ '9')) = c.isDigit := rfl
  unfold Toml.digit?
  rw [hdigit]
  by_cases h : c.isDigit = true
  · obtain ⟨hlow, hhigh⟩ := toNat_of_isDigit h
    have hlt : c.toNat - 48 < 10 := by omega
    rw [if_pos h, if_pos h]
    exact if_pos hlt
  · rw [if_neg h, if_neg h]
    apply if_neg
    -- the letters count ten or more
    split
    · next hletter =>
      have hlow : 97 ≤ c.toNat := of_decide_eq_true (Bool.and_eq_true_iff.1 hletter).1
      omega
    · split
      · next hletter =>
        have hlow : 65 ≤ c.toNat := of_decide_eq_true (Bool.and_eq_true_iff.1 hletter).1
        omega
      · exact Nat.lt_irrefl 10

theorem isBlank_of_isDigit {c : Char} (h : c.isDigit = true) : isBlank c = false := by
  obtain ⟨hlow, hhigh⟩ := toNat_of_isDigit h
  unfold isBlank
  simp only [Bool.or_eq_false_iff, Bool.and_eq_false_iff, decide_eq_false_iff_not,
    beq_eq_false_iff_ne]
  omega

/-- One digit more. -/
theorem map_digit?_eq_some_iff (front : Nat) (c : Char) (n : Nat) :
    (Toml.digit? 10 c).map (10 * front + ·) = some n ↔
      c.isDigit = true ∧ n = 10 * front + (c.toNat - 48) := by
  rw [digit?_ten]
  by_cases h : c.isDigit = true
  · rw [if_pos h, Option.map_some, Option.some.injEq, eq_comm, and_iff_right h]
  · rw [if_neg h]
    exact iff_of_false nofun fun hdigit => h hdigit.1

/-- **Digits are read** from the first to the last. -/
theorem foldlM_digit?_eq_some_iff (digits : List Char) (n : Nat) :
    digits.foldlM (fun n c => (Toml.digit? 10 c).map (10 * n + ·)) 0 = some n ↔
      (∀ c ∈ digits, c.isDigit = true) ∧ n = decimalValue digits := by
  -- the last digit is read last, so the induction takes it off
  induction digits using List.reverseRecOn generalizing n with
  | nil =>
    constructor
    · intro h
      exact ⟨fun c hc => absurd hc List.not_mem_nil, (Option.some.inj h).symm⟩
    · rintro ⟨-, rfl⟩
      rfl
  | append_singleton digits c ih =>
    rw [List.foldlM_append, decimalValue_concat, List.forall_mem_append, List.forall_mem_singleton]
    have hlast : ∀ front, [c].foldlM (fun n c => (Toml.digit? 10 c).map (10 * n + ·)) front =
        (Toml.digit? 10 c).map (10 * front + ·) := fun front => bind_pure _
    constructor
    · intro h
      obtain ⟨front, hfront, hn⟩ := Option.bind_eq_some_iff.1 h
      obtain ⟨hdigits, rfl⟩ := (ih front).1 hfront
      rw [hlast] at hn
      obtain ⟨hdigit, rfl⟩ := (map_digit?_eq_some_iff _ c n).1 hn
      exact ⟨⟨hdigits, hdigit⟩, rfl⟩
    · rintro ⟨⟨hdigits, hdigit⟩, rfl⟩
      rw [(ih _).2 ⟨hdigits, rfl⟩]
      exact (hlast _).trans ((map_digit?_eq_some_iff _ c _).2 ⟨hdigit, rfl⟩)

/-- A number with 64 bits in decimal digits, one at least, behind a plus sign or not. -/
def IsNumeral (cs : List Char) (n : Nat) : Prop :=
  ∃ sign digits, cs = sign ++ digits ∧ (sign = [] ∨ sign = ['+']) ∧ digits ≠ [] ∧
    (∀ c ∈ digits, c.isDigit = true) ∧ n = decimalValue digits ∧ n < UInt64.size

/-- A number between blanks. -/
def IsTickCount (text : List Char) (n : Nat) : Prop :=
  ∃ before core after, text = before ++ core ++ after ∧ (∀ c ∈ before, isBlank c = true) ∧
    (∀ c ∈ after, isBlank c = true) ∧ IsNumeral core n

theorem IsNumeral.ne_nil {cs : List Char} {n : Nat} (h : IsNumeral cs n) : cs ≠ [] := by
  obtain ⟨sign, digits, rfl, -, hsome, -⟩ := h
  exact fun hnil => hsome (List.append_eq_nil_iff.1 hnil).2

theorem IsNumeral.visible {cs : List Char} {n : Nat} (h : IsNumeral cs n) :
    ∀ c ∈ cs, isBlank c = false := by
  obtain ⟨sign, digits, rfl, hsign, -, hdigits, -⟩ := h
  intro c hc
  rcases List.mem_append.1 hc with hc | hc
  · rcases hsign with rfl | rfl
    · cases hc
    · rw [List.mem_singleton.1 hc]
      decide
  · exact isBlank_of_isDigit (hdigits c hc)

namespace Settings

/-- What is read behind the sign. -/
def ticksOfDigits? (digits : List Char) : Option Nat :=
  if digits.isEmpty then none
  else do
    let n ← digits.foldlM (fun n c => (Toml.digit? 10 c).map (10 * n + ·)) 0
    if n < UInt64.size then some n else none

theorem ticksOfDigits?_eq_some_iff (digits : List Char) (n : Nat) :
    ticksOfDigits? digits = some n ↔
      digits ≠ [] ∧ (∀ c ∈ digits, c.isDigit = true) ∧ n = decimalValue digits ∧
        n < UInt64.size := by
  unfold ticksOfDigits?
  by_cases hnil : digits = []
  · rw [if_pos (List.isEmpty_iff.2 hnil)]
    exact iff_of_false nofun fun h => h.1 hnil
  · rw [if_neg fun hempty => hnil (List.isEmpty_iff.1 hempty), and_iff_right hnil, ← and_assoc,
      ← foldlM_digit?_eq_some_iff]
    constructor
    · intro h
      obtain ⟨m, hread, hfits⟩ := Option.bind_eq_some_iff.1 h
      obtain ⟨hlt, hm⟩ := (Option.ite_none_right_eq_some).1 hfits
      obtain rfl := Option.some.inj hm
      exact ⟨hread, hlt⟩
    · rintro ⟨hread, hlt⟩
      exact Option.bind_eq_some_iff.2 ⟨n, hread, if_pos hlt⟩

theorem ticksOfText?_eq_some_iff (cs : List Char) (n : Nat) :
    ticksOfText? cs = some n ↔ IsNumeral cs n := by
  constructor
  · intro h
    have hsigned : ∃ sign digits, cs = sign ++ digits ∧ (sign = [] ∨ sign = ['+']) ∧
        ticksOfDigits? digits = some n := by
      unfold ticksOfText? at h
      split at h
      · exact ⟨['+'], _, rfl, .inr rfl, h⟩
      · exact ⟨[], cs, rfl, .inl rfl, h⟩
    obtain ⟨sign, digits, hcs, hsign, hread⟩ := hsigned
    exact ⟨sign, digits, hcs, hsign, (ticksOfDigits?_eq_some_iff digits n).1 hread⟩
  · rintro ⟨sign, digits, rfl, hsign, hnumber⟩
    have hread := (ticksOfDigits?_eq_some_iff digits n).2 hnumber
    rcases hsign with rfl | rfl
    · -- a plus sign is no digit
      have hplus : ∀ rest, digits ≠ '+' :: rest := by
        rintro rest rfl
        exact absurd (hnumber.2.1 '+' List.mem_cons_self) (by decide)
      unfold ticksOfText?
      split
      · next rest hdigits => exact absurd hdigits (hplus rest)
      · exact hread
    · exact hread

/-- **The texts that are tick counts**, once the blanks are off. -/
theorem ticksOfText?_trim_iff (text : List Char) (n : Nat) :
    ticksOfText? (Text.trim text) = some n ↔ IsTickCount text n := by
  constructor
  · intro h
    have hnumeral := (ticksOfText?_eq_some_iff _ n).1 h
    obtain ⟨before, after, htext, hbefore, hafter⟩ :=
      (Text.trim_eq_iff hnumeral.ne_nil hnumeral.visible text).1 rfl
    exact ⟨before, _, after, htext, hbefore, hafter, hnumeral⟩
  · rintro ⟨before, core, after, htext, hbefore, hafter, hnumeral⟩
    have htrim : Text.trim text = core :=
      (Text.trim_eq_iff hnumeral.ne_nil hnumeral.visible text).2
        ⟨before, after, htext, hbefore, hafter⟩
    rw [htrim]
    exact (ticksOfText?_eq_some_iff core n).2 hnumeral

/-! ## Overriding -/

/-- The settings `t` are `s` with every variable that is set in the place of its setting. -/
structure Overridden (s : Settings) (lookup : String → Option String) (t : Settings) : Prop where
  bios : t.bios = (lookup "PSX_BIOS").or s.bios
  maxTicks : (lookup "PSX_MAX_TICKS" = none ∧ t.maxTicks = s.maxTicks) ∨
    ∃ text n, lookup "PSX_MAX_TICKS" = some text ∧ IsTickCount text.toList n ∧
      t.maxTicks = some n
  logLevel : t.logLevel = (lookup "PSX_LOG").getD s.logLevel
  videoMode : t.videoMode = s.videoMode
  dumpState : t.dumpState = s.dumpState

/-- The settings with the path of the BIOS image overridden. -/
def withBios (s : Settings) (lookup : String → Option String) : Settings :=
  { s with bios := (lookup "PSX_BIOS").or s.bios }

/-- The settings with the log level overridden. -/
def withLogLevel (s : Settings) (lookup : String → Option String) : Settings :=
  { s with logLevel := (lookup "PSX_LOG").getD s.logLevel }

variable (s : Settings) (lookup : String → Option String)

/-- Overriding by the value that is there changes nothing. -/
theorem withBios_eq_self_iff :
    s.withBios lookup = s ↔ lookup "PSX_BIOS" = none ∨ lookup "PSX_BIOS" = s.bios := by
  constructor
  · intro hsame
    have hbios : (lookup "PSX_BIOS").or s.bios = s.bios := congrArg Settings.bios hsame
    cases hpath : lookup "PSX_BIOS" with
    | none => exact .inl rfl
    | some path =>
      rw [hpath] at hbios
      exact .inr hbios
  · unfold withBios
    rintro (hpath | hpath)
    · rw [hpath]
      rfl
    · rw [hpath, Option.or_self]

/-- The path and the log level are overridden around the count. -/
theorem applyVars_eq : s.applyVars lookup =
    match lookup "PSX_MAX_TICKS" with
    | none => .done ((s.withBios lookup).withLogLevel lookup)
    | some text =>
      match ticksOfText? (Text.trim text.toList) with
      | some n => .done (({ s.withBios lookup with maxTicks := some n }).withLogLevel lookup)
      | none =>
        .stopped (.configuration ("PSX_MAX_TICKS is not a tick count: " ++ Text.quoted text))
          (s.withBios lookup) := by
  unfold applyVars withBios withLogLevel
  cases lookup "PSX_BIOS" <;> cases lookup "PSX_LOG" <;> rfl

/-- **Overriding** succeeds as a whole, or a wrong count stops it behind the path of the BIOS image.
The settings are then what they were only if that path was not overridden by another one. -/
theorem applyVars_cases :
    ((s.applyVars lookup).fault = none ∧ s.Overridden lookup (s.applyVars lookup).state) ∨
    ∃ text, lookup "PSX_MAX_TICKS" = some text ∧ (∀ n, ¬IsTickCount text.toList n) ∧
      (s.applyVars lookup).fault =
        some (.configuration ("PSX_MAX_TICKS is not a tick count: " ++ Text.quoted text)) ∧
      (s.applyVars lookup).state = { s with bios := (lookup "PSX_BIOS").or s.bios } ∧
      ((s.applyVars lookup).state = s ↔
        lookup "PSX_BIOS" = none ∨ lookup "PSX_BIOS" = s.bios) := by
  have happly := s.applyVars_eq lookup
  cases hticks : lookup "PSX_MAX_TICKS" with
  | none =>
    rw [hticks] at happly
    rw [happly]
    exact .inl ⟨rfl, rfl, .inl ⟨hticks, rfl⟩, rfl, rfl, rfl⟩
  | some text =>
    rw [hticks] at happly
    cases hread : ticksOfText? (Text.trim text.toList) with
    | some n =>
      have hcount : IsTickCount text.toList n := (ticksOfText?_trim_iff _ n).1 hread
      simp only [hread] at happly
      rw [happly]
      exact .inl ⟨rfl, rfl, .inr ⟨text, n, hticks, hcount, rfl⟩, rfl, rfl, rfl⟩
    | none =>
      have hwrong : ∀ n, ¬IsTickCount text.toList n := by
        intro n hcount
        rw [(ticksOfText?_trim_iff _ n).2 hcount] at hread
        cases hread
      simp only [hread] at happly
      rw [happly]
      exact .inr ⟨text, rfl, hwrong, rfl, rfl, s.withBios_eq_self_iff lookup⟩

/-- So the settings are not left as they were: here the BIOS image is another one. -/
theorem bios_of_wrongCount :
    let s : Settings := { bios := some "a.bin" }
    let lookup := fun name =>
      if name = "PSX_BIOS" then some "b.bin"
      else if name = "PSX_MAX_TICKS" then some "lots" else none
    (s.applyVars lookup).fault ≠ none ∧ (s.applyVars lookup).state.bios = some "b.bin" ∧
      (s.applyVars lookup).state ≠ s := by
  decide

end Settings

end PlayStation
