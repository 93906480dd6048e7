import PageClip.Node.Attribute
import PageClip.Proofs.Build
import PageClip.Proofs.Text.Blank

/-!
# Numerals that can be read

A text may begin with an integer that is refused all the same: it has too many digits, or
one of the separators U+001C to U+001F stands in front of it. `readInteger?_isSome_iff`
says that there is no other reason.
-/

namespace PageClip

namespace Text

theorem isBlank_of_isDecimal {c : Char} (decimal : isDecimal c) : isBlank c = false := by
  have each : ∀ start ∈ zeroDigits, ∀ value < 10, isBlank (Char.ofNat (start + value)) = false := by
    decide +kernel
  obtain ⟨start, found⟩ := Option.isSome_iff_exists.mp (Option.isSome_map.symm.trans decimal)
  have inRun := List.find?_some found
  simp only [Bool.and_eq_true, decide_eq_true_eq] at inRun
  have here := each start (List.mem_of_find?_eq_some found) (c.toNat - start) (by omega)
  rwa [Nat.add_sub_cancel' inRun.1, Char.ofNat_toNat] at here

theorem not_isDecimal_of_isBlank {c : Char} (blank : isBlank c) : isDecimal c = false := by
  cases decimal : isDecimal c with
  | false => rfl
  | true => exact absurd blank (by simp [isBlank_of_isDecimal decimal])

end Text

namespace Decimal

open Text

/-! ### Runs of digits -/

variable {digits : Text}

theorem length_digitValues? (solid : digits ≠ []) (decimal : ∀ c ∈ digits, isDecimal c) :
    ∃ values, digitValues? digits = some values ∧ values.length = digits.length := by
  induction digits with
  | nil => exact absurd rfl solid
  | cons c rest ih =>
    obtain ⟨here, later⟩ := List.forall_mem_cons.mp decimal
    obtain ⟨value, valued⟩ := Option.isSome_iff_exists.mp here
    cases rest with
    | nil => exact ⟨[value], by simp [digitValues?, valued], rfl⟩
    | cons next rest =>
      obtain ⟨values, read, length⟩ := ih (List.cons_ne_nil next rest) later
      have digit : next ≠ '_' := by
        rintro rfl
        exact absurd (later '_' List.mem_cons_self) (by decide)
      refine ⟨value :: values, ?_, congrArg Nat.succ length⟩
      rw [digitValues?]
      · simp only [valued, read]
      · simp
      · intro tail same
        exact digit (List.cons.inj same).1

theorem readNatural?_isSome_iff (solid : digits ≠ []) (decimal : ∀ c ∈ digits, isDecimal c) :
    (readNatural? digits).isSome ↔ digits.length ≤ longest := by
  obtain ⟨values, read, length⟩ := length_digitValues? solid decimal
  rw [readNatural?, read, ← length]
  by_cases short : values.length ≤ longest <;> simp [short]

theorem readNatural?_of_not_isDecimal {c : Char} (other : isDecimal c = false) (rest : Text) :
    readNatural? (c :: rest) = none := by
  have noDigit : digitValue? c = none := by simpa [isDecimal] using other
  have noValues : digitValues? (c :: rest) = none := by
    unfold digitValues?
    split <;> simp_all
  rw [readNatural?, noValues]

/-! ### Signs and blanks -/

def IsSign (sign : Text) : Prop := sign = [] ∨ sign = ['-'] ∨ sign = ['+']

/-- One of the separators U+001C to U+001F, which are blanks but not around a numeral. -/
def isSeparator (c : Char) : Bool := 0x1c ≤ c.toNat && c.toNat ≤ 0x1f

theorem isNumeralBlank_of_isBlank {c : Char} (blank : isBlank c) :
    isNumeralBlank c = !isSeparator c := by
  rw [isNumeralBlank, blank, Bool.true_and, isSeparator]

theorem isNumeralBlank_of_isDecimal {c : Char} (decimal : isDecimal c) :
    isNumeralBlank c = false := by
  rw [isNumeralBlank, isBlank_of_isDecimal decimal, Bool.false_and]

theorem dropWhile_reverse_digits (solid : digits ≠ []) (decimal : ∀ c ∈ digits, isDecimal c)
    (front : Text) :
    ((front ++ digits).reverse.dropWhile isNumeralBlank).reverse = front ++ digits := by
  have last := isNumeralBlank_of_isDecimal (decimal _ (List.getLast_mem solid))
  rw [← List.dropLast_concat_getLast solid, ← List.append_assoc, List.reverse_append,
    List.reverse_singleton, List.singleton_append, List.dropWhile_cons_of_neg (by simp [last])]
  simp

/-- An integer of a sign and digits is read unless it has too many digits. -/
theorem readInteger?_bare {sign : Text} (signed : IsSign sign) (solid : digits ≠ [])
    (decimal : ∀ c ∈ digits, isDecimal c) :
    (readInteger? (sign ++ digits)).isSome ↔ digits.length ≤ longest := by
  obtain ⟨c, rest, rfl⟩ := List.exists_cons_of_ne_nil solid
  have first := decimal c List.mem_cons_self
  have front : (sign ++ c :: rest).dropWhile isNumeralBlank = sign ++ c :: rest := by
    rcases signed with rfl | rfl | rfl
    · rw [List.nil_append, List.dropWhile_cons_of_neg (by simp [isNumeralBlank_of_isDecimal first])]
    · exact List.dropWhile_cons_of_neg (by decide)
    · exact List.dropWhile_cons_of_neg (by decide)
  have notSign : c ≠ '-' ∧ c ≠ '+' := by
    refine ⟨?_, ?_⟩ <;> rintro rfl <;> exact absurd first (by decide)
  rw [readInteger?, front, dropWhile_reverse_digits solid decimal, ← readNatural?_isSome_iff solid decimal]
  rcases signed with rfl | rfl | rfl
  · rw [List.nil_append]
    split
    · next eq => exact absurd (List.cons.inj eq).1 notSign.1
    · next eq => exact absurd (List.cons.inj eq).1 notSign.2
    · cases readNatural? (c :: rest) <;> exact Iff.rfl
  · simp only [List.singleton_append]
    cases readNatural? (c :: rest) <;> exact Iff.rfl
  · simp only [List.singleton_append]
    cases readNatural? (c :: rest) <;> exact Iff.rfl

theorem readInteger?_isSome_iff {blanks sign : Text} (blank : AllBlank blanks)
    (signed : IsSign sign) (solid : digits ≠ []) (decimal : ∀ c ∈ digits, isDecimal c) :
    (readInteger? (blanks ++ sign ++ digits)).isSome ↔
      (∀ c ∈ blanks, isSeparator c = false) ∧ digits.length ≤ longest := by
  induction blanks with
  | nil => simp [readInteger?_bare signed solid decimal]
  | cons c blanks ih =>
    obtain ⟨here, later⟩ := List.forall_mem_cons.mp blank
    rw [List.forall_mem_cons, and_assoc]
    cases separator : isSeparator c with
    | false =>
      have skipped : isNumeralBlank c := by rw [isNumeralBlank_of_isBlank here, separator]; rfl
      have same : readInteger? (c :: (blanks ++ sign ++ digits)) =
          readInteger? (blanks ++ sign ++ digits) := by
        rw [readInteger?, readInteger?, List.dropWhile_cons_of_pos skipped]
      simp only [List.cons_append, same, ih later, true_and]
    | true =>
      -- The separator stays in front, where neither a sign nor a digit is.
      have kept : isNumeralBlank c = false := by rw [isNumeralBlank_of_isBlank here, separator]; rfl
      have notSign : c ≠ '-' ∧ c ≠ '+' := by
        refine ⟨?_, ?_⟩ <;> rintro rfl <;> exact absurd here (by decide)
      have refused : readInteger? (c :: (blanks ++ sign) ++ digits) = none := by
        rw [readInteger?, List.cons_append, List.dropWhile_cons_of_neg (by simp [kept]),
          ← List.cons_append, dropWhile_reverse_digits solid decimal, List.cons_append]
        split
        · next eq => exact absurd (List.cons.inj eq).1 notSign.1
        · next eq => exact absurd (List.cons.inj eq).1 notSign.2
        · rw [readNatural?_of_not_isDecimal (not_isDecimal_of_isBlank here)]
          rfl
      rw [List.cons_append, refused]
      simp

/-! ### Integers in front of a text -/

/-- A text that begins with an integer: blanks, a sign or none, and all digits that follow. -/
structure Begins (text blanks sign digits : Text) : Prop where
  blank : AllBlank blanks
  signed : IsSign sign
  solid : digits ≠ []
  decimal : ∀ c ∈ digits, isDecimal c
  written : ∃ rest, text = blanks ++ sign ++ digits ++ rest ∧ ∀ c ∈ rest.head?, isDecimal c = false

theorem takeWhile_digits {rest : Text} (decimal : ∀ c ∈ digits, isDecimal c)
    (ends : ∀ c ∈ rest.head?, isDecimal c = false) :
    (digits ++ rest).takeWhile isDecimal = digits := by
  rw [List.takeWhile_append_of_pos decimal]
  cases rest with
  | nil => rw [List.takeWhile_nil, List.append_nil]
  | cons c rest =>
    rw [List.takeWhile_cons_of_neg (by simp [ends c rfl]), List.append_nil]

/-- The sign at the front of a text, and what follows it. -/
def splitSign : Text → Text × Text
  | '-' :: rest => (['-'], rest)
  | '+' :: rest => (['+'], rest)
  | text => ([], text)

theorem splitSign_parts (text : Text) :
    IsSign (splitSign text).1 ∧ text = (splitSign text).1 ++ (splitSign text).2 := by
  unfold splitSign
  split
  · exact ⟨.inr (.inl rfl), rfl⟩
  · exact ⟨.inr (.inr rfl), rfl⟩
  · exact ⟨.inl rfl, rfl⟩

theorem splitSign_append {sign : Text} (signed : IsSign sign) {c : Char} (decimal : isDecimal c)
    (rest : Text) : splitSign (sign ++ c :: rest) = (sign, c :: rest) := by
  rcases signed with rfl | rfl | rfl
  · rw [List.nil_append, splitSign]
    · intro _ eq
      rw [(List.cons.inj eq).1] at decimal
      exact absurd decimal (by decide)
    · intro _ eq
      rw [(List.cons.inj eq).1] at decimal
      exact absurd decimal (by decide)
  · rfl
  · rfl

theorem leadingNumeral?_eq (text : Text) :
    leadingNumeral? text =
      let split := splitSign (text.dropWhile isBlank)
      let digits := split.2.takeWhile isDecimal
      if digits.isEmpty then none else some (text.takeWhile isBlank ++ split.1 ++ digits) := by
  unfold leadingNumeral?
  dsimp only
  generalize text.dropWhile isBlank = unblanked
  split
  · rfl
  · rfl
  · next noMinus noPlus =>
    rw [splitSign]
    · exact noMinus
    · exact noPlus

theorem Begins.leadingNumeral? {text blanks sign : Text} (h : Begins text blanks sign digits) :
    leadingNumeral? text = some (blanks ++ sign ++ digits) := by
  obtain ⟨rest, rfl, ends⟩ := h.written
  obtain ⟨c, tail, rfl⟩ := List.exists_cons_of_ne_nil h.solid
  have first := h.decimal c List.mem_cons_self
  have all := takeWhile_digits h.decimal ends
  -- Neither a sign nor a digit is blank.
  obtain ⟨d, behind, next, solid⟩ : ∃ d behind, sign ++ (c :: tail ++ rest) = d :: behind ∧
      isBlank d = false := by
    rcases h.signed with rfl | rfl | rfl
    · exact ⟨_, _, rfl, isBlank_of_isDecimal first⟩
    · exact ⟨_, _, rfl, by decide⟩
    · exact ⟨_, _, rfl, by decide⟩
  rw [leadingNumeral?_eq, List.append_assoc, List.append_assoc, next,
    List.takeWhile_append_of_pos h.blank, List.dropWhile_append_of_pos h.blank,
    List.takeWhile_cons_of_neg (by simp [solid]), List.dropWhile_cons_of_neg (by simp [solid]),
    ← next, List.cons_append, splitSign_append h.signed first, ← List.cons_append]
  dsimp only
  rw [all]
  simp

theorem exists_begins {text shown : Text} (h : leadingNumeral? text = some shown) :
    ∃ blanks sign digits, Begins text blanks sign digits ∧ shown = blanks ++ sign ++ digits := by
  obtain ⟨signed, parts⟩ := splitSign_parts (text.dropWhile isBlank)
  rw [leadingNumeral?_eq] at h
  generalize splitSign (text.dropWhile isBlank) = split at h signed parts
  obtain ⟨sign, unsigned⟩ := split
  dsimp only at h signed parts
  split at h
  · cases h
  · next solid =>
    refine ⟨_, sign, unsigned.takeWhile isDecimal, ?_, (Option.some.inj h).symm⟩
    refine ⟨fun c member => List.mem_takeWhile_imp member, signed, by simpa using solid,
      fun c member => List.mem_takeWhile_imp member, unsigned.dropWhile isDecimal, ?_, ?_⟩
    · rw [List.append_assoc, List.takeWhile_append_dropWhile, List.append_assoc, ← parts,
        List.takeWhile_append_dropWhile]
    · intro c first
      have stops := List.head?_dropWhile_not isDecimal unsigned
      rw [Option.mem_def.mp first] at stops
      simpa using stops

/-- A text that does not begin with an integer that is refused. -/
def Readable (text : Text) : Prop :=
  ∀ blanks sign digits, Begins text blanks sign digits →
    (∀ c ∈ blanks, isSeparator c = false) ∧ digits.length ≤ longest

theorem readable_iff {text : Text} :
    Readable text ↔ ∀ shown, leadingNumeral? text = some shown → (readInteger? shown).isSome := by
  constructor
  · intro readable shown h
    obtain ⟨blanks, sign, digits, begins, rfl⟩ := exists_begins h
    exact (readInteger?_isSome_iff begins.blank begins.signed begins.solid begins.decimal).mpr
      (readable _ _ _ begins)
  · intro read blanks sign digits begins
    exact (readInteger?_isSome_iff begins.blank begins.signed begins.solid begins.decimal).mp
      (read _ begins.leadingNumeral?)

end Decimal

theorem leadingInteger_valueWhere (value : String) (fallback : Int) :
    ValueWhere .unreadableInteger (Decimal.Readable value.toList)
      (leadingInteger value fallback) := by
  rw [Decimal.readable_iff]
  unfold leadingInteger
  cases Decimal.leadingNumeral? value.toList with
  | none => exact .inl ⟨by simp, fallback, rfl⟩
  | some shown =>
    dsimp only
    split
    · next refused => exact .inr ⟨by simp [refused], rfl⟩
    · next read => exact .inl ⟨by simp [read], fallback, rfl⟩
    · next n _ read => exact .inl ⟨by simp [read], n, rfl⟩

end PageClip
