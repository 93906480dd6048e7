import Mathlib.Data.List.Basic
import PageClip.Json.Printer
import PageClip.Json.Reader
import PageClip.Proofs.Table

/-!
# Reading what has been written

Reading a text that a value has been written as gives the value again, with the keys of its
objects in order, whatever the indentation. The value has no floating-point numbers and no
repeated keys (`isExact`).
-/

namespace PageClip

namespace Text

theorem ofDigits_eq_ofDigitChars {digits : Text} (decimal : ∀ c ∈ digits, c.isDigit = true)
    (start : Nat) : digits.foldl (fun n c => n * 10 + hexValue c) start =
      Nat.ofDigitChars 10 digits start := by
  induction digits generalizing start with
  | nil => rfl
  | cons c digits ih =>
    obtain ⟨here, later⟩ := List.forall_mem_cons.mp decimal
    rw [List.foldl_cons, ih later, Nat.ofDigitChars, Nat.ofDigitChars, List.foldl_cons, hexValue,
      if_pos here, Nat.mul_comm]

theorem isDigit_of_mem_toDigits {n : Nat} {c : Char} (member : c ∈ Nat.toDigits 10 n) :
    c.isDigit = true :=
  Nat.isDigit_of_mem_toDigits (by decide) (by decide) member

theorem exists_toDigits (n : Nat) :
    ∃ c digits, Nat.toDigits 10 n = c :: digits ∧ c.isDigit = true := by
  obtain ⟨c, digits, written⟩ :=
    List.exists_cons_of_ne_nil (Nat.toDigits_ne_nil : Nat.toDigits 10 n ≠ [])
  exact ⟨c, digits, written, isDigit_of_mem_toDigits (written ▸ List.mem_cons_self)⟩

theorem ofDigits_toDigits (n : Nat) : ofDigits 10 (Nat.toDigits 10 n) = n := by
  rw [ofDigits, ofDigits_eq_ofDigitChars fun c => isDigit_of_mem_toDigits]
  exact Nat.ofDigitChars_toDigits (by decide) (by decide)

/-- No number but zero is written with a zero in front. -/
theorem head?_toDigits {n : Nat} (positive : n ≠ 0) : (Nat.toDigits 10 n).head? ≠ some '0' := by
  induction n using Nat.strongRecOn with
  | _ n ih =>
    rw [Nat.toDigits_eq_if (by decide)]
    split
    · next small =>
      have each : ∀ n < 10, n ≠ 0 → [n.digitChar].head? ≠ some '0' := by decide
      exact each n small positive
    · next large =>
      have shorter := ih (n / 10) (by omega) (by omega)
      rwa [List.head?_append_of_ne_nil _ Nat.toDigits_ne_nil]

end Text

namespace Json

open Text

/-! ### Strings -/

theorem readString?_plain {c : Char} (unquoted : c ≠ '"') (unescaped : c ≠ '\\')
    (shown : ¬ c.toNat < 0x20) (rest : Text) :
    readString? (c :: rest) = prepend c (readString? rest) := by
  rw [readString?, if_neg shown]
  · exact unquoted
  · intro _ _ _ _ _ escape _
    exact unescaped escape
  · intro _ _ escape _
    exact unescaped escape

theorem readString?_escape {c d : Char} (named : unescape? c = some d) (rest : Text) :
    readString? ('\\' :: c :: rest) = prepend d (readString? rest) := by
  rw [readString?, named]
  rintro _ _ _ _ _ rfl _
  cases named

theorem readString?_control {c : Char} (control : c.toNat < 0x20) (rest : Text) :
    readString? ('\\' :: 'u' :: hex 4 c.toNat ++ rest) = prepend c (readString? rest) := by
  have each : ∀ n < 0x20, hex 4 n = ['0', '0', (n / 16).digitChar, (n % 16).digitChar] ∧
      hexUnit? '0' '0' (n / 16).digitChar (n % 16).digitChar = some n := by decide
  obtain ⟨written, numbered⟩ := each c.toNat control
  have scalar : (c.toNat < 0xd800 || 0xe000 ≤ c.toNat) = true := by
    rw [decide_eq_true (by omega : c.toNat < 0xd800), Bool.true_or]
  rw [written]
  simp only [List.cons_append, List.nil_append]
  rw [readString?, numbered]
  simp only [scalar, if_true, Char.ofNat_toNat]

theorem readString?_escapedChar (c : Char) (rest : Text) :
    readString? (escapedChar c ++ rest) = prepend c (readString? rest) := by
  unfold escapedChar
  split_ifs with quote backslash line carriage tab backspace feed control
  · subst quote; exact readString?_escape rfl rest
  · subst backslash; exact readString?_escape rfl rest
  · subst line; exact readString?_escape rfl rest
  · subst carriage; exact readString?_escape rfl rest
  · subst tab; exact readString?_escape rfl rest
  · subst backspace; exact readString?_escape rfl rest
  · subst feed; exact readString?_escape rfl rest
  · exact readString?_control control rest
  · exact readString?_plain quote backslash control rest

theorem readString?_escaped (value rest : Text) :
    readString? (escaped value ++ '"' :: rest) = some (value, rest) := by
  induction value with
  | nil => exact readString?.eq_2 rest
  | cons c value ih =>
    rw [escaped, List.flatMap_cons, List.append_assoc, ← escaped, readString?_escapedChar, ih]
    rfl

/-! ### Numbers -/

/-- Whether a text cannot go on with the number in front of it. -/
def EndsNumber (rest : Text) : Prop :=
  ∀ c ∈ rest.head?, c.isDigit = false ∧ c ≠ '.' ∧ c ≠ 'e' ∧ c ≠ 'E'

theorem takeWhile_toDigits (n : Nat) {rest : Text} (ends : EndsNumber rest) :
    (Nat.toDigits 10 n ++ rest).takeWhile Char.isDigit = Nat.toDigits 10 n ∧
      (Nat.toDigits 10 n ++ rest).dropWhile Char.isDigit = rest := by
  have decimal : ∀ c ∈ Nat.toDigits 10 n, c.isDigit = true := fun c => isDigit_of_mem_toDigits
  rw [List.takeWhile_append_of_pos decimal, List.dropWhile_append_of_pos decimal]
  cases rest with
  | nil => exact ⟨List.append_nil _, rfl⟩
  | cons c rest =>
    have other : ¬ c.isDigit = true := by simp [(ends c rfl).1]
    rw [List.takeWhile_cons_of_neg other, List.dropWhile_cons_of_neg other]
    exact ⟨List.append_nil _, rfl⟩

theorem splitMinus_writeInteger (value : Int) (rest : Text) :
    splitMinus (writeInteger value ++ rest) =
      (decide (value < 0), Nat.toDigits 10 value.natAbs ++ rest) := by
  unfold writeInteger
  split
  · next below => rw [decide_eq_true below]; rfl
  · next notBelow =>
    rw [decide_eq_false notBelow, splitMinus]
    -- A minus is no digit.
    intro tail eq
    obtain ⟨c, digits, written, first⟩ := exists_toDigits value.natAbs
    rw [written, List.cons_append] at eq
    rw [(List.cons.inj eq).1] at first
    cases first

theorem splitFraction_of_ends {rest : Text} (ends : EndsNumber rest) :
    splitFraction rest = ([], rest) := by
  rw [splitFraction]
  rintro tail rfl
  exact (ends '.' rfl).2.1 rfl

theorem splitPower?_of_ends {rest : Text} (ends : EndsNumber rest) : splitPower? rest = none := by
  cases rest with
  | nil => rfl
  | cons c rest =>
    obtain ⟨-, -, small, large⟩ := ends c rfl
    simp [splitPower?, small, large]

theorem readNumber?_writeInteger (value : Int) {rest : Text} (ends : EndsNumber rest) :
    readNumber? (writeInteger value ++ rest) = some (.integer value, rest) := by
  obtain ⟨whole, behind⟩ := takeWhile_toDigits value.natAbs ends
  have solid : ((Nat.toDigits 10 value.natAbs).isEmpty ||
      1 < (Nat.toDigits 10 value.natAbs).length &&
        (Nat.toDigits 10 value.natAbs).head? == some '0') = false := by
    by_cases zero : value.natAbs = 0
    · rw [zero]; decide
    · simp [Nat.toDigits_ne_nil, head?_toDigits zero]
  rw [readNumber?, splitMinus_writeInteger]
  dsimp only
  rw [whole, behind, solid, splitFraction_of_ends ends]
  dsimp only
  rw [splitPower?_of_ends ends, ofDigits_toDigits]
  have same : (if decide (value < 0) then -(value.natAbs : Int) else value.natAbs) = value := by
    by_cases below : value < 0
    · rw [decide_eq_true below, if_pos rfl]
      omega
    · rw [decide_eq_false below, if_neg Bool.false_ne_true]
      omega
  simp only [same, List.isEmpty_nil, Bool.false_eq_true, if_false]

/-! ### Gaps -/

/-- A text of nothing but what may stand between the parts of a value. -/
def IsGap (gap : Text) : Prop := ∀ c ∈ gap, isSpace c = true

theorem eq_of_isSpace {c : Char} (space : isSpace c = true) :
    c = ' ' ∨ c = '\t' ∨ c = '\n' ∨ c = '\r' := by
  simpa [isSpace, or_assoc] using space

theorem skipSpace_gap {gap : Text} (blank : IsGap gap) (text : Text) :
    skipSpace (gap ++ text) = skipSpace text :=
  List.dropWhile_append_of_pos blank

theorem skipSpace_cons {c : Char} (solid : isSpace c = false) (text : Text) :
    skipSpace (c :: text) = c :: text :=
  List.dropWhile_cons_of_neg (by simp [solid])

theorem isGap_lineBreak (indent : Option Nat) (depth : Nat) : IsGap (lineBreak indent depth) := by
  cases indent with
  | none => exact List.forall_mem_nil _
  | some width =>
    refine List.forall_mem_cons.mpr ⟨by decide, fun c member => ?_⟩
    rw [List.eq_of_mem_replicate member]
    decide

theorem exists_colon (indent : Option Nat) : ∃ gap, IsGap gap ∧ colon indent = ':' :: gap := by
  cases indent with
  | none => exact ⟨[], List.forall_mem_nil _, rfl⟩
  | some width => exact ⟨[' '], by simp [IsGap, isSpace], rfl⟩

theorem endsNumber_cons {c : Char} (closes : c ∈ [',', ']', '\x7d']) (rest : Text) :
    EndsNumber (c :: rest) := by
  rintro _ ⟨⟩
  simp only [List.mem_cons, List.not_mem_nil, or_false] at closes
  rcases closes with rfl | rfl | rfl <;> decide

theorem endsNumber_gap {gap : Text} (blank : IsGap gap) {c : Char} (closes : c ∈ [',', ']', '\x7d'])
    (rest : Text) : EndsNumber (gap ++ c :: rest) := by
  cases gap with
  | nil => exact endsNumber_cons closes rest
  | cons d gap =>
    rintro _ ⟨⟩
    rcases eq_of_isSpace (blank d List.mem_cons_self) with rfl | rfl | rfl | rfl <;> decide

theorem readValue?_gap {gap : Text} (blank : IsGap gap) (fuel : Nat) (text : Text) :
    readValue? fuel (gap ++ text) = readValue? fuel text := by
  cases fuel with
  | zero => rw [readValue?, readValue?]
  | succ fuel => rw [readValue?, readValue?, skipSpace_gap blank]

theorem readItems?_gap {gap : Text} (blank : IsGap gap) (fuel : Nat) (text : Text) :
    readItems? fuel (gap ++ text) = readItems? fuel text := by
  cases fuel with
  | zero => rw [readItems?, readItems?]
  | succ fuel => rw [readItems?, readItems?, readValue?_gap blank]

theorem readFields?_gap {gap : Text} (blank : IsGap gap) (fuel : Nat) (text : Text) :
    readFields? fuel (gap ++ text) = readFields? fuel text := by
  cases fuel with
  | zero => rw [readFields?, readFields?]
  | succ fuel => rw [readFields?, readFields?, skipSpace_gap blank]

/-! ### Values -/

@[elab_as_elim]
theorem value_induction {motive : Json → Prop} (null : motive .null)
    (bool : ∀ value, motive (.bool value)) (integer : ∀ value, motive (.integer value))
    (real : ∀ value, motive (.real value)) (string : ∀ value, motive (.string value))
    (array : ∀ items, (∀ item ∈ items, motive item) → motive (.array items))
    (object : ∀ fields, (∀ field ∈ fields, motive field.2) → motive (.object fields))
    (value : Json) : motive value := by
  match value with
  | .null => exact null
  | .bool value => exact bool value
  | .integer value => exact integer value
  | .real value => exact real value
  | .string value => exact string value
  | .array items =>
    exact array items fun item _ => value_induction null bool integer real string array object item
  | .object fields =>
    exact object fields fun field _ =>
      value_induction null bool integer real string array object field.2
termination_by sizeOf value
decreasing_by
  · have smaller := List.sizeOf_lt_of_mem ‹item ∈ items›
    rw [Json.array.sizeOf_spec]
    omega
  · have smaller := List.sizeOf_lt_of_mem ‹field ∈ fields›
    rw [Json.object.sizeOf_spec]
    obtain ⟨key, value⟩ := field
    rw [Prod.mk.sizeOf_spec] at smaller
    dsimp only
    omega

mutual

/-- Whether a value has no floating-point numbers and no repeated keys in an object. -/
def isExact : Json → Bool
  | .real _ => false
  | .array items => allExact items
  | .object fields => (Table.keys fields).Nodup && fieldsExact fields
  | .null => true
  | .bool _ => true
  | .integer _ => true
  | .string _ => true

def allExact : List Json → Bool
  | [] => true
  | item :: rest => item.isExact && allExact rest

def fieldsExact : List (String × Json) → Bool
  | [] => true
  | (_, value) :: rest => value.isExact && fieldsExact rest

end

@[simp] theorem isExact_null : Json.null.isExact = true := by rw [isExact]

@[simp] theorem isExact_bool (value : Bool) : (Json.bool value).isExact = true := by rw [isExact]

@[simp] theorem isExact_integer (value : Int) : (Json.integer value).isExact = true := by rw [isExact]

@[simp] theorem isExact_string (value : String) : (Json.string value).isExact = true := by
  rw [isExact]

@[simp] theorem isExact_array (items : List Json) :
    (Json.array items).isExact = true ↔ ∀ item ∈ items, item.isExact = true := by
  rw [isExact]
  induction items with
  | nil => simp [allExact]
  | cons item rest ih => rw [allExact, Bool.and_eq_true, ih, List.forall_mem_cons]

@[simp] theorem isExact_object (fields : List (String × Json)) :
    (Json.object fields).isExact = true ↔
      (Table.keys fields).Nodup ∧ ∀ field ∈ fields, field.2.isExact = true := by
  have values : fieldsExact fields = true ↔ ∀ field ∈ fields, field.2.isExact = true := by
    induction fields with
    | nil => simp [fieldsExact]
    | cons field rest ih => rw [fieldsExact, Bool.and_eq_true, ih, List.forall_mem_cons]
  rw [isExact, Bool.and_eq_true, decide_eq_true_iff, values]

theorem isExact_map {α : Type} {items : List α} {toJson : α → Json}
    (exact : ∀ item ∈ items, (toJson item).isExact = true) :
    (Json.array (items.map toJson)).isExact = true := by
  rw [isExact_array, List.forall_mem_map]
  exact exact

theorem isExact_mapFields {α : Type} {items : List α} {toField : α → String × Json}
    (distinct : (items.map fun item => (toField item).1).Nodup)
    (exact : ∀ item ∈ items, (toField item).2.isExact = true) :
    (Json.object (items.map toField)).isExact = true := by
  rw [isExact_object, List.forall_mem_map, Table.keys, List.map_map]
  exact ⟨distinct, exact⟩

@[simp] theorem isExact_strings (items : List String) : (strings items).isExact = true :=
  isExact_map fun item _ => isExact_string item

@[simp] theorem isExact_emptyArray : emptyArray.isExact = true := by simp [emptyArray]

@[simp] theorem isExact_emptyObject : emptyObject.isExact = true := by
  simp [emptyObject, Table.keys]

theorem isExact_ofList {pairs : List (String × Json)}
    (exact : ∀ field ∈ pairs, field.2.isExact = true) :
    (Json.object (Table.ofList pairs)).isExact = true := by
  rw [isExact_object]
  exact ⟨Table.nodup_keys_ofList pairs, fun field member =>
    exact field (Table.subset_ofList pairs member)⟩

/-- Whether a value is read from the text that it is written as, wherever that stands. -/
def ReadsBack (value : Json) : Prop :=
  ∀ indent depth fuel rest, (write indent depth value).length ≤ fuel → EndsNumber rest →
    readValue? fuel (write indent depth value ++ rest) = some (value, rest)

variable {indent : Option Nat} {depth fuel : Nat} {gap rest tail : Text}

theorem readItems?_last (blank : IsGap gap) {item : Json} (reads : ReadsBack item)
    (enough : (write indent depth item).length ≤ fuel) :
    readItems? (fuel + 1) (write indent depth item ++ (gap ++ ']' :: rest)) =
      some ([item], rest) := by
  have closes : EndsNumber (gap ++ ']' :: rest) := endsNumber_gap blank (by decide) rest
  rw [readItems?, reads indent depth fuel _ enough closes]
  dsimp only
  rw [skipSpace_gap blank, skipSpace_cons (by decide)]
  rfl

theorem readItems?_more {item : Json} {items : List Json} (reads : ReadsBack item)
    (enough : (write indent depth item).length ≤ fuel)
    (later : readItems? fuel tail = some (items, rest)) :
    readItems? (fuel + 1) (write indent depth item ++ ',' :: tail) = some (item :: items, rest) := by
  have goesOn : EndsNumber (',' :: tail) := endsNumber_cons (by decide) tail
  rw [readItems?, reads indent depth fuel _ enough goesOn]
  dsimp only
  rw [skipSpace_cons (by decide)]
  simp only [later]

theorem readItems?_write (blank : IsGap gap) {item : Json} {items : List Json}
    (first : ReadsBack item) (others : ∀ item ∈ items, ReadsBack item)
    (enough : (write indent depth item).length + (writeItems indent depth items).length ≤ fuel) :
    readItems? (fuel + 1) (write indent depth item ++
      (writeItems indent depth items ++ (gap ++ ']' :: rest))) = some (item :: items, rest) := by
  induction items generalizing item fuel with
  | nil =>
    rw [writeItems, List.nil_append]
    exact readItems?_last blank first (by omega)
  | cons next items ih =>
    -- The comma in front of the next item pays for the fuel that this one takes.
    obtain ⟨here, later⟩ := List.forall_mem_cons.mp others
    rw [writeItems, List.length_cons, List.length_append, List.length_append] at enough
    obtain ⟨fuel, rfl⟩ := Nat.exists_eq_succ_of_ne_zero (by omega : fuel ≠ 0)
    rw [writeItems, List.cons_append, List.append_assoc, List.append_assoc]
    apply readItems?_more first (by omega)
    rw [readItems?_gap (isGap_lineBreak indent depth)]
    exact ih here later (by omega)

theorem writeString_append (value : String) (rest : Text) :
    writeString value ++ rest = '"' :: (escaped value.toList ++ '"' :: rest) := by
  simp [writeString]

theorem readFields?_last (blank : IsGap gap) {key : String} {value : Json} (reads : ReadsBack value)
    (enough : (write indent depth value).length ≤ fuel) :
    readFields? (fuel + 1) (writeString key ++ (colon indent ++ (write indent depth value ++
      (gap ++ '\x7d' :: rest)))) = some ([(key, value)], rest) := by
  have closes : EndsNumber (gap ++ '\x7d' :: rest) := endsNumber_gap blank (by decide) rest
  obtain ⟨space, between, colonized⟩ := exists_colon indent
  rw [readFields?, writeString_append, skipSpace_cons (by decide), colonized, List.cons_append]
  simp only [readString?_escaped]
  rw [skipSpace_cons (by decide)]
  simp only [readValue?_gap between, reads indent depth fuel _ enough closes]
  rw [skipSpace_gap blank, skipSpace_cons (by decide), String.ofList_toList]
  rfl

theorem readFields?_more {key : String} {value : Json} {fields : List (String × Json)}
    (reads : ReadsBack value) (enough : (write indent depth value).length ≤ fuel)
    (later : readFields? fuel tail = some (fields, rest)) :
    readFields? (fuel + 1) (writeString key ++ (colon indent ++ (write indent depth value ++
      ',' :: tail))) = some ((key, value) :: fields, rest) := by
  have goesOn : EndsNumber (',' :: tail) := endsNumber_cons (by decide) tail
  obtain ⟨space, between, colonized⟩ := exists_colon indent
  rw [readFields?, writeString_append, skipSpace_cons (by decide), colonized, List.cons_append]
  simp only [readString?_escaped]
  rw [skipSpace_cons (by decide)]
  simp only [readValue?_gap between, reads indent depth fuel _ enough goesOn]
  rw [skipSpace_cons (by decide), String.ofList_toList]
  simp only [later]

theorem readFields?_write (blank : IsGap gap) {key : String} {value : Json}
    {fields : List (String × Json)} (first : ReadsBack value)
    (others : ∀ field ∈ fields, ReadsBack field.2)
    (enough : (write indent depth value).length + (writeFields indent depth fields).length ≤ fuel) :
    readFields? (fuel + 1) (writeString key ++ (colon indent ++ (write indent depth value ++
      (writeFields indent depth fields ++ (gap ++ '\x7d' :: rest))))) =
      some ((key, value) :: fields, rest) := by
  induction fields generalizing key value fuel with
  | nil =>
    rw [writeFields, List.nil_append]
    exact readFields?_last blank first (by omega)
  | cons next fields ih =>
    obtain ⟨name, other⟩ := next
    obtain ⟨here, later⟩ := List.forall_mem_cons.mp others
    dsimp only at here
    rw [writeFields, List.length_cons, List.length_append, List.length_append, List.length_append,
      List.length_append] at enough
    obtain ⟨fuel, rfl⟩ := Nat.exists_eq_succ_of_ne_zero (by omega : fuel ≠ 0)
    rw [writeFields, List.cons_append]
    apply readFields?_more first (by omega)
    rw [List.append_assoc, readFields?_gap (isGap_lineBreak indent depth), List.append_assoc,
      List.append_assoc, List.append_assoc]
    exact ih here later (by omega)

/-! ### What values begin with -/

theorem exists_writeInteger_head (value : Int) :
    ∃ c tail, writeInteger value = c :: tail ∧ (c = '-' ∨ c.isDigit = true) := by
  unfold writeInteger
  split
  · exact ⟨'-', _, rfl, .inl rfl⟩
  · obtain ⟨c, tail, written, digit⟩ := exists_toDigits value.natAbs
    exact ⟨c, tail, written, .inr digit⟩

theorem numeral_head {c : Char} (numeral : c = '-' ∨ c.isDigit = true) :
    isSpace c = false ∧ c ∉ ['n', 't', 'f', '"', '[', '\x7b', ']'] := by
  constructor
  · rw [Bool.eq_false_iff]
    intro space
    rcases eq_of_isSpace space with rfl | rfl | rfl | rfl <;> revert numeral <;> decide
  · intro special
    simp only [List.mem_cons, List.not_mem_nil, or_false] at special
    rcases special with rfl | rfl | rfl | rfl | rfl | rfl | rfl <;> revert numeral <;> decide

/-- A value that begins like a number is read as one. -/
theorem readValue?_number {c : Char} (numeral : c = '-' ∨ c.isDigit = true) (fuel : Nat)
    (rest : Text) : readValue? (fuel + 1) (c :: rest) = readNumber? (c :: rest) := by
  obtain ⟨solid, other⟩ := numeral_head numeral
  rw [readValue?, skipSpace_cons solid]
  split <;> simp_all

/-- What a value is written as begins with no space and closes nothing. -/
theorem exists_write_head {value : Json} (exact : value.isExact = true) (indent : Option Nat)
    (depth : Nat) : ∃ c tail, write indent depth value = c :: tail ∧ isSpace c = false ∧ c ≠ ']' := by
  cases value with
  | null => exact ⟨'n', _, by rw [write]; rfl, by decide, by decide⟩
  | bool value => cases value <;> exact ⟨_, _, by rw [write]; rfl, by decide, by decide⟩
  | integer value =>
    obtain ⟨c, tail, written, numeral⟩ := exists_writeInteger_head value
    obtain ⟨solid, other⟩ := numeral_head numeral
    refine ⟨c, tail, by rw [write, written], solid, ?_⟩
    rintro rfl
    exact other (by decide)
  | real value => cases exact
  | string value => exact ⟨'"', _, by rw [write]; rfl, by decide, by decide⟩
  | array items => cases items <;> exact ⟨'[', _, by rw [write], by decide, by decide⟩
  | object fields =>
    cases fields with
    | nil => exact ⟨'\x7b', _, by rw [write], by decide, by decide⟩
    | cons field fields => exact ⟨'\x7b', _, by rw [write], by decide, by decide⟩

/-! ### Whole values -/

/-- A value that is written the same everywhere. -/
theorem readsBack_of_write {value : Json} {c : Char} {text : Text}
    (written : ∀ indent depth, write indent depth value = c :: text)
    (reads : ∀ fuel rest, readValue? (fuel + 1) (c :: text ++ rest) = some (value, rest)) :
    ReadsBack value := by
  intro indent depth fuel rest enough _
  rw [written] at enough ⊢
  obtain ⟨fuel, rfl⟩ := Nat.exists_eq_succ_of_ne_zero (Nat.ne_zero_of_lt enough)
  exact reads fuel rest

theorem readsBack_integer (value : Int) : ReadsBack (.integer value) := by
  intro indent depth fuel rest enough ends
  obtain ⟨c, tail, written, numeral⟩ := exists_writeInteger_head value
  rw [write, written] at enough
  obtain ⟨fuel, rfl⟩ := Nat.exists_eq_succ_of_ne_zero (Nat.ne_zero_of_lt enough)
  rw [write, written, List.cons_append, readValue?_number numeral, ← List.cons_append, ← written]
  exact readNumber?_writeInteger value ends

theorem readsBack_string (value : String) : ReadsBack (.string value) := by
  intro indent depth fuel rest enough _
  rw [write, ← List.append_nil (writeString value), writeString_append] at enough
  obtain ⟨fuel, rfl⟩ := Nat.exists_eq_succ_of_ne_zero (Nat.ne_zero_of_lt enough)
  rw [write, writeString_append, readValue?, skipSpace_cons (by decide)]
  simp only [readString?_escaped, String.ofList_toList]

theorem readsBack_array {items : List Json} (exact : ∀ item ∈ items, item.isExact = true)
    (reads : ∀ item ∈ items, ReadsBack item) : ReadsBack (.array items) := by
  cases items with
  | nil => exact readsBack_of_write (fun _ _ => by rw [write]) fun _ _ => rfl
  | cons item items =>
    intro indent depth fuel rest enough _
    obtain ⟨first, later⟩ := List.forall_mem_cons.mp reads
    obtain ⟨c, tail, written, solid, opens⟩ :=
      exists_write_head (exact item List.mem_cons_self) indent (depth + 1)
    simp only [write, List.length_cons, List.length_append, List.length_nil] at enough
    -- One part of the fuel goes to the array, one to its first item; the brackets pay for both.
    obtain ⟨fuel, rfl⟩ := Nat.exists_eq_succ_of_ne_zero (by omega : fuel ≠ 0)
    obtain ⟨fuel, rfl⟩ := Nat.exists_eq_succ_of_ne_zero (by omega : fuel ≠ 0)
    have inside : readItems? (fuel + 1) (write indent (depth + 1) item ++
        (writeItems indent (depth + 1) items ++ (lineBreak indent depth ++ ']' :: rest))) =
        some (item :: items, rest) :=
      readItems?_write (isGap_lineBreak indent depth) first later (by omega)
    rw [write, readValue?, List.cons_append, skipSpace_cons (by decide)]
    simp only [List.append_assoc, skipSpace_gap (isGap_lineBreak indent (depth + 1)),
      List.singleton_append]
    rw [written, List.cons_append] at inside ⊢
    rw [skipSpace_cons solid]
    simp [opens, inside]

theorem readsBack_object {fields : List (String × Json)} (distinct : (Table.keys fields).Nodup)
    (reads : ∀ field ∈ fields, ReadsBack field.2) : ReadsBack (.object fields) := by
  cases fields with
  | nil => exact readsBack_of_write (fun _ _ => by rw [write]) fun _ _ => rfl
  | cons field fields =>
    intro indent depth fuel rest enough _
    obtain ⟨key, value⟩ := field
    obtain ⟨first, later⟩ := List.forall_mem_cons.mp reads
    simp only [write, List.length_cons, List.length_append, List.length_nil] at enough
    obtain ⟨fuel, rfl⟩ := Nat.exists_eq_succ_of_ne_zero (by omega : fuel ≠ 0)
    obtain ⟨fuel, rfl⟩ := Nat.exists_eq_succ_of_ne_zero (by omega : fuel ≠ 0)
    dsimp only at first
    have inside : readFields? (fuel + 1) (writeString key ++ (colon indent ++
        (write indent (depth + 1) value ++ (writeFields indent (depth + 1) fields ++
          (lineBreak indent depth ++ '\x7d' :: rest))))) = some ((key, value) :: fields, rest) :=
      readFields?_write (isGap_lineBreak indent depth) first later (by omega)
    rw [write, readValue?, List.cons_append, skipSpace_cons (by decide)]
    simp only [List.append_assoc, skipSpace_gap (isGap_lineBreak indent (depth + 1)),
      List.singleton_append]
    rw [writeString_append] at inside ⊢
    rw [skipSpace_cons (by decide)]
    simp [inside, Table.ofList_of_nodup distinct]

theorem readsBack_of_isExact {value : Json} (exact : value.isExact = true) : ReadsBack value := by
  induction value using value_induction with
  | null => exact readsBack_of_write (fun _ _ => by rw [write]; rfl) fun _ _ => rfl
  | bool value =>
    cases value <;>
      exact readsBack_of_write (fun _ _ => by rw [write]; rfl) fun _ _ => rfl
  | integer value => exact readsBack_integer value
  | real value => cases exact
  | string value => exact readsBack_string value
  | array items ih =>
    have each := (isExact_array items).mp exact
    exact readsBack_array each fun item member => ih item member (each item member)
  | object fields ih =>
    obtain ⟨distinct, each⟩ := (isExact_object fields).mp exact
    exact readsBack_object distinct fun field member => ih field member (each field member)

/-- Whatever the indentation, a value is read from its text as it was, the keys of its objects in
order. -/
theorem read?_render {value : Json} (exact : value.isExact = true) (indent : Option Nat) :
    read? (value.render indent) = some value := by
  have ends : EndsNumber [] := fun _ none => nomatch none
  have reads := readsBack_of_isExact exact indent 0 ((write indent 0 value).length + 1) []
    (Nat.le_succ _) ends
  rw [List.append_nil] at reads
  rw [read?, render, String.toList_ofList]
  simp only [reads]
  rfl

end Json

end PageClip
