import Mathlib.Data.List.Infix
import PageClip.Proofs.Stylesheet.Delimiter
import PageClip.Proofs.Text.Blank
import PageClip.Stylesheet.Declaration

/-!
# Declarations between semicolons

A body splits at every semicolon where no parenthesis is open, so a text that
is one piece by itself stays one piece in front of a semicolon.
-/

namespace PageClip.Stylesheet

open PageClip.Text

/-- How many parentheses are open behind a character. -/
def nesting (depth : Nat) (c : Char) : Nat :=
  if c = '(' then depth + 1 else if c = ')' then depth - 1 else depth

/-- How many parentheses are open behind a text. A closer that closes nothing does not count. -/
def openAfter (depth : Nat) (text : Text) : Nat := text.foldl nesting depth

/-- Whether every semicolon of a text stands inside parentheses. -/
def Unparted (depth : Nat) (text : Text) : Prop :=
  ∀ before, before ++ [';'] <+: text → openAfter depth before ≠ 0

instance (depth : Nat) (text : Text) : Decidable (Unparted depth text) :=
  decidable_of_iff (∀ before ∈ text.inits, before ++ [';'] <+: text → openAfter depth before ≠ 0)
    ⟨fun h before found =>
      h before ((List.mem_inits ..).mpr ((List.prefix_append ..).trans found)) found,
      fun h before _ => h before⟩

/-- A declaration as it can stand in a body: one piece that ends outside parentheses. -/
structure IsPiece (text : Text) : Prop where
  trimmed : trim text = text
  unparted : Unparted 0 text
  closed : openAfter 0 text = 0

instance (text : Text) : Decidable (IsPiece text) :=
  decidable_of_iff (trim text = text ∧ Unparted 0 text ∧ openAfter 0 text = 0)
    ⟨fun ⟨trimmed, unparted, closed⟩ => ⟨trimmed, unparted, closed⟩,
      fun ⟨trimmed, unparted, closed⟩ => ⟨trimmed, unparted, closed⟩⟩

theorem Unparted.tail {depth : Nat} {c : Char} {rest : Text} (h : Unparted depth (c :: rest)) :
    Unparted (nesting depth c) rest := by
  intro before found
  exact h (c :: before) ((List.prefix_cons_inj c).mpr found)

theorem Unparted.head {depth : Nat} {c : Char} {rest : Text} (h : Unparted depth (c :: rest)) :
    ¬ (c = ';' ∧ depth = 0) := by
  rintro ⟨rfl, outside⟩
  exact h [] (List.prefix_append [';'] rest) outside

theorem openAfter_append (depth : Nat) (front back : Text) :
    openAfter depth (front ++ back) = openAfter (openAfter depth front) back :=
  List.foldl_append

theorem openAfter_of_free {text : Text} (depth : Nat) (free : Delimiter.paren.Free text) :
    openAfter depth text = depth := by
  induction text with
  | nil => rfl
  | cons c rest ih =>
    obtain ⟨notOpener, notCloser, later⟩ := free.of_cons
    have unchanged : nesting depth c = depth := (if_neg notOpener).trans (if_neg notCloser)
    rw [openAfter, List.foldl_cons, unchanged]
    exact ih later

theorem unparted_append {depth : Nat} {front text : Text} (plain : ';' ∉ front)
    (h : Unparted (openAfter depth front) text) : Unparted depth (front ++ text) := by
  induction front generalizing depth with
  | nil => exact h
  | cons c front ih =>
    rw [List.mem_cons, not_or] at plain
    intro before found
    cases before with
    | nil => exact absurd (List.cons_prefix_cons.mp found).1 plain.1
    | cons d before =>
      obtain ⟨rfl, later⟩ := List.cons_prefix_cons.mp found
      exact ih plain.2 h before later

theorem piecesFrom_cons {depth : Nat} {piece rest : Text} {c : Char} (h : ¬ (c = ';' ∧ depth = 0)) :
    piecesFrom depth piece (c :: rest) = piecesFrom (nesting depth c) (c :: piece) rest := by
  rw [piecesFrom, if_neg (by simpa using h)]
  rfl

/-- A semicolon outside parentheses parts what stands before it from what stands behind it. -/
theorem piecesFrom_append {depth : Nat} {text : Text} (closed : openAfter depth text = 0)
    (piece rest : Text) :
    piecesFrom depth piece (text ++ ';' :: rest) =
      piecesFrom depth piece text ++ piecesFrom 0 [] rest := by
  induction text generalizing depth piece with
  | nil =>
    obtain rfl : depth = 0 := closed
    simp [piecesFrom]
  | cons c text ih =>
    by_cases parts : c = ';' ∧ depth = 0
    · obtain ⟨rfl, rfl⟩ := parts
      have later : openAfter 0 text = 0 := closed
      simp [piecesFrom, ih later]
    · rw [List.cons_append, piecesFrom_cons parts, piecesFrom_cons parts]
      exact ih closed (c :: piece)

theorem piecesFrom_of_unparted {depth : Nat} {text : Text} (h : Unparted depth text)
    (piece : Text) : piecesFrom depth piece text = [piece.reverse ++ text] := by
  induction text generalizing depth piece with
  | nil => simp [piecesFrom]
  | cons c text ih => simp [piecesFrom_cons h.head, ih h.tail]

theorem splitDeclarations_append {text : Text} (closed : openAfter 0 text = 0) (rest : Text) :
    splitDeclarations (text ++ ';' :: rest) = splitDeclarations text ++ splitDeclarations rest := by
  unfold splitDeclarations
  rw [piecesFrom_append closed, List.map_append, List.filter_append]

theorem splitDeclarations_unparted {text : Text} (unparted : Unparted 0 text) :
    splitDeclarations text = if trim text = [] then [] else [trim text] := by
  unfold splitDeclarations
  rw [piecesFrom_of_unparted unparted]
  by_cases blank : trim text = [] <;> simp [blank]

/-- A piece behind characters that mean nothing to the split is the first declaration. -/
theorem IsPiece.splitDeclarations_append {front text : Text} (piece : IsPiece text)
    (plain : ';' ∉ front) (free : Delimiter.paren.Free front) (solid : trim (front ++ text) ≠ [])
    (rest : Text) :
    splitDeclarations (front ++ text ++ ';' :: rest) =
      trim (front ++ text) :: splitDeclarations rest := by
  have outside : openAfter 0 front = 0 := openAfter_of_free 0 free
  have closed : openAfter 0 (front ++ text) = 0 := by
    rw [openAfter_append, outside]
    exact piece.closed
  have unparted : Unparted 0 (front ++ text) := by
    refine unparted_append plain ?_
    rw [outside]
    exact piece.unparted
  rw [Stylesheet.splitDeclarations_append closed, splitDeclarations_unparted unparted,
    if_neg solid, List.singleton_append]

theorem splitDeclarations_of_blank {text : Text} (blank : AllBlank text) :
    splitDeclarations text = [] := by
  have unparted : Unparted 0 text := by
    rintro before ⟨rest, rfl⟩
    exact absurd (by simp) (blank.not_mem (show isBlank ';' = false by decide))
  rw [splitDeclarations_unparted unparted, if_pos (trim_of_blank blank)]

/-! ### Custom properties -/

def blankCodes : List Nat :=
  List.range' 0x09 5 ++ List.range' 0x1c 5 ++ List.range' 0x2000 11 ++
    [0x85, 0xa0, 0x1680, 0x2028, 0x2029, 0x202f, 0x205f, 0x3000]

theorem isNamePart_of_isBlank {c : Char} (blank : isBlank c) : isNamePart c = false := by
  have codes : ∀ n ∈ blankCodes, isNamePart (Char.ofNat n) = false := by
    decide +kernel
  have listed : c.toNat ∈ blankCodes := by
    simp only [isBlank, Bool.or_eq_true, Bool.and_eq_true, decide_eq_true_eq, beq_iff_eq] at blank
    simp only [blankCodes, List.mem_append, List.mem_range'_1, List.mem_cons, List.not_mem_nil,
      or_false]
    omega
  have found := codes c.toNat listed
  rwa [Char.ofNat_toNat] at found

/-- A run of characters that can name something. -/
structure IsName (name : Text) : Prop where
  solid : name ≠ []
  parts : ∀ c ∈ name, isNamePart c

instance (name : Text) : Decidable (IsName name) :=
  decidable_of_iff (name ≠ [] ∧ name.all isNamePart)
    ⟨fun ⟨solid, parts⟩ => ⟨solid, List.all_eq_true.mp parts⟩,
      fun ⟨solid, parts⟩ => ⟨solid, List.all_eq_true.mpr parts⟩⟩

theorem IsName.not_mem {name : Text} (named : IsName name) {c : Char}
    (other : isNamePart c = false) : c ∉ name := by
  intro member
  simp [named.parts c member] at other

theorem customProperty?_eq_some {name value : Text} (named : IsName name)
    (trimmed : trim value = value) :
    customProperty? (trim (['-', '-'] ++ name ++ [':', ' '] ++ value)) =
      some (['-', '-'] ++ name, value) := by
  have stops : isNamePart ':' = false := by decide
  have shown : trim (['-', '-'] ++ name ++ [':', ' '] ++ value) =
      '-' :: '-' :: (name ++ ':' :: trimRight (' ' :: value)) := by
    have colon : isBlank ':' = false := by decide
    rw [List.append_assoc, trim, trimLeft, List.append_assoc, List.cons_append,
      List.dropWhile_cons_of_neg (by decide)]
    exact trimRight_append_of_not_blank colon (['-', '-'] ++ name) (' ' :: value)
  have value_eq : trim (trimRight (' ' :: value)) = value := by
    rw [trim_trimRight, ← List.singleton_append, trim_blank_append (by decide), trimmed]
  have colon : trimLeft (':' :: trimRight (' ' :: value)) = ':' :: trimRight (' ' :: value) :=
    List.dropWhile_cons_of_neg (by decide)
  rw [shown, customProperty?]
  simp only [List.takeWhile_append_of_pos named.parts, List.dropWhile_append_of_pos named.parts,
    List.takeWhile_cons_of_neg (show ¬ isNamePart ':' by simp [stops]),
    List.dropWhile_cons_of_neg (show ¬ isNamePart ':' by simp [stops]), List.append_nil, colon,
    value_eq, List.isEmpty_iff, if_neg named.solid]
  rfl

end PageClip.Stylesheet
