import PageClip.Proofs.Stylesheet.Reference
import PageClip.Proofs.Text.Blank

/-!
# Values as trees

A value is text, groups in parentheses and references, one after another.
`resolve_print` says that replacing the references in the text of a tree is
evaluating the tree.
-/

namespace PageClip.Stylesheet

open PageClip.Text

/-- A value as the sequence of its parts, each followed by the rest of the value. -/
inductive ValueTree where
  | nil
  | text (own : Text) (rest : ValueTree)
  | group (inside rest : ValueTree)
  | reference (name : Text) (rest : ValueTree)
  | referenceOr (name : Text) (fallback rest : ValueTree)
  deriving DecidableEq, Repr

namespace ValueTree

def print : ValueTree → Text
  | nil => []
  | text own rest => own ++ print rest
  | group inside rest => '(' :: print inside ++ ')' :: print rest
  | reference name rest => referenceMark ++ name ++ ')' :: print rest
  | referenceOr name fallback rest =>
    referenceMark ++ (name ++ [',', ' '] ++ print fallback) ++ ')' :: print rest

def printTable (table : Table Text ValueTree) : Variables :=
  table.map fun (name, tree) => (name, print tree)

/-- The value of a name, unless the name is being expanded already. -/
def definition? (table : Table Text ValueTree) (seen : List Text) (name : Text) :
    Option ValueTree :=
  if seen.contains name then none else Table.find? name table

theorem replacement?_printTable (table : Table Text ValueTree) (seen : List Text) (name : Text) :
    replacement? (printTable table) seen name = (definition? table seen name).map print := by
  have found : Table.find? name (printTable table) = (Table.find? name table).map print := by
    induction table with
    | nil => rfl
    | cons entry rest ih =>
      obtain ⟨key, tree⟩ := entry
      rw [printTable, List.map_cons, Table.find?, Table.find?]
      split
      · rfl
      · exact ih
  rw [replacement?, definition?, List.contains_eq_mem]
  simp only [decide_eq_true_eq]
  split
  · rfl
  · exact found

theorem unseen_lt_of_definition? {table : Table Text ValueTree} {seen : List Text} {name : Text}
    {tree : ValueTree} (h : definition? table seen name = some tree) :
    unseen (printTable table) (name :: seen) < unseen (printTable table) seen := by
  have replaces : replacement? (printTable table) seen name = some (print tree) := by
    rw [replacement?_printTable, h]
    rfl
  exact unseen_lt replaces

/-- The text of a tree in which a reference stands for the value of its name. Where there is no
value, or it is being expanded already, the reference stands for its fallback, or for itself. -/
def eval (table : Table Text ValueTree) (seen : List Text) : ValueTree → Text
  | nil => []
  | text own rest => own ++ eval table seen rest
  | group inside rest => '(' :: eval table seen inside ++ ')' :: eval table seen rest
  | reference name rest =>
    (match _ : definition? table seen name with
      | some tree => eval table (name :: seen) tree
      | none => referenceMark ++ name ++ [')']) ++ eval table seen rest
  | referenceOr name fallback rest =>
    (match _ : definition? table seen name with
      | some tree => eval table (name :: seen) tree
      | none => eval table seen fallback) ++ eval table seen rest
termination_by tree => (unseen (printTable table) seen, sizeOf tree)
decreasing_by
  all_goals first
    | exact Prod.Lex.left _ _ (unseen_lt_of_definition? ‹_›)
    | apply Prod.Lex.right; simp only [text.sizeOf_spec, group.sizeOf_spec, reference.sizeOf_spec,
        referenceOr.sizeOf_spec]; omega

/-! ### Trees whose text can be read -/

/-- A name that can stand in a reference. -/
structure IsReferable (name : Text) : Prop where
  solid : name ≠ []
  trimmed : trim name = name
  unparted : ',' ∉ name
  free : Delimiter.paren.Free name

/-- A tree that says how its text is read, where `before` has been printed in front of it: text is
without parentheses, and no group looks like a reference. -/
def WellFormed (before : Text) : ValueTree → Prop
  | nil => True
  | text own rest => Delimiter.paren.Free own ∧ WellFormed (before ++ own) rest
  | group inside rest =>
    ¬ ['v', 'a', 'r'] <:+ before ∧ WellFormed (before ++ ['(']) inside ∧
      WellFormed (before ++ print (group inside nil)) rest
  | reference name rest =>
    IsReferable name ∧ WellFormed (before ++ print (reference name nil)) rest
  | referenceOr name fallback rest =>
    IsReferable name ∧ trim (print fallback) = print fallback ∧
      WellFormed (before ++ (referenceMark ++ (name ++ [',', ' ']))) fallback ∧
      WellFormed (before ++ print (referenceOr name fallback nil)) rest

instance (name : Text) : Decidable (IsReferable name) :=
  decidable_of_iff (name ≠ [] ∧ trim name = name ∧ ',' ∉ name ∧ Delimiter.paren.Free name)
    ⟨fun ⟨solid, trimmed, unparted, free⟩ => ⟨solid, trimmed, unparted, free⟩,
      fun ⟨solid, trimmed, unparted, free⟩ => ⟨solid, trimmed, unparted, free⟩⟩

instance decidableWellFormed :
    (before : Text) → (tree : ValueTree) → Decidable (WellFormed before tree)
  | _, nil => .isTrue trivial
  | before, text own rest =>
    have := decidableWellFormed (before ++ own) rest
    inferInstanceAs (Decidable (_ ∧ _))
  | before, group inside rest =>
    have := decidableWellFormed (before ++ ['(']) inside
    have := decidableWellFormed (before ++ print (group inside nil)) rest
    inferInstanceAs (Decidable (_ ∧ _ ∧ _))
  | before, reference name rest =>
    have := decidableWellFormed (before ++ print (reference name nil)) rest
    inferInstanceAs (Decidable (_ ∧ _))
  | before, referenceOr name fallback rest =>
    have := decidableWellFormed (before ++ (referenceMark ++ (name ++ [',', ' ']))) fallback
    have := decidableWellFormed (before ++ print (referenceOr name fallback nil)) rest
    inferInstanceAs (Decidable (_ ∧ _ ∧ _ ∧ _))

theorem IsReferable.balanced_or {name fallback : Text} (named : IsReferable name)
    (balanced : Delimiter.paren.Balanced fallback) :
    Delimiter.paren.Balanced (name ++ [',', ' '] ++ fallback) := by
  have header := named.free.append (show Delimiter.paren.Free [',', ' '] by decide)
  exact header.balanced.append balanced

theorem WellFormed.balanced {before : Text} {tree : ValueTree} (h : WellFormed before tree) :
    Delimiter.paren.Balanced tree.print := by
  have mark : Delimiter.paren.Free ['v', 'a', 'r'] := by decide
  induction tree generalizing before with
  | nil => exact .nil
  | text own rest ih =>
    obtain ⟨free, later⟩ := h
    exact free.balanced.append (ih later)
  | group inside rest ihInside ihRest =>
    obtain ⟨-, inner, later⟩ := h
    exact .nested (ihInside inner) (ihRest later)
  | reference name rest ih =>
    obtain ⟨named, later⟩ := h
    exact mark.balanced.append (.nested named.free.balanced (ih later))
  | referenceOr name fallback rest ihFallback ihRest =>
    obtain ⟨named, -, inner, later⟩ := h
    have inside := named.balanced_or (ihFallback inner)
    exact mark.balanced.append (.nested inside (ihRest later))

theorem mark_parts {start finish : Text} (started : start ≠ []) (finished : finish ≠ [])
    (mark : start ++ finish = referenceMark) :
    '(' ∈ finish ∧ finish.head? ≠ some 'v' ∧ (finish.head? = some '(' → start = ['v', 'a', 'r']) := by
  rcases start with _ | ⟨a, _ | ⟨b, _ | ⟨c, _ | ⟨d, start⟩⟩⟩⟩ <;>
    simp_all [referenceMark]

/-- No reference begins in front of a tree and ends in it. -/
theorem WellFormed.apart {before : Text} {tree : ValueTree} (h : WellFormed before tree) :
    ¬ Straddles before tree.print := by
  have same_head {finish rest : Text} {c : Char} (finished : finish ≠ [])
      (late : finish <+: c :: rest) : finish.head? = some c := by
    cases finish with
    | nil => exact absurd rfl finished
    | cons d finish => rw [(List.cons_prefix_cons.mp late).1]; rfl
  induction tree generalizing before with
  | nil =>
    rintro ⟨start, finish, -, finished, -, -, late⟩
    exact finished (List.prefix_nil.mp late)
  | text own rest ih =>
    obtain ⟨free, later⟩ := h
    rintro ⟨start, finish, started, finished, mark, ⟨front, rfl⟩, tail, eq⟩
    obtain ⟨opens, -, -⟩ := mark_parts started finished mark
    -- The mark holds a parenthesis, so it does not end in the text but reaches behind it.
    rcases List.append_eq_append_iff.mp eq with ⟨more, rfl, -⟩ | ⟨more, rfl, behind⟩
    · exact free.1 (List.mem_append_left more opens)
    · have reaches : more ≠ [] := by
        rintro rfl
        rw [List.append_nil] at opens
        exact free.1 opens
      rw [← List.append_assoc] at mark
      have solid : start ++ own ≠ [] := List.append_ne_nil_of_left_ne_nil started own
      exact ih later ⟨start ++ own, more, solid, reaches, mark, ⟨front, by simp⟩, tail,
        behind.symm⟩
  | group inside rest =>
    obtain ⟨unmarked, -, -⟩ := h
    rintro ⟨start, finish, started, finished, mark, early, late⟩
    obtain ⟨-, -, whole⟩ := mark_parts started finished mark
    rw [whole (same_head finished late)] at early
    exact unmarked early
  | reference name rest =>
    rintro ⟨start, finish, started, finished, mark, -, late⟩
    obtain ⟨-, notFirst, -⟩ := mark_parts started finished mark
    exact notFirst (same_head finished late)
  | referenceOr name fallback rest =>
    rintro ⟨start, finish, started, finished, mark, -, late⟩
    obtain ⟨-, notFirst, -⟩ := mark_parts started finished mark
    exact notFirst (same_head finished late)

theorem not_straddles_text {before own : Text} {rest : ValueTree}
    (h : WellFormed (before ++ own) rest) : ¬ Straddles own rest.print :=
  fun meets => h.apart (meets.append_left before)

theorem WellFormed.referencesClosed {before : Text} {tree : ValueTree}
    (h : WellFormed before tree) : ReferencesClosed tree.print := by
  induction tree generalizing before with
  | nil => exact .nil
  | text own rest ih =>
    obtain ⟨free, later⟩ := h
    exact (referencesClosed_of_free free).append (ih later) (not_straddles_text later)
  | group inside rest ihInside ihRest =>
    obtain ⟨-, inner, later⟩ := h
    have closing : ReferencesClosed (')' :: rest.print) := .char (by decide) (ihRest later)
    have apart : ¬ Straddles inside.print (')' :: rest.print) :=
      not_straddles_of_head (by decide)
    exact .char (by decide) ((ihInside inner).append closing apart)
  | reference name rest ih =>
    obtain ⟨named, later⟩ := h
    exact .balanced named.free.balanced (ih later)
  | referenceOr name fallback rest ihFallback ihRest =>
    obtain ⟨named, -, inner, later⟩ := h
    exact .balanced (named.balanced_or inner.balanced) (ihRest later)

/-! ### What stands in a reference -/

theorem splitAtComma_append {name : Text} (unparted : ',' ∉ name)
    (free : Delimiter.paren.Free name) (rest : Text) :
    splitAtComma 0 (name ++ rest) =
      (name ++ (splitAtComma 0 rest).1, (splitAtComma 0 rest).2) := by
  induction name with
  | nil => rfl
  | cons c name ih =>
    obtain ⟨notOpener, notCloser, later⟩ := free.of_cons
    have unchanged : (if c = '(' then 0 + 1 else if c = ')' then 0 - 1 else 0) = 0 :=
      (if_neg notOpener).trans (if_neg notCloser)
    rw [List.mem_cons, not_or] at unparted
    rw [List.cons_append, splitAtComma, if_neg (by simp [Ne.symm unparted.1])]
    dsimp only
    rw [unchanged, ih unparted.2 later]
    rfl

section

variable {table : Table Text ValueTree} {seen : List Text} {name : Text}

theorem replaced_name (named : IsReferable name) :
    replaced (printTable table) seen name =
      match definition? table seen name with
      | some tree => resolved (printTable table) (name :: seen) tree.print
      | none => referenceMark ++ name ++ [')'] := by
  have split : splitAtComma 0 name = (name, none) := by
    have parts := splitAtComma_append named.unparted named.free []
    rwa [splitAtComma, List.append_nil] at parts
  have own : referenceName name = name := by rw [referenceName, split, named.trimmed]
  have alone : fallback? name = none := by rw [fallback?, split]; rfl
  rw [replaced, own, replacement?_printTable, alone]
  cases definition? table seen name <;> rfl

theorem replaced_name_or (named : IsReferable name) {fallback : Text}
    (trimmed : trim fallback = fallback) :
    replaced (printTable table) seen (name ++ [',', ' '] ++ fallback) =
      match definition? table seen name with
      | some tree => resolved (printTable table) (name :: seen) tree.print
      | none => resolved (printTable table) seen fallback := by
  have split : splitAtComma 0 (name ++ [',', ' '] ++ fallback) =
      (name, some (' ' :: fallback)) := by
    rw [List.append_assoc, splitAtComma_append named.unparted named.free]
    simp [splitAtComma]
  have own : referenceName (name ++ [',', ' '] ++ fallback) = name := by
    rw [referenceName, split, named.trimmed]
  have other : fallback? (name ++ [',', ' '] ++ fallback) = some fallback := by
    have unpadded := trim_blank_append (show AllBlank [' '] by decide) fallback
    rw [fallback?, split]
    exact congrArg some (unpadded.trans trimmed)
  rw [replaced, own, replacement?_printTable, other]
  cases definition? table seen name <;> rfl

end

/-! ### Evaluation -/

theorem WellFormed.of_definition? {table : Table Text ValueTree}
    (readable : ∀ entry ∈ table, WellFormed [] entry.2) {seen : List Text} {name : Text}
    {tree : ValueTree} (h : definition? table seen name = some tree) : WellFormed [] tree := by
  unfold definition? at h
  split at h
  · cases h
  · exact readable (name, tree) (Table.mem_of_find? h)

theorem resolved_print {table : Table Text ValueTree}
    (readable : ∀ entry ∈ table, WellFormed [] entry.2) (seen : List Text) (tree : ValueTree)
    {before : Text} (h : WellFormed before tree) :
    resolved (printTable table) seen tree.print = eval table seen tree := by
  induction seen, tree using eval.induct table generalizing before with
  | case1 seen => rw [print, resolved_nil, eval]
  | case2 seen own rest ih =>
    obtain ⟨free, later⟩ := h
    rw [print, eval, resolved_append (referencesClosed_of_free free) (not_straddles_text later),
      resolved_of_free free, ih later]
  | case3 seen inside rest ihInside ihRest =>
    obtain ⟨-, inner, later⟩ := h
    have apart : ¬ Straddles inside.print (')' :: rest.print) :=
      not_straddles_of_head (by decide)
    rw [print, eval, List.cons_append, resolved_char (by decide),
      resolved_append inner.referencesClosed apart, resolved_char (by decide), ihInside inner,
      ihRest later]
    rfl
  | case4 seen name rest ihName ihRest =>
    obtain ⟨named, later⟩ := h
    rw [print, eval, resolved_balanced named.free.balanced, replaced_name named, ihRest later]
    congr 1
    split
    · next tree found => rw [found]; exact ihName tree found (.of_definition? readable found)
    · next missing => rw [missing]
  | case5 seen name fallback rest ihName ihFallback ihRest =>
    obtain ⟨named, trimmed, inner, later⟩ := h
    rw [print, eval, resolved_balanced (named.balanced_or inner.balanced),
      replaced_name_or named trimmed, ihRest later]
    congr 1
    split
    · next tree found => rw [found]; exact ihName tree found (.of_definition? readable found)
    · next missing => rw [missing]; exact ihFallback inner

/-- Resolving the text of a tree is evaluating the tree, whatever names the values of a table refer
to, their own and each other's among them. -/
theorem resolve_print {table : Table Text ValueTree}
    (readable : ∀ entry ∈ table, WellFormed [] entry.2) {tree : ValueTree}
    (h : WellFormed [] tree) :
    (resolve (printTable table) tree.print).text = eval table [] tree :=
  resolved_print readable [] tree h

/-- Two names that refer to each other. -/
def loopTable : Table Text ValueTree :=
  [("--a".toList, .group (.reference "--b".toList .nil) .nil),
    ("--b".toList, .text "x ".toList
      (.referenceOr "--a".toList (.reference "--c".toList .nil) .nil))]

def loopTree : ValueTree :=
  .text "1px ".toList (.referenceOr "--none".toList (.reference "--a".toList .nil) .nil)

theorem resolve_print_loop :
    (∀ entry ∈ loopTable, WellFormed [] entry.2) ∧ WellFormed [] loopTree ∧
      loopTree.print = "1px var(--none, var(--a))".toList ∧
      (resolve (printTable loopTable) loopTree.print).text = "1px (x var(--c))".toList := by
  have readable : ∀ entry ∈ loopTable, WellFormed [] entry.2 := by decide
  have wellFormed : WellFormed [] loopTree := by decide
  refine ⟨readable, wellFormed, by decide, ?_⟩
  rw [resolve_print readable wellFormed]
  simp [loopTree, loopTable, eval, definition?, Table.find?, referenceMark]

end ValueTree

end PageClip.Stylesheet
