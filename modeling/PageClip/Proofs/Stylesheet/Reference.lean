import PageClip.Proofs.Stylesheet.Delimiter
import PageClip.Proofs.Text.Cut
import PageClip.Stylesheet.Variable

/-!
# References part by part

Where a text starts has no bearing on what its references are replaced by, and
two texts are resolved one after the other unless a reference reaches from the
first into the second (`resolved_append`).
-/

namespace PageClip.Stylesheet

open PageClip.Text

/-- The mark of a reference begins at the end of one text and ends in the next. -/
def Straddles (front back : Text) : Prop :=
  ∃ start finish, start ≠ [] ∧ finish ≠ [] ∧ start ++ finish = referenceMark ∧
    start <:+ front ∧ finish <+: back

theorem Straddles.append_left {front back : Text} (h : Straddles front back) (before : Text) :
    Straddles (before ++ front) back := by
  obtain ⟨start, finish, started, finished, mark, early, late⟩ := h
  exact ⟨start, finish, started, finished, mark, early.trans (List.suffix_append before front),
    late⟩

theorem not_straddles_of_head {front rest : Text} {c : Char} (other : c ∉ referenceMark.tail) :
    ¬ Straddles front (c :: rest) := by
  rintro ⟨start, finish, started, finished, mark, -, late⟩
  cases start with
  | nil => exact started rfl
  | cons e start =>
    cases finish with
    | nil => exact finished rfl
    | cons d finish =>
      obtain ⟨rfl, -⟩ := List.cons_prefix_cons.mp late
      rw [← mark] at other
      simp at other

/-- A mark that begins behind a reference straddles the same boundary. -/
theorem Straddles.of_reference {opened inside after back : Text}
    (closes : Delimiter.paren.enclosed 0 opened = some (inside, after))
    (meets : Straddles after back) : Straddles (referenceMark ++ opened) back := by
  rw [Delimiter.enclosed_eq_some closes, List.append_cons, ← List.append_assoc]
  exact meets.append_left _

theorem mark_prefix_append {front back : Text} (solid : front ≠ [])
    (apart : ¬ Straddles front back) (h : referenceMark <+: front ++ back) :
    referenceMark <+: front := by
  obtain ⟨tail, eq⟩ := h
  rcases List.append_eq_append_iff.mp eq with ⟨more, longer, -⟩ | ⟨finish, mark, late⟩
  · exact ⟨more, longer.symm⟩
  · cases finish with
    | nil => exact ⟨[], by rw [mark, List.append_nil, List.append_nil]⟩
    | cons c finish =>
      exact absurd ⟨front, c :: finish, solid, List.cons_ne_nil c finish, mark.symm,
        List.suffix_rfl, tail, late.symm⟩ apart

/-- A text is taken apart as the scan for references does it: a character, a reference that is
never closed, or a reference with what follows it. -/
theorem reference_induction {motive : Text → Prop} (nil : motive [])
    (plain : ∀ c rest, ¬ referenceMark <+: c :: rest → motive rest → motive (c :: rest))
    (unclosed : ∀ opened, Delimiter.paren.enclosed 0 opened = none →
      motive (referenceMark ++ opened))
    (reference : ∀ opened inside after,
      Delimiter.paren.enclosed 0 opened = some (inside, after) →
      (∀ fallback, fallback? inside = some fallback → motive fallback) → motive after →
        motive (referenceMark ++ opened))
    (text : Text) : motive text := by
  induction length : text.length using Nat.strongRecOn generalizing text with
  | ind size ih =>
    cases text with
    | nil => exact nil
    | cons c rest =>
      by_cases marked : referenceMark <+: c :: rest
      · obtain ⟨opened, eq⟩ := marked
        rw [← eq] at length ⊢
        rw [List.length_append] at length
        cases closes : Delimiter.paren.enclosed 0 opened with
        | none => exact unclosed opened closes
        | some parts =>
          obtain ⟨inside, after⟩ := parts
          have inner := Delimiter.length_of_enclosed closes
          refine reference opened inside after closes (fun fallback found => ?_) ?_
          · have := length_fallback? found
            exact ih fallback.length (by omega) fallback rfl
          · exact ih after.length (by omega) after rfl
      · exact plain c rest marked (ih rest.length (by simp [← length]) rest rfl)

/-! ### One step of the scan -/

/-- One text resolved behind another. -/
def Resolution.append (first second : Resolution) : Resolution :=
  ⟨first.text ++ second.text, first.events ++ second.events⟩

theorem Resolution.text_append (first second : Resolution) :
    (first.append second).text = first.text ++ second.text := rfl

theorem Resolution.append_assoc (first second third : Resolution) :
    (first.append second).append third = first.append (second.append third) := by
  simp [Resolution.append]

theorem cut?_mark (rest : Text) : cut? referenceMark (referenceMark ++ rest) = some ([], rest) := by
  rw [referenceMark, List.cons_append, cut?, if_pos (by simp)]
  simp

section

variable {values : Variables} {seen : List Text}

theorem resolveFrom_unmarked {value : Text} (unmarked : cut? referenceMark value = none)
    (offset : Nat) : resolveFrom values seen offset value = ⟨value, []⟩ := by
  rw [resolveFrom]
  split
  · rfl
  · next found => simp [unmarked] at found

theorem resolveFrom_unclosed {value before opened : Text}
    (found : cut? referenceMark value = some (before, opened))
    (unclosed : Delimiter.paren.enclosed 0 opened = none) (offset : Nat) :
    resolveFrom values seen offset value =
      ⟨value, [.unclosedReference (offset + before.length)]⟩ := by
  rw [resolveFrom]
  split
  · next unmarked => simp [found] at unmarked
  · next before' opened' found' =>
    obtain ⟨rfl, rfl⟩ := Prod.mk.inj (Option.some.inj (found.symm.trans found'))
    split
    · rfl
    · next closed => simp [unclosed] at closed

/-- A text with its references replaced, where the names in `seen` are being replaced already. -/
def resolved (values : Variables) (seen : List Text) (value : Text) : Text :=
  (resolveFrom values seen 0 value).text

/-- What stands for a reference, given what it has between its parentheses. -/
def replaced (values : Variables) (seen : List Text) (inside : Text) : Text :=
  match replacement? values seen (referenceName inside) with
  | some value => resolved values (referenceName inside :: seen) value
  | none =>
    match fallback? inside with
    | some fallback => resolved values seen fallback
    | none => referenceMark ++ inside ++ [')']

/-- What is told about a reference. -/
def told (values : Variables) (seen : List Text) (inside : Text) : List Event :=
  match replacement? values seen (referenceName inside) with
  | some value => (resolveFrom values (referenceName inside :: seen) 0 value).events
  | none =>
    match fallback? inside with
    | some fallback => (resolveFrom values seen 0 fallback).events
    | none => [.unresolvedVariable (String.ofList (referenceName inside))]

theorem resolveFrom_found {value before opened inside after : Text}
    (found : cut? referenceMark value = some (before, opened))
    (closed : Delimiter.paren.enclosed 0 opened = some (inside, after)) (offset : Nat) :
    resolveFrom values seen offset value =
      Resolution.append ⟨before ++ replaced values seen inside, told values seen inside⟩
        (resolveFrom values seen
          (offset + before.length + referenceMark.length + inside.length + 1) after) := by
  rw [resolveFrom]
  split
  · next unmarked => simp [found] at unmarked
  · next before' opened' found' =>
    obtain ⟨rfl, rfl⟩ := Prod.mk.inj (Option.some.inj (found.symm.trans found'))
    split
    · next unclosed => simp [closed] at unclosed
    · next inside' after' closed' =>
      obtain ⟨rfl, rfl⟩ := Prod.mk.inj (Option.some.inj (closed.symm.trans closed'))
      unfold replaced told
      split
      · next value' some =>
        rw [some]
        rfl
      · next none =>
        rw [none]
        dsimp only
        split
        · next fallback some =>
          rw [some]
          rfl
        · next missing =>
          rw [missing]
          rfl

theorem resolveFrom_nil (offset : Nat) : resolveFrom values seen offset [] = ⟨[], []⟩ :=
  resolveFrom_unmarked rfl offset

theorem resolveFrom_cons {c : Char} {rest : Text} (unmarked : ¬ referenceMark <+: c :: rest)
    (offset : Nat) :
    resolveFrom values seen offset (c :: rest) =
      Resolution.append ⟨[c], []⟩ (resolveFrom values seen (offset + 1) rest) := by
  have later := cut?_cons unmarked
  cases found : cut? referenceMark rest with
  | none =>
    rw [found] at later
    rw [resolveFrom_unmarked later, resolveFrom_unmarked found]
    rfl
  | some parts =>
    obtain ⟨before, opened⟩ := parts
    rw [found] at later
    have behind : offset + (c :: before).length = offset + 1 + before.length := by
      rw [List.length_cons]
      omega
    cases closed : Delimiter.paren.enclosed 0 opened with
    | none =>
      rw [resolveFrom_unclosed later closed, resolveFrom_unclosed found closed, behind]
      rfl
    | some parts =>
      obtain ⟨inside, after⟩ := parts
      rw [resolveFrom_found later closed, resolveFrom_found found closed, behind]
      rfl

theorem resolveFrom_reference {opened inside after : Text}
    (closed : Delimiter.paren.enclosed 0 opened = some (inside, after)) (offset : Nat) :
    resolveFrom values seen offset (referenceMark ++ opened) =
      Resolution.append ⟨replaced values seen inside, told values seen inside⟩
        (resolveFrom values seen (offset + referenceMark.length + inside.length + 1) after) := by
  rw [resolveFrom_found (cut?_mark opened) closed, List.nil_append, List.length_nil, Nat.add_zero offset]

theorem text_resolveFrom (offset : Nat) (value : Text) :
    (resolveFrom values seen offset value).text = resolved values seen value := by
  induction length : value.length using Nat.strongRecOn generalizing offset value with
  | ind size ih =>
    unfold resolved
    cases found : cut? referenceMark value with
    | none => rw [resolveFrom_unmarked found, resolveFrom_unmarked found]
    | some parts =>
      obtain ⟨before, opened⟩ := parts
      cases closed : Delimiter.paren.enclosed 0 opened with
      | none => rw [resolveFrom_unclosed found closed, resolveFrom_unclosed found closed]
      | some parts =>
        obtain ⟨inside, after⟩ := parts
        have outer := length_of_cut? found
        have inner := Delimiter.length_of_enclosed closed
        have shorter : after.length < size := by omega
        rw [resolveFrom_found found closed, resolveFrom_found found closed, Resolution.text_append,
          Resolution.text_append, ih after.length shorter _ after rfl,
          ih after.length shorter _ after rfl]

theorem resolved_nil : resolved values seen [] = [] := congrArg Resolution.text (resolveFrom_nil 0)

theorem resolved_cons {c : Char} {rest : Text} (unmarked : ¬ referenceMark <+: c :: rest) :
    resolved values seen (c :: rest) = c :: resolved values seen rest := by
  rw [resolved, resolveFrom_cons unmarked, Resolution.text_append, text_resolveFrom]
  rfl

theorem resolved_reference {opened inside after : Text}
    (closed : Delimiter.paren.enclosed 0 opened = some (inside, after)) :
    resolved values seen (referenceMark ++ opened) =
      replaced values seen inside ++ resolved values seen after := by
  rw [resolved, resolveFrom_reference closed, Resolution.text_append, text_resolveFrom]

theorem resolved_balanced {inside : Text} (balanced : Delimiter.paren.Balanced inside)
    (rest : Text) :
    resolved values seen (referenceMark ++ inside ++ ')' :: rest) =
      replaced values seen inside ++ resolved values seen rest := by
  rw [List.append_assoc]
  exact resolved_reference (Delimiter.enclosed_of_balanced (by decide) balanced rest)

theorem resolved_char {c : Char} (other : c ≠ 'v') (rest : Text) :
    resolved values seen (c :: rest) = c :: resolved values seen rest :=
  resolved_cons fun starts => other (List.cons_prefix_cons.mp starts).1.symm

end

/-! ### Texts that are resolved one after the other -/

/-- Every reference that the scan of a text meets is closed in it. -/
inductive ReferencesClosed : Text → Prop
  | nil : ReferencesClosed []
  | plain {c : Char} {rest : Text} :
      ¬ referenceMark <+: c :: rest → ReferencesClosed rest → ReferencesClosed (c :: rest)
  | reference {opened inside after : Text} :
      Delimiter.paren.enclosed 0 opened = some (inside, after) → ReferencesClosed after →
        ReferencesClosed (referenceMark ++ opened)

theorem resolveFrom_append {values : Variables} {seen : List Text} {front back : Text}
    (closed : ReferencesClosed front) (apart : ¬ Straddles front back) (offset : Nat) :
    resolveFrom values seen offset (front ++ back) =
      (resolveFrom values seen offset front).append
        (resolveFrom values seen (offset + front.length) back) := by
  induction closed generalizing offset with
  | nil =>
    rw [resolveFrom_nil]
    rfl
  | @plain c rest unmarked _ ih =>
    have apartRest : ¬ Straddles rest back := fun meets => apart (meets.append_left [c])
    have unmarkedHere : ¬ referenceMark <+: c :: (rest ++ back) := fun starts =>
      unmarked (mark_prefix_append (List.cons_ne_nil c rest) apart starts)
    rw [List.cons_append, resolveFrom_cons unmarkedHere, resolveFrom_cons unmarked, ih apartRest,
      Resolution.append_assoc, List.length_cons, Nat.add_comm rest.length, Nat.add_assoc]
  | @reference opened inside after closes _ ih =>
    have apartRest : ¬ Straddles after back := fun meets => apart (meets.of_reference closes)
    have behind : offset + (referenceMark ++ opened).length =
        offset + referenceMark.length + inside.length + 1 + after.length := by
      rw [Delimiter.enclosed_eq_some closes]
      simp only [List.length_append, List.length_cons]
      omega
    rw [List.append_assoc, resolveFrom_reference (Delimiter.enclosed_append_right closes back),
      resolveFrom_reference closes, ih apartRest, Resolution.append_assoc, behind]

theorem resolved_append {values : Variables} {seen : List Text} {front back : Text}
    (closed : ReferencesClosed front) (apart : ¬ Straddles front back) :
    resolved values seen (front ++ back) =
      resolved values seen front ++ resolved values seen back := by
  rw [resolved, resolveFrom_append closed apart, Resolution.text_append, text_resolveFrom,
    text_resolveFrom]

theorem ReferencesClosed.append {front back : Text} (closed : ReferencesClosed front)
    (closedBack : ReferencesClosed back) (apart : ¬ Straddles front back) :
    ReferencesClosed (front ++ back) := by
  induction closed with
  | nil => exact closedBack
  | @plain c rest unmarked _ ih =>
    have apartRest : ¬ Straddles rest back := fun meets => apart (meets.append_left [c])
    exact .plain (fun starts => unmarked (mark_prefix_append (List.cons_ne_nil c rest) apart starts))
      (ih apartRest)
  | @reference opened inside after closes _ ih =>
    have apartRest : ¬ Straddles after back := fun meets => apart (meets.of_reference closes)
    rw [List.append_assoc]
    exact .reference (Delimiter.enclosed_append_right closes back) (ih apartRest)

theorem ReferencesClosed.balanced {inside rest : Text} (balanced : Delimiter.paren.Balanced inside)
    (closed : ReferencesClosed rest) : ReferencesClosed (referenceMark ++ inside ++ ')' :: rest) := by
  rw [List.append_assoc]
  exact .reference (Delimiter.enclosed_of_balanced (by decide) balanced rest) closed

theorem ReferencesClosed.char {c : Char} {rest : Text} (other : c ≠ 'v')
    (closed : ReferencesClosed rest) : ReferencesClosed (c :: rest) :=
  .plain (fun starts => other (List.cons_prefix_cons.mp starts).1.symm) closed

theorem not_mark_prefix_of_free {text : Text} (free : Delimiter.paren.Free text) :
    ¬ referenceMark <+: text :=
  fun starts => free.1 (starts.subset (by decide))

theorem referencesClosed_of_free {text : Text} (free : Delimiter.paren.Free text) :
    ReferencesClosed text := by
  induction text with
  | nil => exact .nil
  | cons c rest ih => exact .plain (not_mark_prefix_of_free free) (ih free.of_cons.2.2)

theorem resolved_of_free {values : Variables} {seen : List Text} {text : Text}
    (free : Delimiter.paren.Free text) : resolved values seen text = text := by
  induction text with
  | nil => exact resolved_nil
  | cons c rest ih => rw [resolved_cons (not_mark_prefix_of_free free), ih free.of_cons.2.2]

end PageClip.Stylesheet
