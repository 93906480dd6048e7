import PageClip.Proofs.Stylesheet.Resolution
import PageClip.Proofs.Table
import PageClip.Proofs.Text.Blank

/-!
# Values that a text reaches

A text with its references replaced is put together from what it says itself and from
what the values say that its references reach, at any depth: `mem_resolved_iff`.
-/

namespace PageClip.Stylesheet

open PageClip.Text

theorem fallback?_subset {inside fallback : Text} (h : fallback? inside = some fallback) :
    fallback ⊆ inside := by
  have behind {depth : Nat} {text after : Text} (found : (splitAtComma depth text).2 = some after) :
      after ⊆ text := by
    induction text generalizing depth with
    | nil => cases found
    | cons c rest ih =>
      simp only [splitAtComma] at found
      split at found
      · obtain rfl := Option.some.inj found
        exact List.subset_cons_self c rest
      · exact List.Subset.trans (ih found) (List.subset_cons_self c rest)
  obtain ⟨after, found, rfl⟩ := Option.map_eq_some_iff.mp h
  exact List.Subset.trans (trim_isInfix after).subset (behind found)

/-! ### What a text says itself -/

/-- The same names, each set to nothing. -/
def emptied (values : Variables) : Variables := values.map fun (name, _) => (name, [])

/-- What a text says outside the references that a value replaces. -/
def ownText (values : Variables) (seen : List Text) (text : Text) : Text :=
  resolved (emptied values) seen text

section

variable {values : Variables} {seen : List Text}

theorem replacement?_emptied (name : Text) :
    replacement? (emptied values) seen name = (replacement? values seen name).map fun _ => [] := by
  unfold replacement?
  split
  · rfl
  · exact Table.find?_mapValue name (fun _ => []) values

/-- A reference stands for a value, or for its fallback, or for itself. -/
theorem replaced_cases (values : Variables) (seen : List Text) (inside : Text) :
    (∃ value, replacement? values seen (referenceName inside) = some value ∧
      replaced values seen inside = resolved values (referenceName inside :: seen) value ∧
      replaced (emptied values) seen inside = []) ∨
    (∃ fallback, replacement? values seen (referenceName inside) = none ∧
      fallback? inside = some fallback ∧
      replaced values seen inside = resolved values seen fallback ∧
      replaced (emptied values) seen inside = ownText values seen fallback) ∨
    (replaced values seen inside = referenceMark ++ inside ++ [')'] ∧
      replaced (emptied values) seen inside = referenceMark ++ inside ++ [')']) := by
  unfold replaced ownText
  rw [replacement?_emptied]
  cases entered : replacement? values seen (referenceName inside) with
  | some value => exact .inl ⟨value, rfl, rfl, resolved_nil⟩
  | none =>
    cases found : fallback? inside with
    | some fallback => exact .inr (.inl ⟨fallback, rfl, rfl, rfl, rfl⟩)
    | none => exact .inr (.inr ⟨rfl, rfl⟩)

theorem ownText_subset (text : Text) : ownText values seen text ⊆ text := by
  unfold ownText
  induction text using reference_induction with
  | nil =>
    rw [resolved_nil]
    exact List.Subset.refl []
  | plain c rest unmarked ih =>
    rw [resolved_cons unmarked]
    exact List.cons_subset_cons c ih
  | unclosed opened closes =>
    rw [resolved_unclosed closes]
    exact List.Subset.refl _
  | reference opened inside after closes ihFallback ih =>
    obtain rfl := Delimiter.enclosed_eq_some closes
    rw [resolved_reference closes]
    have within : inside ⊆ referenceMark ++ (inside ++ ')' :: after) := by simp
    have behind : after ⊆ referenceMark ++ (inside ++ ')' :: after) :=
      (List.suffix_cons _ after |>.trans (List.suffix_append inside _)
        |>.trans (List.suffix_append referenceMark _)).subset
    refine List.append_subset.mpr ⟨?_, List.Subset.trans ih behind⟩
    rcases replaced_cases values seen inside with
      ⟨value, -, -, own⟩ | ⟨fallback, -, found, -, own⟩ | ⟨-, own⟩
    · rw [own]
      exact List.nil_subset _
    · rw [own]
      exact List.Subset.trans (ihFallback fallback found)
        (List.Subset.trans (fallback?_subset found) within)
    · rw [own]
      simp [Delimiter.paren]

end

/-! ### Variables that a text refers to -/

/-- The scan of a text comes upon a reference that it replaces by the value of a variable. -/
inductive Enters (values : Variables) (seen : List Text) : Text → Text → Text → Prop
  | here {opened inside after value : Text} :
    Delimiter.paren.enclosed 0 opened = some (inside, after) →
    replacement? values seen (referenceName inside) = some value →
      Enters values seen (referenceMark ++ opened) (referenceName inside) value
  | fallback {opened inside after fallback name value : Text} :
    Delimiter.paren.enclosed 0 opened = some (inside, after) →
    replacement? values seen (referenceName inside) = none →
    fallback? inside = some fallback → Enters values seen fallback name value →
      Enters values seen (referenceMark ++ opened) name value
  | behind {opened inside after name value : Text} :
    Delimiter.paren.enclosed 0 opened = some (inside, after) → Enters values seen after name value →
      Enters values seen (referenceMark ++ opened) name value
  | plain {c : Char} {rest name value : Text} :
    ¬ referenceMark <+: c :: rest → Enters values seen rest name value →
      Enters values seen (c :: rest) name value

/-- Replacing the references of a text comes to a value, by one reference or through the values of
others. The lists hold the names that are being replaced. -/
inductive Reaches (values : Variables) : List Text → Text → List Text → Text → Prop
  | enters {seen : List Text} {text name value : Text} :
    Enters values seen text name value → Reaches values seen text (name :: seen) value
  | through {seen names : List Text} {text name value last : Text} :
    Enters values seen text name value → Reaches values (name :: seen) value names last →
      Reaches values seen text names last

section

variable {values : Variables} {seen : List Text} {text : Text}

theorem Enters.replacement? {name value : Text} (h : Enters values seen text name value) :
    replacement? values seen name = some value := by
  induction h with
  | here _ entered => exact entered
  | fallback _ _ _ _ ih => exact ih
  | behind _ _ ih => exact ih
  | plain _ _ ih => exact ih

theorem Enters.ne_nil {name value : Text} (h : Enters values seen text name value) : text ≠ [] := by
  cases h with
  | here | fallback | behind => exact List.append_ne_nil_of_left_ne_nil (by decide) _
  | plain => exact List.cons_ne_nil _ _

theorem Enters.subset {name value : Text} (h : Enters values seen text name value) :
    resolved values (name :: seen) value ⊆ resolved values seen text := by
  induction h with
  | here closes entered =>
    rw [resolved_reference closes, replaced, entered]
    exact List.subset_append_left _ _
  | fallback closes barred found _ ih =>
    rw [resolved_reference closes, replaced, barred, found]
    exact List.Subset.trans ih (List.subset_append_left _ _)
  | behind closes _ ih =>
    rw [resolved_reference closes]
    exact List.Subset.trans ih (List.subset_append_right _ _)
  | plain unmarked _ ih =>
    rw [resolved_cons unmarked]
    exact List.Subset.trans ih (List.subset_cons_self _ _)

theorem ownText_subset_resolved (text : Text) :
    ownText values seen text ⊆ resolved values seen text := by
  unfold ownText
  induction text using reference_induction with
  | nil =>
    rw [resolved_nil]
    exact List.nil_subset _
  | plain c rest unmarked ih =>
    rw [resolved_cons unmarked, resolved_cons unmarked]
    exact List.cons_subset_cons c ih
  | unclosed opened closes =>
    rw [resolved_unclosed closes, resolved_unclosed closes]
    exact List.Subset.refl _
  | reference opened inside after closes ihFallback ih =>
    rw [resolved_reference closes, resolved_reference closes]
    refine List.append_subset.mpr ⟨?_, List.Subset.trans ih (List.subset_append_right _ _)⟩
    refine List.Subset.trans ?_ (List.subset_append_left _ _)
    rcases replaced_cases values seen inside with
      ⟨value, -, -, own⟩ | ⟨fallback, -, found, whole, own⟩ | ⟨whole, own⟩
    · rw [own]
      exact List.nil_subset _
    · rw [own, whole]
      exact ihFallback fallback found
    · rw [own, whole]
      exact List.Subset.refl _

theorem own_or_enters_of_mem {c : Char} (member : c ∈ resolved values seen text) :
    c ∈ ownText values seen text ∨
      ∃ name value, Enters values seen text name value ∧ c ∈ resolved values (name :: seen) value := by
  unfold ownText
  induction text using reference_induction with
  | nil => simp [resolved_nil] at member
  | plain d rest unmarked ih =>
    rw [resolved_cons unmarked] at member ⊢
    rcases List.mem_cons.mp member with rfl | later
    · exact .inl List.mem_cons_self
    rcases ih later with own | ⟨name, value, enters, found⟩
    · exact .inl (List.mem_cons_of_mem d own)
    · exact .inr ⟨name, value, .plain unmarked enters, found⟩
  | unclosed opened closes =>
    rw [resolved_unclosed closes] at member ⊢
    exact .inl member
  | reference opened inside after closes ihFallback ih =>
    rw [resolved_reference closes] at member ⊢
    rcases List.mem_append.mp member with here | later
    · rcases replaced_cases values seen inside with
        ⟨value, entered, whole, -⟩ | ⟨fallback, barred, found, whole, own⟩ | ⟨whole, own⟩
      · exact .inr ⟨_, value, .here closes entered, whole ▸ here⟩
      · rcases ihFallback fallback found (whole ▸ here) with said | ⟨name, value, enters, later⟩
        · exact .inl (List.mem_append_left _ (own ▸ said))
        · exact .inr ⟨name, value, .fallback closes barred found enters, later⟩
      · exact .inl (List.mem_append_left _ (own.trans whole.symm ▸ here))
    · rcases ih later with own | ⟨name, value, enters, found⟩
      · exact .inl (List.mem_append_right _ own)
      · exact .inr ⟨name, value, .behind closes enters, found⟩

theorem Reaches.subset {names : List Text} {value : Text} (h : Reaches values seen text names value) :
    resolved values names value ⊆ resolved values seen text := by
  induction h with
  | enters enters => exact enters.subset
  | through enters _ ih => exact List.Subset.trans ih enters.subset

theorem Reaches.ne_nil {names : List Text} {value : Text} (h : Reaches values seen text names value) :
    text ≠ [] := by
  cases h with
  | enters enters | through enters _ => exact enters.ne_nil

theorem Reaches.mem_values {names : List Text} {value : Text}
    (h : Reaches values seen text names value) : ∃ name, (name, value) ∈ values := by
  induction h with
  | @enters seen _ name _ enters =>
    have found := enters.replacement?
    unfold Stylesheet.replacement? at found
    split at found
    · cases found
    · exact ⟨name, Table.mem_of_find? found⟩
  | through _ _ ih => exact ih

/-- A character of a text with its references replaced stands in the text itself or in a value that
the text reaches, each time outside the references that are replaced there. -/
theorem mem_resolved_iff {c : Char} :
    c ∈ resolved values seen text ↔ c ∈ ownText values seen text ∨
      ∃ names value, Reaches values seen text names value ∧ c ∈ ownText values names value := by
  constructor
  · -- Each value that is entered leaves fewer names that may still be entered.
    intro member
    induction left : unseen values seen using Nat.strongRecOn generalizing seen text with
    | ind left ih =>
      rcases own_or_enters_of_mem member with own | ⟨name, value, enters, found⟩
      · exact .inl own
      have fewer := unseen_lt enters.replacement?
      rcases ih _ (left ▸ fewer) found rfl with own | ⟨names, last, reaches, own⟩
      · exact .inr ⟨name :: seen, value, .enters enters, own⟩
      · exact .inr ⟨names, last, .through enters reaches, own⟩
  · rintro (own | ⟨names, value, reaches, own⟩)
    · exact ownText_subset_resolved text own
    · exact reaches.subset (ownText_subset_resolved value own)

/-- A text without the delimiters gets them from the values that it reaches, if at all. -/
theorem free_resolved_iff {d : Delimiter} (free : d.Free text) :
    d.Free (resolved values seen text) ↔
      ∀ names value, Reaches values seen text names value → d.Free (ownText values names value) := by
  constructor
  · intro whole names value reaches
    exact whole.of_subset (List.Subset.trans (ownText_subset_resolved value) reaches.subset)
  · intro each
    have absent {c : Char} (here : c ∉ text)
        (there : ∀ names value, Reaches values seen text names value →
          c ∉ ownText values names value) : c ∉ resolved values seen text := by
      intro member
      rcases mem_resolved_iff.mp member with own | ⟨names, value, reaches, own⟩
      · exact here (ownText_subset text own)
      · exact there names value reaches own
    exact ⟨absent free.1 fun names value reaches => (each names value reaches).1,
      absent free.2 fun names value reaches => (each names value reaches).2⟩

end

end PageClip.Stylesheet
