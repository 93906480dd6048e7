import PageClip.Proofs.Stylesheet.Delimiter

/-!
# Matching closers

Which closer belongs to an opener is said by counting alone: up to it, and not
before, there are as many closers as openers. The scan finds that closer
wherever there is one.
-/

namespace PageClip.Stylesheet.Delimiter

/-- A text that ends where its first opener is closed: until then openers are pending. -/
structure IsBlock (d : Delimiter) (block : Text) : Prop where
  even : block.count d.opener = block.count d.closer
  ends : block.getLast? = some d.closer
  pending : ∀ front, front <+: block → front ≠ [] → front ≠ block →
    front.count d.closer < front.count d.opener

/-- What stands from `index` up to `stop` is the block of the opener at `index`. -/
structure Matches (d : Delimiter) (text : Text) (index stop : Nat) : Prop where
  later : index < stop
  block : d.IsBlock (text.extract index stop)

variable {d : Delimiter}

/-! ### Counting instead of levels -/

theorem forall_prefix_cons_iff {holds : Text → Prop} {c : Char} {rest : Text} :
    (∀ front, front <+: c :: rest → holds front) ↔
      holds [] ∧ ∀ front, front <+: rest → holds (c :: front) := by
  constructor
  · intro all
    exact ⟨all [] List.nil_prefix, fun front part => all _ (List.cons_prefix_cons.mpr ⟨rfl, part⟩)⟩
  · rintro ⟨empty, longer⟩ front part
    rcases List.prefix_cons_iff.mp part with rfl | ⟨front, rfl, shorter⟩
    · exact empty
    · exact longer front shorter

/-- A level is what the openers are more than the closers, unless a prefix has too many closers. -/
theorem level_eq_some_iff (distinct : d.opener ≠ d.closer) {depth reached : Nat} {text : Text} :
    d.level depth text = some reached ↔
      text.count d.opener + depth = text.count d.closer + reached ∧
        ∀ front, front <+: text → front.count d.closer ≤ front.count d.opener + depth := by
  induction text generalizing depth with
  | nil => simp [level, List.prefix_nil]
  | cons c rest ih =>
    rw [forall_prefix_cons_iff]
    by_cases closer : c = d.closer
    · subst closer
      simp only [List.count_cons_self, List.count_cons_of_ne distinct.symm, List.count_nil,
        Nat.zero_le, true_and]
      cases depth with
      | zero =>
        rw [level, if_pos rfl]
        constructor
        · intro found
          cases found
        · -- the closer by itself has no opener
          rintro ⟨-, longer⟩
          have alone := longer [] List.nil_prefix
          simp at alone
      | succ depth =>
        rw [level_closer_succ, ih]
        exact and_congr (by omega) (forall₂_congr fun front _ => by omega)
    · by_cases opener : c = d.opener
      · subst opener
        rw [level_opener distinct, ih]
        simp only [List.count_cons_self, List.count_cons_of_ne distinct, List.count_nil,
          Nat.zero_le, true_and]
        exact and_congr (by omega) (forall₂_congr fun front _ => by omega)
      · rw [level_plain opener closer, ih]
        simp only [List.count_cons_of_ne opener, List.count_cons_of_ne closer, List.count_nil,
          Nat.zero_le, true_and]

theorem balanced_iff_count (distinct : d.opener ≠ d.closer) {text : Text} :
    d.Balanced text ↔ text.count d.opener = text.count d.closer ∧
      ∀ front, front <+: text → front.count d.closer ≤ front.count d.opener := by
  rw [balanced_iff_level distinct, level_eq_some_iff distinct]
  simp only [Nat.add_zero]

/-! ### Blocks -/

/-- The prefixes of a block that are neither empty nor the whole. -/
theorem proper_prefix_iff {first last : Char} {inside front : Text} :
    (front <+: first :: inside ++ [last] ∧ front ≠ [] ∧ front ≠ first :: inside ++ [last]) ↔
      ∃ part, part <+: inside ∧ first :: part = front := by
  constructor
  · rintro ⟨shorter, nonempty, proper⟩
    rcases List.prefix_concat_iff.mp shorter with rfl | shorter
    · exact absurd rfl proper
    rcases List.prefix_cons_iff.mp shorter with rfl | ⟨part, rfl, inner⟩
    · exact absurd rfl nonempty
    · exact ⟨part, inner, rfl⟩
  · rintro ⟨part, inner, rfl⟩
    have shorter : first :: part <+: first :: inside := List.cons_prefix_cons.mpr ⟨rfl, inner⟩
    refine ⟨shorter.trans (List.prefix_append ..), nofun, fun same => ?_⟩
    have lengths := congrArg List.length same
    have bound := shorter.length_le
    rw [List.length_append, List.length_singleton] at lengths
    omega

theorem isBlock_iff (distinct : d.opener ≠ d.closer) {inside : Text} :
    d.IsBlock (d.opener :: inside ++ [d.closer]) ↔ d.Balanced inside := by
  have openers : (d.opener :: inside ++ [d.closer]).count d.opener = inside.count d.opener + 1 := by
    simp [List.count_cons_of_ne distinct.symm]
  have closers : (d.opener :: inside ++ [d.closer]).count d.closer = inside.count d.closer + 1 := by
    simp [List.count_cons_of_ne distinct]
  have fronts (part : Text) :
      (d.opener :: part).count d.closer < (d.opener :: part).count d.opener ↔
        part.count d.closer ≤ part.count d.opener := by
    rw [List.count_cons_of_ne distinct, List.count_cons_self, Nat.lt_add_one_iff]
  rw [balanced_iff_count distinct]
  constructor
  · rintro ⟨even, -, pending⟩
    refine ⟨by omega, fun part inner => (fronts part).mp ?_⟩
    obtain ⟨shorter, nonempty, proper⟩ := proper_prefix_iff.mpr ⟨part, inner, rfl⟩
    exact pending _ shorter nonempty proper
  · rintro ⟨even, inner⟩
    refine ⟨by omega, List.getLast?_concat .., fun front shorter nonempty proper => ?_⟩
    obtain ⟨part, within, rfl⟩ := proper_prefix_iff.mp ⟨shorter, nonempty, proper⟩
    exact (fronts part).mpr (inner part within)

theorem IsBlock.exists_inside (distinct : d.opener ≠ d.closer) {rest : Text}
    (block : d.IsBlock (d.opener :: rest)) :
    ∃ inside, rest = inside ++ [d.closer] ∧ d.Balanced inside := by
  obtain ⟨front, eq⟩ := List.getLast?_eq_some_iff.mp block.ends
  cases front with
  | nil => exact absurd (List.cons.inj eq).1 distinct
  | cons c inside =>
    obtain ⟨rfl, rfl⟩ := List.cons.inj eq
    exact ⟨inside, rfl, (isBlock_iff distinct).mp block⟩

/-! ### The scan -/

theorem exists_split {text : Text} {index : Nat} {c : Char} (found : text[index]? = some c) :
    ∃ front rest, front ++ c :: rest = text ∧ front.length = index := by
  obtain ⟨bound, rfl⟩ := List.getElem?_eq_some_iff.mp found
  refine ⟨text.take index, text.drop (index + 1), ?_, List.length_take_of_le (Nat.le_of_lt bound)⟩
  rw [← List.drop_eq_getElem_cons bound, List.take_append_drop]

theorem extract_append (front back : Text) (size : Nat) :
    (front ++ back).extract front.length (front.length + size) = back.take size := by
  rw [List.extract_eq_take_drop, List.drop_left, Nat.add_sub_cancel_left]

variable {front opened inside after : Text}

theorem Matches.enclosed (distinct : d.opener ≠ d.closer) {stop : Nat}
    (matched : d.Matches (front ++ d.opener :: opened) front.length stop) :
    ∃ inside after, d.enclosed 0 opened = some (inside, after) ∧
      (front ++ d.opener :: opened).extract front.length stop =
        d.opener :: inside ++ [d.closer] := by
  obtain ⟨later, block⟩ := matched
  obtain ⟨size, rfl⟩ := Nat.exists_eq_add_of_lt later
  rw [Nat.add_assoc, extract_append, List.take_succ_cons] at block ⊢
  obtain ⟨inside, eq, balanced⟩ := block.exists_inside distinct
  have found := enclosed_of_balanced distinct balanced (opened.drop size)
  rw [List.append_cons, ← eq, List.take_append_drop] at found
  exact ⟨inside, opened.drop size, found, congrArg _ eq⟩

theorem matches_of_enclosed (distinct : d.opener ≠ d.closer)
    (found : d.enclosed 0 opened = some (inside, after)) :
    d.Matches (front ++ d.opener :: opened) front.length (front.length + (inside.length + 2)) := by
  refine ⟨by omega, ?_⟩
  have slice : (d.opener :: opened).take (inside.length + 2) = d.opener :: inside ++ [d.closer] := by
    rw [enclosed_eq_some found, List.append_cons, ← List.cons_append]
    exact List.take_left' (by simp)
  rw [extract_append, slice]
  exact (isBlock_iff distinct).mpr (balanced_of_enclosed found)

/-- Behind an opener the scan stops at its match, and fails only where there is none. -/
theorem enclosed_matches (distinct : d.opener ≠ d.closer) {text : Text} {index : Nat}
    (opens : text[index]? = some d.opener) :
    (∀ stop ≤ text.length, d.Matches text index stop ↔
      ∃ inside after, d.enclosed 0 (text.drop (index + 1)) = some (inside, after) ∧
        stop = text.length - after.length) ∧
    (d.enclosed 0 (text.drop (index + 1)) = none ↔ ¬ ∃ stop, d.Matches text index stop) ∧
    ∀ stop, d.Matches text index stop → d.Balanced (text.extract index stop) := by
  obtain ⟨front, opened, rfl, rfl⟩ := exists_split opens
  have behind : (front ++ d.opener :: opened).drop (front.length + 1) = opened := by
    rw [← List.drop_drop, List.drop_left, List.drop_one, List.tail_cons]
  rw [behind]
  refine ⟨fun stop within => ⟨fun matched => ?_, ?_⟩, ⟨?_, fun never => ?_⟩, fun stop matched => ?_⟩
  · obtain ⟨inside, after, found, slice⟩ := matched.enclosed distinct
    have sizes := congrArg List.length slice
    have parts := length_of_enclosed found
    refine ⟨inside, after, found, ?_⟩
    simp only [List.length_take, List.length_drop, List.length_append, List.length_cons,
      List.length_nil] at sizes within ⊢
    omega
  · rintro ⟨inside, after, found, rfl⟩
    have parts := length_of_enclosed found
    have stop : (front ++ d.opener :: opened).length - after.length =
        front.length + (inside.length + 2) := by
      rw [List.length_append, List.length_cons]
      omega
    rw [stop]
    exact matches_of_enclosed distinct found
  · rintro none ⟨stop, matched⟩
    obtain ⟨inside, after, found, -⟩ := matched.enclosed distinct
    cases none.symm.trans found
  · cases found : d.enclosed 0 opened with
    | none => rfl
    | some parts => exact absurd ⟨_, matches_of_enclosed distinct found⟩ never
  · obtain ⟨inside, after, found, slice⟩ := matched.enclosed distinct
    rw [slice]
    exact .nested (balanced_of_enclosed found) .nil

/-- A text in which braces and parentheses cross. -/
def crossedText : Text := "a(b\x7bc(d\x7de)f)\x7bg\x7b\x7d".toList

theorem crossedText_matches :
    crossedText[1]? = some paren.opener ∧ paren.Matches crossedText 1 12 ∧
      paren.Balanced (crossedText.extract 1 12) ∧
      crossedText[3]? = some brace.opener ∧ brace.Matches crossedText 3 8 ∧
      crossedText[12]? = some brace.opener ∧ ¬ ∃ stop, brace.Matches crossedText 12 stop := by
  have outer := enclosed_matches (d := paren) (by decide) (show crossedText[1]? = some '(' by decide)
  have inner := enclosed_matches (d := brace) (by decide)
    (show crossedText[3]? = some '\x7b' by decide)
  have last := enclosed_matches (d := brace) (by decide)
    (show crossedText[12]? = some '\x7b' by decide)
  have matched : paren.Matches crossedText 1 12 :=
    (outer.1 12 (by decide)).mpr ⟨_, _, rfl, rfl⟩
  have crossing : brace.Matches crossedText 3 8 := (inner.1 8 (by decide)).mpr ⟨_, _, rfl, rfl⟩
  exact ⟨by decide, matched, outer.2.2 12 matched, by decide, crossing, by decide, last.2.1.mp rfl⟩

end PageClip.Stylesheet.Delimiter
