import PageClip.Proofs.Stylesheet.AtRule

/-!
# Plain text around at-rules

What is left once the at-rules are taken out holds no further one, also where the
scan has broken off at a block that is never closed: `splitAtRules_plain`. Taking
at-rules out of it changes nothing.
-/

namespace PageClip.Stylesheet

/-- How many blocks are open behind a character. -/
def blocksBehind (depth : Nat) (c : Char) : Nat :=
  if c = '\x7b' then depth + 1 else if c = '\x7d' then depth - 1 else depth

/-- How many blocks are open behind a text. A closing brace that closes none does not count. -/
def openBlocks (depth : Nat) (text : Text) : Nat := text.foldl blocksBehind depth

/-- Behind no at sign outside blocks there is a brace that could open the block of an at-rule or a
semicolon that could end it; `depth` counts the blocks that are open before the text. -/
def AtRuleFree (depth : Nat) (css : Text) : Prop :=
  ∀ front rest, css = front ++ '@' :: rest → openBlocks depth front = 0 → ∀ c ∈ rest, inHeader c

/-- With `depth` blocks open before it, no at sign of a text stands outside blocks and has an
opening brace or a semicolon behind it, where `behind` follows the text. -/
def Quiet (depth : Nat) (text behind : Text) : Prop :=
  ∀ front rest, text = front ++ '@' :: rest → openBlocks depth front = 0 →
    ∀ c ∈ rest ++ behind, inHeader c

theorem quiet_nil (depth : Nat) (behind : Text) : Quiet depth [] behind := by
  intro front rest eq
  simp at eq

theorem quiet_cons_iff {depth : Nat} {c : Char} {text behind : Text} :
    Quiet depth (c :: text) behind ↔
      (c = '@' → depth = 0 → ∀ d ∈ text ++ behind, inHeader d) ∧
        Quiet (blocksBehind depth c) text behind := by
  constructor
  · intro quiet
    refine ⟨?_, fun front rest eq => quiet (c :: front) rest (congrArg (List.cons c) eq)⟩
    rintro rfl outside
    exact quiet [] text rfl outside
  · rintro ⟨here, later⟩ front rest eq
    cases front with
    | nil =>
      obtain ⟨rfl, rfl⟩ := List.cons.inj eq
      exact here rfl
    | cons d front =>
      obtain ⟨rfl, eqRest⟩ := List.cons.inj eq
      exact later front rest eqRest

instance decidableQuiet : (depth : Nat) → (text behind : Text) → Decidable (Quiet depth text behind)
  | depth, [], behind => .isTrue (quiet_nil depth behind)
  | depth, c :: text, behind =>
    have := decidableQuiet (blocksBehind depth c) text behind
    decidable_of_iff _ quiet_cons_iff.symm

theorem atRuleFree_iff {depth : Nat} {css : Text} : AtRuleFree depth css ↔ Quiet depth css [] := by
  simp only [AtRuleFree, Quiet, List.append_nil]

theorem atRuleFree_nil (depth : Nat) : AtRuleFree depth [] :=
  atRuleFree_iff.mpr (quiet_nil depth [])

theorem atRuleFree_cons_iff {depth : Nat} {c : Char} {css : Text} :
    AtRuleFree depth (c :: css) ↔
      (c = '@' → depth = 0 → ∀ d ∈ css, inHeader d) ∧ AtRuleFree (blocksBehind depth c) css := by
  simp only [atRuleFree_iff, quiet_cons_iff, List.append_nil]

theorem blocksBehind_opener (depth : Nat) : blocksBehind depth '\x7b' = depth + 1 := if_pos rfl

theorem blocksBehind_closer (depth : Nat) : blocksBehind depth '\x7d' = depth - 1 := rfl

theorem blocksBehind_plain {c : Char} (notOpener : c ≠ '\x7b') (notCloser : c ≠ '\x7d')
    (depth : Nat) : blocksBehind depth c = depth := by
  rw [blocksBehind, if_neg notOpener, if_neg notCloser]

/-- Behind an at sign that has neither a brace nor a semicolon behind it no other has. -/
theorem atRuleFree_of_inHeader {header : Text} (inside : ∀ c ∈ header, inHeader c) (depth : Nat) :
    AtRuleFree depth header := by
  rintro front rest rfl - c member
  exact inside c (List.mem_append_right _ (List.mem_cons_of_mem _ member))

/-- The scan keeps a character at which no at-rule begins. -/
theorem splitAtFrom_kept {depth : Nat} {c : Char} {css : Text}
    (quiet : c = '@' → depth = 0 → ∀ d ∈ css, inHeader d) (offset : Nat) :
    splitAtFrom offset depth (c :: css) =
      let split := splitAtFrom (offset + 1) (blocksBehind depth c) css
      { split with plain := c :: split.plain } := by
  by_cases starts : c = '@' ∧ depth = 0
  · obtain ⟨rfl, rfl⟩ := starts
    rw [splitAtFrom_unended (quiet rfl rfl), blocksBehind_plain (by decide) (by decide)]
  by_cases opener : c = '\x7b'
  · rw [opener, splitAtFrom_opener, blocksBehind_opener]
  by_cases closer : c = '\x7d'
  · rw [closer, splitAtFrom_closer, blocksBehind_closer]
  · rw [splitAtFrom_plain opener closer starts, blocksBehind_plain opener closer]

theorem splitAtFrom_quiet {depth : Nat} {text behind : Text} (quiet : Quiet depth text behind)
    (offset : Nat) :
    splitAtFrom offset depth (text ++ behind) =
      let split := splitAtFrom (offset + text.length) (openBlocks depth text) behind
      { split with plain := text ++ split.plain } := by
  induction text generalizing depth offset with
  | nil => rfl
  | cons c text ih =>
    obtain ⟨here, later⟩ := quiet_cons_iff.mp quiet
    rw [List.cons_append, splitAtFrom_kept here, ih later, List.length_cons, Nat.add_assoc,
      Nat.add_comm 1]
    rfl

theorem splitAtFrom_of_atRuleFree {depth : Nat} {css : Text} (free : AtRuleFree depth css)
    (offset : Nat) : splitAtFrom offset depth css = ⟨css, [], none⟩ := by
  have whole := splitAtFrom_quiet (atRuleFree_iff.mp free) offset
  rw [List.append_nil] at whole
  rw [whole, splitAtFrom]
  simp

/-- The scan keeps count of the blocks that are open in what it keeps: those it takes out leave as
many open behind them as before, namely none. -/
theorem atRuleFree_plain (offset depth : Nat) (css : Text) :
    AtRuleFree depth (splitAtFrom offset depth css).plain := by
  induction length : css.length using Nat.strongRecOn generalizing offset depth css with
  | ind size ih =>
    have later {rest : Text} (shorter : rest.length < size) (offset depth : Nat) :
        AtRuleFree depth (splitAtFrom offset depth rest).plain :=
      ih rest.length shorter offset depth rest rfl
    cases atStep depth css with
    | nil =>
      rw [splitAtFrom]
      exact atRuleFree_nil depth
    | @opener _ rest =>
      rw [splitAtFrom_opener, atRuleFree_cons_iff, blocksBehind_opener]
      exact ⟨fun at_ => absurd at_ (by decide), later (by simp [← length]) _ _⟩
    | @closer _ rest =>
      rw [splitAtFrom_closer, atRuleFree_cons_iff, blocksBehind_closer]
      exact ⟨fun at_ => absurd at_ (by decide), later (by simp [← length]) _ _⟩
    | @plain _ c rest notOpener notCloser notStart =>
      rw [splitAtFrom_plain notOpener notCloser notStart, atRuleFree_cons_iff,
        blocksBehind_plain notOpener notCloser]
      exact ⟨fun at_ outside => absurd ⟨at_, outside⟩ notStart, later (by simp [← length]) _ _⟩
    | @unended header inside =>
      -- No brace and no semicolon is left, so that the rest is kept as it stands.
      have free := atRuleFree_of_inHeader inside 0
      rw [splitAtFrom_unended inside, splitAtFrom_of_atRuleFree free, atRuleFree_cons_iff]
      exact ⟨fun _ _ => inside, free⟩
    | @statement header tail inside =>
      rw [splitAtFrom_statement inside]
      exact later (by simp [← length]; omega) _ _
    | unclosed inside unclosed =>
      rw [splitAtFrom_unclosed inside unclosed]
      exact atRuleFree_nil 0
    | @block header body after inside balanced =>
      rw [splitAtFrom_block inside balanced]
      exact later (by simp [← length]; omega) _ _

theorem splitAtRules_eq_self_iff {css : Text} :
    splitAtRules css = ⟨css, [], none⟩ ↔ AtRuleFree 0 css := by
  constructor
  · intro same
    have free : AtRuleFree 0 (splitAtRules css).plain := atRuleFree_plain 0 0 css
    rwa [same] at free
  · intro free
    exact splitAtFrom_of_atRuleFree free 0

/-- No at-rule can be split off what at-rules have been split off from. -/
theorem splitAtRules_plain (css : Text) :
    AtRuleFree 0 (splitAtRules css).plain ∧
      splitAtRules (splitAtRules css).plain = ⟨(splitAtRules css).plain, [], none⟩ := by
  have free : AtRuleFree 0 (splitAtRules css).plain := atRuleFree_plain 0 0 css
  exact ⟨free, splitAtRules_eq_self_iff.mpr free⟩

/-- An at sign inside a block stays, and so does one behind which nothing can end an at-rule. -/
example : (splitAtRules "a\x7b@x\x7b\x7db\x7d@media\x7bc\x7dd@import x;\x7d\x7de@f".toList).plain =
    "a\x7b@x\x7b\x7db\x7dd\x7d\x7de@f".toList := by
  decide +kernel

end PageClip.Stylesheet
