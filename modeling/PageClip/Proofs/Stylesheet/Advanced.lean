import PageClip.Proofs.Stylesheet.AtRule
import PageClip.Proofs.Stylesheet.Comment
import PageClip.Proofs.Stylesheet.RootBlock
import PageClip.Stylesheet.Advanced

/-!
# At-rules that are handed through

Root blocks are taken out before at-rules are looked for. An at-rule loses those
in its body on the way and is otherwise handed through as written, as long as no
header ends like the one of a root block.
-/

namespace PageClip.Stylesheet

open PageClip.Text

def AtRule.withoutRoots (rule : AtRule) : AtRule :=
  { rule with body := (splitRoot rule.body).remainder, text := (splitRoot rule.text).remainder }

/-! ### Headers -/

theorem dropWhile_append_rootMark {test : Char → Bool} (stops : test ':' = false)
    (front gap : Text) :
    ∃ more, (front ++ (rootMark ++ gap)).dropWhile test = more ++ (rootMark ++ gap) := by
  induction front with
  | nil => exact ⟨[], List.dropWhile_cons_of_neg (by simp [stops])⟩
  | cons c front ih =>
    rw [List.cons_append, List.dropWhile_cons]
    split
    · exact ih
    · exact ⟨c :: front, rfl⟩

theorem rootMark_suffix_prelude {gap : Text} (blank : AllBlank gap) (front body : Text) :
    rootMark <:+ (AtRule.make (front ++ (rootMark ++ gap)) body).prelude := by
  obtain ⟨more, eq⟩ := dropWhile_append_rootMark (show isNamePart ':' = false by decide) front gap
  obtain ⟨rest, eq'⟩ := dropWhile_append_rootMark (show isBlank ':' = false by decide) more []
  show rootMark <:+ trim ((front ++ (rootMark ++ gap)).dropWhile isNamePart)
  rw [eq, ← List.append_assoc, trim_append_blank blank]
  rw [List.append_nil] at eq'
  rw [trim, trimLeft, eq', trimRight_append_rootMark]
  exact List.suffix_append rest rootMark

variable {header body : Text}

theorem opener_not_mem_atHeader (inside : ∀ c ∈ header, inHeader c) : '\x7b' ∉ '@' :: header := by
  intro member
  rcases List.mem_cons.mp member with starts | later
  · exact absurd starts (by decide)
  · exact absurd (inside _ later) (by decide)

theorem rootKeeps_atHeader (inside : ∀ c ∈ header, inHeader c)
    (unrooted : ¬ rootMark <:+ (AtRule.make header body).prelude) :
    RootKeeps ('@' :: header ++ ['\x7b']) := by
  apply rootKeeps_opener (opener_not_mem_atHeader inside)
  · intro front gap blank eq
    cases front with
    | nil => exact absurd (List.cons.inj eq).1 (by decide)
    | cons c front =>
      obtain rfl := (List.cons.inj eq).2
      exact unrooted (rootMark_suffix_prelude blank front body)

theorem rootKeeps_statement (inside : ∀ c ∈ header, inHeader c) :
    RootKeeps ('@' :: header ++ [';']) := by
  apply rootKeeps_concat (opener_not_mem_atHeader inside)
  · decide
  · decide
  · decide

theorem remainder_block (inside : ∀ c ∈ header, inHeader c)
    (unrooted : ¬ rootMark <:+ (AtRule.make header body).prelude)
    (balanced : Delimiter.brace.Balanced body) (after : Text) :
    (splitRoot ('@' :: header ++ '\x7b' :: body ++ '\x7d' :: after)).remainder =
      '@' :: header ++ '\x7b' :: (splitRoot body).remainder ++ '\x7d' :: (splitRoot after).remainder := by
  have closed := rootsClosed_of_closes (balanced.closes (by decide))
  have closer := (splitRoot_cons (show rootBody? ('\x7d' :: after) = none from rfl)).2
  have opened := (rootKeeps_atHeader inside unrooted).remainder (body ++ '\x7d' :: after)
  rw [(splitRoot_append closed (rootApart_closer body after)).2, closer] at opened
  simpa using opened

theorem withoutRoots_make (inside : ∀ c ∈ header, inHeader c)
    (unrooted : ¬ rootMark <:+ (AtRule.make header body).prelude)
    (balanced : Delimiter.brace.Balanced body) :
    (AtRule.make header body).withoutRoots = AtRule.make header (splitRoot body).remainder := by
  have whole := remainder_block inside unrooted balanced []
  rw [splitRoot_nil] at whole
  simp only [AtRule.withoutRoots, AtRule.make, whole]

/-! ### At-rules before and after root blocks are taken out -/

theorem atRules_of_plain {front : Text} (free : Delimiter.brace.Free front) (unmarked : '@' ∉ front)
    (offset depth : Nat) (rest : Text) :
    (splitAtFrom offset depth (front ++ rest)).atRules =
      (splitAtFrom (offset + front.length) depth rest).atRules := by
  induction front generalizing offset with
  | nil => rfl
  | cons c front ih =>
    obtain ⟨notOpener, notCloser, later⟩ := free.of_cons
    rw [List.mem_cons, not_or] at unmarked
    rw [List.cons_append, splitAtFrom_plain notOpener notCloser fun starts => unmarked.1 starts.1.symm,
      List.length_cons, Nat.add_comm front.length, ← Nat.add_assoc]
    exact ih later unmarked.2 (offset + 1)

theorem at_not_mem_rootHeader {gap : Text} (blank : AllBlank gap) : '@' ∉ rootMark ++ gap := by
  rw [List.mem_append, not_or]
  exact ⟨by decide, blank.not_mem (by decide)⟩

theorem atRules_rootBlock {gap : Text} (blank : AllBlank gap)
    (balanced : Delimiter.brace.Balanced body) (offset depth : Nat) (rest : Text) :
    ∃ next, (splitAtFrom offset depth (rootBlock gap body ++ rest)).atRules =
      (splitAtFrom next depth rest).atRules := by
  have whole : rootBlock gap body ++ rest =
      rootMark ++ gap ++ ('\x7b' :: (body ++ '\x7d' :: rest)) := by
    simp [rootBlock]
  rw [whole, atRules_of_plain (free_rootHeader blank) (at_not_mem_rootHeader blank), splitAtFrom_opener,
    splitAtFrom_balanced balanced, splitAtFrom_closer, Nat.add_sub_cancel]
  exact ⟨_, rfl⟩

/-- Inside a block that is never closed no at-rules are found. -/
theorem atRules_of_unclosed {inner : Nat} {text : Text}
    (unclosed : Delimiter.brace.enclosed inner text = none) (offset outer : Nat) :
    (splitAtFrom offset (outer + (inner + 1)) text).atRules = [] := by
  induction text generalizing inner offset with
  | nil => simp [splitAtFrom]
  | cons c rest ih =>
    by_cases opener : c = '\x7b'
    · subst opener
      rw [show '\x7b' = Delimiter.brace.opener from rfl, Delimiter.enclosed_opener (by decide),
        Option.map_eq_none_iff] at unclosed
      rw [splitAtFrom_opener]
      exact ih unclosed (offset + 1)
    by_cases closer : c = '\x7d'
    · subst closer
      rw [show '\x7d' = Delimiter.brace.closer from rfl] at unclosed
      cases inner with
      | zero =>
        rw [Delimiter.enclosed_closer_zero] at unclosed
        cases unclosed
      | succ inner =>
        rw [Delimiter.enclosed_closer_succ, Option.map_eq_none_iff] at unclosed
        rw [splitAtFrom_closer]
        exact ih unclosed (offset + 1)
    · rw [Delimiter.enclosed_plain opener closer, Option.map_eq_none_iff] at unclosed
      rw [splitAtFrom_plain opener closer (by omega)]
      exact ih unclosed (offset + 1)

/-- The at-rules in front of one whose header ends like that of a root block are still found when
root blocks are taken out, in their order. -/
theorem atRules_remainder {css : Text} {offset depth : Nat} {front : List AtRule}
    (found : front <+: (splitAtFrom offset depth css).atRules)
    (unrooted : ∀ rule ∈ front, ¬ rootMark <:+ rule.prelude) (other : Nat) :
    front.map AtRule.withoutRoots <+: (splitAtFrom other depth (splitRoot css).remainder).atRules := by
  -- On the length, since both scans go on behind a block at once.
  induction length : css.length using Nat.strongRecOn
    generalizing css offset depth front other with
  | ind size ih =>
    cases starts : rootBody? css with
    | some opened =>
      rcases rootBody?_cases starts with ⟨gap, body, after, blank, balanced, rfl⟩ | ⟨unclosed, -⟩
      · obtain ⟨next, same⟩ := atRules_rootBlock blank balanced offset depth after
        rw [same] at found
        rw [(splitRoot_rootBlock blank balanced after).2]
        have solid := length_rootBlock_pos gap body
        rw [List.length_append] at length
        exact ih after.length (by omega) found unrooted other rfl
      · obtain ⟨gap, blank, rfl⟩ := rootBody?_eq_some starts
        rw [atRules_of_plain (free_rootHeader blank) (at_not_mem_rootHeader blank),
          splitAtFrom_opener] at found
        -- Nothing is cut out, and the scan for at-rules does not leave the block any more.
        obtain rfl : front = [] := by
          rwa [show depth + 1 = depth + (0 + 1) from rfl, atRules_of_unclosed unclosed,
            List.prefix_nil] at found
        exact List.nil_prefix
    | none =>
      cases atStep depth css with
      | nil =>
        rw [splitRoot_nil]
        obtain rfl : front = [] := by simpa [splitAtFrom] using found
        exact List.nil_prefix
      | @opener _ rest =>
        rw [splitAtFrom_opener] at found
        rw [(splitRoot_cons starts).2, splitAtFrom_opener]
        exact ih rest.length (by simp [← length]) found unrooted (other + 1) rfl
      | @closer _ rest =>
        rw [splitAtFrom_closer] at found
        rw [(splitRoot_cons starts).2, splitAtFrom_closer]
        exact ih rest.length (by simp [← length]) found unrooted (other + 1) rfl
      | @plain _ c rest notOpener notCloser notStart =>
        rw [splitAtFrom_plain notOpener notCloser notStart] at found
        rw [(splitRoot_cons starts).2, splitAtFrom_plain notOpener notCloser notStart]
        exact ih rest.length (by simp [← length]) found unrooted (other + 1) rfl
      | @unended header inside =>
        rw [splitAtFrom_unended inside] at found
        rw [(splitRoot_cons starts).2,
          splitAtFrom_unended fun c member => inside c (remainder_subset header c member)]
        exact ih header.length (by simp [← length]) found unrooted (other + 1) rfl
      | @statement header tail inside =>
        have kept := (rootKeeps_statement inside).remainder tail
        rw [List.append_assoc, List.singleton_append] at kept
        rw [splitAtFrom_statement inside] at found
        rw [kept, List.append_assoc, List.singleton_append, splitAtFrom_statement inside]
        exact ih tail.length (by simp [← length]; omega) found unrooted _ rfl
      | @unclosed header tail inside unclosed =>
        rw [splitAtFrom_unclosed inside unclosed, List.prefix_nil] at found
        rw [found]
        exact List.nil_prefix
      | @block header body after inside balanced =>
        rw [splitAtFrom_block inside balanced] at found
        cases front with
        | nil => exact List.nil_prefix
        | cons rule front =>
          obtain ⟨rfl, foundLater⟩ := List.cons_prefix_cons.mp found
          obtain ⟨unrootedHere, unrootedLater⟩ := List.forall_mem_cons.mp unrooted
          rw [remainder_block inside unrootedHere balanced,
            splitAtFrom_block inside (balanced_remainder balanced), List.map_cons,
            withoutRoots_make inside unrootedHere balanced, List.cons_prefix_cons]
          exact ⟨rfl, ih after.length (by simp [← length]; omega) foundLater unrootedLater _ rfl⟩

theorem exists_make_of_mem {css : Text} {offset depth : Nat} {rule : AtRule}
    (member : rule ∈ (splitAtFrom offset depth css).atRules) :
    ∃ header body, (∀ c ∈ header, inHeader c) ∧ Delimiter.brace.Balanced body ∧
      rule = AtRule.make header body := by
  induction length : css.length using Nat.strongRecOn generalizing css offset depth with
  | ind size ih =>
    cases atStep depth css with
    | nil => simp [splitAtFrom] at member
    | @opener _ rest =>
      rw [splitAtFrom_opener] at member
      exact ih rest.length (by simp [← length]) member rfl
    | @closer _ rest =>
      rw [splitAtFrom_closer] at member
      exact ih rest.length (by simp [← length]) member rfl
    | @plain _ c rest notOpener notCloser notStart =>
      rw [splitAtFrom_plain notOpener notCloser notStart] at member
      exact ih rest.length (by simp [← length]) member rfl
    | @unended header inside =>
      rw [splitAtFrom_unended inside] at member
      exact ih header.length (by simp [← length]) member rfl
    | @statement header tail inside =>
      rw [splitAtFrom_statement inside] at member
      exact ih tail.length (by simp [← length]; omega) member rfl
    | unclosed inside unclosed =>
      rw [splitAtFrom_unclosed inside unclosed] at member
      cases member
    | @block header body after inside balanced =>
      rw [splitAtFrom_block inside balanced] at member
      rcases List.mem_cons.mp member with rfl | later
      · exact ⟨header, body, inside, balanced, rfl⟩
      · exact ih after.length (by simp [← length]; omega) later rfl

/-! ### What is handed through -/

theorem withoutRoots_eq_iff {css : Text} {rule : AtRule} (member : rule ∈ (splitAtRules css).atRules)
    (unrooted : ¬ rootMark <:+ rule.prelude) : rule.withoutRoots = rule ↔ Rootless rule.body := by
  obtain ⟨header, body, inside, balanced, rfl⟩ := exists_make_of_mem member
  have closed := rootsClosed_of_closes (balanced.closes (by decide))
  rw [withoutRoots_make inside unrooted balanced]
  constructor
  · intro same
    exact closed.remainder_eq_iff.mp (congrArg AtRule.body same)
  · intro rootless
    rw [closed.remainder_eq_iff.mpr rootless]

/-- The at-rules in front of one whose header ends like that of a root block, each without the root
blocks in it, are those of the stylesheet, in order, and the media and keyframes blocks among them
are handed through in one piece: as written if no root block begins in their body, and only then. -/
theorem advanced_atRules {css : Text} {front : List AtRule}
    (found : front <+: (splitAtRules (stripComments css)).atRules)
    (unrooted : ∀ rule ∈ front, ¬ rootMark <:+ rule.prelude) :
    front.map AtRule.withoutRoots <+: (parse css).atRules ∧
      ∀ rule ∈ front, advancedNames.contains rule.name →
        rule.withoutRoots.text <:+: advanced (parse css) ∧
          (rule.withoutRoots = rule ↔ Rootless rule.body) := by
  have stay : front.map AtRule.withoutRoots <+: (parse css).atRules :=
    atRules_remainder found unrooted 0
  refine ⟨stay, ?_⟩
  intro rule member named
  have listed : rule.withoutRoots ∈ (parse css).atRules :=
    stay.subset (List.mem_map_of_mem member)
  refine ⟨?_, withoutRoots_eq_iff (found.subset member) (unrooted rule member)⟩
  apply infix_intercalate
  apply List.mem_append_right
  exact List.mem_map_of_mem (List.mem_filter.mpr ⟨listed, named⟩)

def mixedBlocks : Text :=
  "@import url(x);\n@media print \x7b :root \x7b --c: red; \x7d .a \x7b top: 0; \x7d \x7d\n@keyframes k \x7b from \x7b top: 0; \x7d \x7d".toList

theorem advanced_atRules_mixedBlocks :
    ((splitAtRules (stripComments mixedBlocks)).atRules.map AtRule.name =
        ["media".toList, "keyframes".toList]) ∧
      (∀ rule ∈ (splitAtRules (stripComments mixedBlocks)).atRules, ¬ rootMark <:+ rule.prelude) ∧
      ∀ rule ∈ (splitAtRules (stripComments mixedBlocks)).atRules,
        advancedNames.contains rule.name →
          rule.withoutRoots.text <:+: advanced (parse mixedBlocks) ∧
            (rule.withoutRoots = rule ↔ Rootless rule.body) := by
  have unrooted : ∀ rule ∈ (splitAtRules (stripComments mixedBlocks)).atRules,
      ¬ rootMark <:+ rule.prelude := by decide +kernel
  exact ⟨by decide +kernel, unrooted, (advanced_atRules List.prefix_rfl unrooted).2⟩

/-- A media block that sets a variable. -/
def rootedMedia : Text :=
  "@media (prefers-color-scheme: dark) \x7b :root \x7b --bg: #000; \x7d \x7d".toList

theorem advanced_rootedMedia :
    ∃ rule ∈ (splitAtRules (stripComments rootedMedia)).atRules,
      advancedNames.contains rule.name ∧ rule.text = rootedMedia ∧
        ¬ rule.text <:+: advanced (parse rootedMedia) := by
  decide +kernel

end PageClip.Stylesheet
