import PageClip.Proofs.Stylesheet.Delimiter
import PageClip.Proofs.Text.Blank
import PageClip.Stylesheet.AtRule

/-!
# Reading at-rules

`AtReads` says what the scan for at-rules makes of a text outside blocks,
whatever stands behind it. Inside a block the scan keeps everything that is
balanced.
-/

namespace PageClip.Stylesheet

open PageClip.Text

/-! ### The scan, character by character -/

theorem splitAtFrom_plain {c : Char} {depth : Nat} (notOpener : c ≠ '\x7b')
    (notCloser : c ≠ '\x7d') (notStart : ¬ (c = '@' ∧ depth = 0)) (offset : Nat) (rest : Text) :
    splitAtFrom offset depth (c :: rest) =
      let split := splitAtFrom (offset + 1) depth rest
      { split with plain := c :: split.plain } := by
  rw [splitAtFrom, if_neg notOpener, if_neg notCloser, if_neg (by simpa using notStart)]

theorem splitAtFrom_opener (offset depth : Nat) (rest : Text) :
    splitAtFrom offset depth ('\x7b' :: rest) =
      let split := splitAtFrom (offset + 1) (depth + 1) rest
      { split with plain := '\x7b' :: split.plain } := by
  rw [splitAtFrom, if_pos rfl]

theorem splitAtFrom_closer (offset depth : Nat) (rest : Text) :
    splitAtFrom offset depth ('\x7d' :: rest) =
      let split := splitAtFrom (offset + 1) (depth - 1) rest
      { split with plain := '\x7d' :: split.plain } := by
  rw [splitAtFrom, if_neg (by decide), if_pos rfl]

theorem dropWhile_inHeader {header : Text} (inside : ∀ c ∈ header, inHeader c) {c : Char}
    (ends : inHeader c = false) (rest : Text) :
    (header ++ c :: rest).dropWhile inHeader = c :: rest := by
  rw [List.dropWhile_append_of_pos inside, List.dropWhile_cons_of_neg (by simp [ends])]

theorem takeWhile_inHeader {header : Text} (inside : ∀ c ∈ header, inHeader c) {c : Char}
    (ends : inHeader c = false) (rest : Text) :
    (header ++ c :: rest).takeWhile inHeader = header := by
  rw [List.takeWhile_append_of_pos inside, List.takeWhile_cons_of_neg (by simp [ends]),
    List.append_nil]

theorem splitAtFrom_statement {header : Text} (inside : ∀ c ∈ header, inHeader c)
    (offset : Nat) (rest : Text) :
    splitAtFrom offset 0 ('@' :: header ++ ';' :: rest) =
      splitAtFrom (offset + (header.length + 2)) 0 rest := by
  rw [List.cons_append, splitAtFrom, if_neg (by decide), if_neg (by decide), if_pos (by decide)]
  split
  · next ended => simp [dropWhile_inHeader inside (show inHeader ';' = false by decide)] at ended
  · next c tail ended =>
    rw [dropWhile_inHeader inside (by decide)] at ended
    obtain ⟨rfl, rfl⟩ := List.cons.inj ended
    rw [if_pos rfl]
    congr 1
    simp only [List.length_append, List.length_cons]
    omega

theorem splitAtFrom_unended {header : Text} (inside : ∀ c ∈ header, inHeader c) (offset : Nat) :
    splitAtFrom offset 0 ('@' :: header) =
      let split := splitAtFrom (offset + 1) 0 header
      { split with plain := '@' :: split.plain } := by
  have all : header.dropWhile inHeader = [] := List.dropWhile_eq_nil_iff.mpr inside
  rw [splitAtFrom, if_neg (by decide), if_neg (by decide), if_pos (by decide)]
  split
  · rfl
  · next ended => simp [all] at ended

theorem splitAtFrom_unclosed {header tail : Text} (inside : ∀ c ∈ header, inHeader c)
    (unclosed : Delimiter.brace.enclosed 0 tail = none) (offset : Nat) :
    splitAtFrom offset 0 ('@' :: header ++ '\x7b' :: tail) = ⟨[], [], some offset⟩ := by
  have stops : inHeader '\x7b' = false := by decide
  rw [List.cons_append, splitAtFrom, if_neg (by decide), if_neg (by decide), if_pos (by decide)]
  split
  · next ended => simp [dropWhile_inHeader inside stops] at ended
  · next c tail' ended =>
    rw [dropWhile_inHeader inside stops] at ended
    obtain ⟨rfl, rfl⟩ := List.cons.inj ended
    rw [if_neg (by decide)]
    split
    · rfl
    · next closes => simp [unclosed] at closes

theorem splitAtFrom_enclosed {header tail body after : Text} (inside : ∀ c ∈ header, inHeader c)
    (closes : Delimiter.brace.enclosed 0 tail = some (body, after)) (offset : Nat) :
    splitAtFrom offset 0 ('@' :: header ++ '\x7b' :: tail) =
      let split := splitAtFrom (offset + (header.length + body.length + 3)) 0 after
      { split with atRules := AtRule.make header body :: split.atRules } := by
  have stops : inHeader '\x7b' = false := by decide
  rw [List.cons_append, splitAtFrom, if_neg (by decide), if_neg (by decide), if_pos (by decide)]
  split
  · next ended => simp [dropWhile_inHeader inside stops] at ended
  · next c tail' ended =>
    rw [dropWhile_inHeader inside stops] at ended
    obtain ⟨rfl, rfl⟩ := List.cons.inj ended
    rw [if_neg (by decide)]
    split
    · next unclosed => exact absurd (closes.symm.trans unclosed) (by simp)
    · next body' after' closes' =>
      obtain ⟨rfl, rfl⟩ := Prod.mk.inj (Option.some.inj (closes.symm.trans closes'))
      have parts := Delimiter.length_of_enclosed closes
      rw [takeWhile_inHeader inside stops]
      simp only [List.length_append, List.length_cons]
      rw [show header.length + (tail.length + 1) + 1 - after.length =
        header.length + body.length + 3 by omega]

theorem splitAtFrom_block {header body after : Text} (inside : ∀ c ∈ header, inHeader c)
    (balanced : Delimiter.brace.Balanced body) (offset : Nat) :
    splitAtFrom offset 0 ('@' :: header ++ '\x7b' :: body ++ '\x7d' :: after) =
      let split := splitAtFrom (offset + (header.length + body.length + 3)) 0 after
      { split with atRules := AtRule.make header body :: split.atRules } := by
  rw [List.append_assoc, List.cons_append]
  exact splitAtFrom_enclosed inside (Delimiter.enclosed_of_balanced (by decide) balanced after) offset

/-- Inside a block the scan keeps what is balanced, at signs and all. -/
theorem splitAtFrom_balanced {inside : Text} (balanced : Delimiter.brace.Balanced inside)
    (offset depth : Nat) (rest : Text) :
    splitAtFrom offset (depth + 1) (inside ++ rest) =
      let split := splitAtFrom (offset + inside.length) (depth + 1) rest
      { split with plain := inside ++ split.plain } := by
  induction balanced generalizing offset depth rest with
  | nil => rfl
  | @plain c tail notOpener notCloser _ ih =>
    rw [List.cons_append, splitAtFrom_plain notOpener notCloser (by simp), ih, List.length_cons,
      Nat.add_assoc, Nat.add_comm 1]
    rfl
  | @nested inner tail _ _ innerIh tailIh =>
    rw [List.append_assoc, List.cons_append]
    show splitAtFrom offset (depth + 1) ('\x7b' :: (inner ++ '\x7d' :: (tail ++ rest))) = _
    rw [splitAtFrom_opener, innerIh, splitAtFrom_closer, Nat.add_sub_cancel, tailIh]
    have reached : offset + 1 + inner.length + 1 + tail.length =
        offset + ('\x7b' :: inner ++ '\x7d' :: tail).length := by
      simp only [List.length_append, List.length_cons]
      omega
    rw [reached]
    simp [Delimiter.brace]

/-- The scan for at-rules finds `atRules` in a text outside blocks and keeps `kept` of it, whatever
stands behind the text. -/
def AtReads (text : Text) (atRules : List AtRule) (kept : Text) : Prop :=
  ∀ offset rest, splitAtFrom offset 0 (text ++ rest) =
    let split := splitAtFrom (offset + text.length) 0 rest
    { split with
      plain := kept ++ split.plain
      atRules := atRules ++ split.atRules }

namespace AtReads

theorem nil : AtReads [] [] [] := by
  intro offset rest
  rfl

theorem append {front back keptFront keptBack : Text} {here there : List AtRule}
    (first : AtReads front here keptFront) (second : AtReads back there keptBack) :
    AtReads (front ++ back) (here ++ there) (keptFront ++ keptBack) := by
  intro offset rest
  rw [List.append_assoc, first, second, List.length_append]
  simp [Nat.add_assoc]

theorem split {text kept : Text} {atRules : List AtRule} (reads : AtReads text atRules kept) :
    splitAtRules text = ⟨kept, atRules, none⟩ := by
  have whole := reads 0 []
  rw [List.append_nil] at whole
  rw [splitAtRules, whole, splitAtFrom]
  simp

theorem plain {text : Text} (free : Delimiter.brace.Free text) (unmarked : '@' ∉ text) :
    AtReads text [] text := by
  induction text with
  | nil => exact nil
  | cons c text ih =>
    obtain ⟨notOpener, notCloser, later⟩ := free.of_cons
    rw [List.mem_cons, not_or] at unmarked
    have notStart : ¬ (c = '@' ∧ 0 = 0) := fun starts => unmarked.1 starts.1.symm
    intro offset rest
    rw [List.cons_append, splitAtFrom_plain notOpener notCloser notStart, ih later unmarked.2,
      List.length_cons, Nat.add_assoc, Nat.add_comm 1]
    rfl

theorem braces {inside : Text} (balanced : Delimiter.brace.Balanced inside) :
    AtReads ('\x7b' :: inside ++ ['\x7d']) [] ('\x7b' :: inside ++ ['\x7d']) := by
  intro offset rest
  rw [List.append_assoc, List.cons_append, splitAtFrom_opener, splitAtFrom_balanced balanced,
    List.singleton_append, splitAtFrom_closer]
  have reached : offset + 1 + inside.length + 1 =
      offset + ('\x7b' :: inside ++ ['\x7d']).length := by
    simp only [List.length_append, List.length_cons, List.length_nil]
    omega
  rw [reached]
  simp

theorem statement {header : Text} (inside : ∀ c ∈ header, inHeader c) :
    AtReads ('@' :: header ++ [';']) [] [] := by
  intro offset rest
  rw [List.append_assoc, List.singleton_append, splitAtFrom_statement inside]
  simp

theorem block {header body : Text} (inside : ∀ c ∈ header, inHeader c)
    (balanced : Delimiter.brace.Balanced body) :
    AtReads ('@' :: header ++ '\x7b' :: body ++ ['\x7d']) [AtRule.make header body] [] := by
  intro offset rest
  rw [List.append_assoc, List.singleton_append, splitAtFrom_block inside balanced]
  have reached : offset + (header.length + body.length + 3) =
      offset + ('@' :: header ++ '\x7b' :: body ++ ['\x7d']).length := by
    simp only [List.length_append, List.length_cons, List.length_nil]
    omega
  rw [reached]
  rfl

end AtReads

theorem AtRule.make_of_parts {keyword prelude body : Text} (named : ∀ c ∈ keyword, isNamePart c)
    (trimmed : trim prelude = prelude) :
    AtRule.make (keyword ++ ' ' :: prelude ++ [' ']) body =
      { name := lower keyword
        prelude := prelude
        body := body
        text := '@' :: keyword ++ ' ' :: prelude ++ ' ' :: '\x7b' :: body ++ ['\x7d'] } := by
  have stops : isNamePart ' ' = false := by decide
  have blank : AllBlank [' '] := by decide
  have padded : trim (' ' :: prelude ++ [' ']) = prelude := by
    rw [trim_append_blank blank, ← List.singleton_append, trim_blank_append blank, trimmed]
  rw [List.append_assoc, List.cons_append, make, List.takeWhile_append_of_pos named,
    List.dropWhile_append_of_pos named, List.takeWhile_cons_of_neg (by simp [stops]),
    List.dropWhile_cons_of_neg (by simp [stops]), List.append_nil, ← List.cons_append, padded]
  simp

/-! ### Balanced texts

Where a text starts has no bearing on what is kept of it. The scan takes a
balanced text apart whatever stands behind it, up to a header at its end that
has no block yet. -/

/-- What follows an at sign is all header, or the header ends in a semicolon or a brace. -/
theorem header_cases (text : Text) :
    (∀ c ∈ text, inHeader c) ∨
      ∃ header, (∀ c ∈ header, inHeader c) ∧
        ((∃ tail, text = header ++ ';' :: tail) ∨ ∃ tail, text = header ++ '\x7b' :: tail) := by
  induction text with
  | nil => exact .inl fun c member => absurd member List.not_mem_nil
  | cons c text ih =>
    by_cases opener : c = '\x7b'
    · exact .inr ⟨[], by simp, .inr ⟨text, by rw [opener]; rfl⟩⟩
    by_cases ends : c = ';'
    · exact .inr ⟨[], by simp, .inl ⟨text, by rw [ends]; rfl⟩⟩
    have here : inHeader c := by simp [inHeader, opener, ends]
    rcases ih with all | ⟨header, inside, ⟨tail, rfl⟩ | ⟨tail, rfl⟩⟩
    · exact .inl (List.forall_mem_cons.mpr ⟨here, all⟩)
    · exact .inr ⟨c :: header, List.forall_mem_cons.mpr ⟨here, inside⟩, .inl ⟨tail, rfl⟩⟩
    · exact .inr ⟨c :: header, List.forall_mem_cons.mpr ⟨here, inside⟩, .inr ⟨tail, rfl⟩⟩

/-- What the scan for at-rules may meet, with so many blocks open. -/
inductive AtStep : Nat → Text → Prop
  | nil {depth : Nat} : AtStep depth []
  | opener {depth : Nat} {rest : Text} : AtStep depth ('\x7b' :: rest)
  | closer {depth : Nat} {rest : Text} : AtStep depth ('\x7d' :: rest)
  | plain {depth : Nat} {c : Char} {rest : Text} :
    c ≠ '\x7b' → c ≠ '\x7d' → ¬ (c = '@' ∧ depth = 0) → AtStep depth (c :: rest)
  | unended {header : Text} : (∀ c ∈ header, inHeader c) → AtStep 0 ('@' :: header)
  | statement {header tail : Text} :
    (∀ c ∈ header, inHeader c) → AtStep 0 ('@' :: header ++ ';' :: tail)
  | unclosed {header tail : Text} :
    (∀ c ∈ header, inHeader c) → Delimiter.brace.enclosed 0 tail = none →
      AtStep 0 ('@' :: header ++ '\x7b' :: tail)
  | block {header body after : Text} :
    (∀ c ∈ header, inHeader c) → Delimiter.brace.Balanced body →
      AtStep 0 ('@' :: header ++ '\x7b' :: body ++ '\x7d' :: after)

theorem atStep (depth : Nat) (css : Text) : AtStep depth css := by
  cases css with
  | nil => exact .nil
  | cons c rest =>
    by_cases starts : c = '@' ∧ depth = 0
    · obtain ⟨rfl, rfl⟩ := starts
      rcases header_cases rest with all | ⟨header, inside, ⟨tail, rfl⟩ | ⟨tail, rfl⟩⟩
      · exact .unended all
      · exact .statement inside
      · cases closes : Delimiter.brace.enclosed 0 tail with
        | none => exact .unclosed inside closes
        | some parts =>
          obtain ⟨body, after⟩ := parts
          rw [Delimiter.enclosed_eq_some closes, ← List.cons_append, ← List.cons_append,
            ← List.append_assoc]
          exact .block inside (Delimiter.balanced_of_enclosed closes)
    by_cases opener : c = '\x7b'
    · exact opener ▸ .opener
    by_cases closer : c = '\x7d'
    · exact closer ▸ .closer
    · exact .plain opener closer starts

theorem splitAtFrom_offset (offset other depth : Nat) (css : Text) :
    (splitAtFrom offset depth css).plain = (splitAtFrom other depth css).plain ∧
      (splitAtFrom offset depth css).atRules = (splitAtFrom other depth css).atRules := by
  induction length : css.length using Nat.strongRecOn generalizing offset other depth css with
  | ind size ih =>
    have later {rest : Text} (shorter : rest.length < size) (offset other depth : Nat) :
        (splitAtFrom offset depth rest).plain = (splitAtFrom other depth rest).plain ∧
          (splitAtFrom offset depth rest).atRules = (splitAtFrom other depth rest).atRules :=
      ih rest.length shorter offset other depth rest rfl
    cases atStep depth css with
    | nil => simp [splitAtFrom]
    | @opener _ rest =>
      obtain ⟨plain, atRules⟩ :=
        @later rest (by simp [← length]) (offset + 1) (other + 1) (depth + 1)
      rw [splitAtFrom_opener, splitAtFrom_opener]
      exact ⟨congrArg (List.cons _) plain, atRules⟩
    | @closer _ rest =>
      obtain ⟨plain, atRules⟩ :=
        @later rest (by simp [← length]) (offset + 1) (other + 1) (depth - 1)
      rw [splitAtFrom_closer, splitAtFrom_closer]
      exact ⟨congrArg (List.cons _) plain, atRules⟩
    | @plain _ c rest notOpener notCloser notStart =>
      obtain ⟨plain, atRules⟩ := @later rest (by simp [← length]) (offset + 1) (other + 1) depth
      rw [splitAtFrom_plain notOpener notCloser notStart, splitAtFrom_plain notOpener notCloser notStart]
      exact ⟨congrArg (List.cons _) plain, atRules⟩
    | @unended header inside =>
      obtain ⟨plain, atRules⟩ := @later header (by simp [← length]) (offset + 1) (other + 1) 0
      rw [splitAtFrom_unended inside, splitAtFrom_unended inside]
      exact ⟨congrArg (List.cons _) plain, atRules⟩
    | statement inside =>
      rw [splitAtFrom_statement inside, splitAtFrom_statement inside]
      exact later (by simp [← length]; omega) _ _ 0
    | unclosed inside unclosed =>
      rw [splitAtFrom_unclosed inside unclosed, splitAtFrom_unclosed inside unclosed]
      exact ⟨rfl, rfl⟩
    | @block header body after inside balanced =>
      rw [splitAtFrom_block inside balanced, splitAtFrom_block inside balanced]
      obtain ⟨plain, atRules⟩ := @later after (by simp [← length]; omega)
        (offset + (header.length + body.length + 3)) (other + (header.length + body.length + 3)) 0
      exact ⟨plain, congrArg (List.cons _) atRules⟩

theorem AtReads.split_append {front kept : Text} {atRules : List AtRule}
    (reads : AtReads front atRules kept) (back : Text) :
    (splitAtRules (front ++ back)).plain = kept ++ (splitAtRules back).plain ∧
      (splitAtRules (front ++ back)).atRules = atRules ++ (splitAtRules back).atRules := by
  obtain ⟨plain, found⟩ := splitAtFrom_offset 0 (0 + front.length) 0 back
  rw [splitAtRules, reads 0 back, splitAtRules, plain, found]
  exact ⟨rfl, rfl⟩

theorem AtReads.plain_append {front kept : Text} {atRules : List AtRule}
    (reads : AtReads front atRules kept) (back : Text) :
    (splitAtRules (front ++ back)).plain = kept ++ (splitAtRules back).plain :=
  (reads.split_append back).1

/-- The start of an at-rule of which neither the block nor the end has been reached. -/
inductive OpenHeader : Text → Prop
  | none : OpenHeader []
  | start {header : Text} : Delimiter.brace.Free header → (∀ c ∈ header, inHeader c) →
    OpenHeader ('@' :: header)

theorem splitAtFrom_inHeader {header : Text} (free : Delimiter.brace.Free header)
    (inside : ∀ c ∈ header, inHeader c) (offset : Nat) :
    splitAtFrom offset 0 header = ⟨header, [], none⟩ := by
  induction header generalizing offset with
  | nil => simp [splitAtFrom]
  | cons c header ih =>
    obtain ⟨notOpener, notCloser, freeRest⟩ := free.of_cons
    have later := ih freeRest (fun d member => inside d (List.mem_cons_of_mem c member))
    by_cases starts : c = '@'
    · subst starts
      rw [splitAtFrom_unended fun d member => inside d (List.mem_cons_of_mem '@' member)]
      simp only [later]
    · rw [splitAtFrom_plain notOpener notCloser fun both => starts both.1]
      simp only [later]

theorem OpenHeader.free {tail : Text} (header : OpenHeader tail) : Delimiter.brace.Free tail := by
  cases header with
  | none => decide
  | start free _ => exact Delimiter.Free.append (show Delimiter.brace.Free ['@'] by decide) free

theorem OpenHeader.split {tail : Text} (header : OpenHeader tail) :
    splitAtRules tail = AtSplit.mk tail [] Option.none := by
  cases header with
  | none => simp [splitAtRules, splitAtFrom]
  | start free inside =>
    rw [splitAtRules, splitAtFrom_unended inside]
    simp only [splitAtFrom_inHeader free inside]

/-- An at-rule behind an open header becomes part of that header. -/
theorem OpenHeader.append {tail header : Text} (opened : OpenHeader tail)
    (inside : ∀ c ∈ header, inHeader c) :
    ∃ whole, tail ++ '@' :: header = '@' :: whole ∧ ∀ c ∈ whole, inHeader c := by
  cases opened with
  | none => exact ⟨header, rfl, inside⟩
  | @start front free insideFront =>
    refine ⟨front ++ '@' :: header, rfl, fun c member => ?_⟩
    rcases List.mem_append.mp member with early | late
    · exact insideFront c early
    · rcases List.mem_cons.mp late with rfl | last
      · decide
      · exact inside c last

/-- In a balanced text an at-rule is read to its end, or its header takes up the rest. -/
theorem atRule_cases {rest : Text} (balanced : Delimiter.brace.Balanced rest) :
    OpenHeader ('@' :: rest) ∨
      ∃ front after atRules, '@' :: rest = front ++ after ∧ front ≠ [] ∧
        AtReads front atRules [] ∧ Delimiter.brace.Balanced after := by
  have distinct : Delimiter.brace.opener ≠ Delimiter.brace.closer := by decide
  have free (header tail : Text) (inside : ∀ c ∈ header, inHeader c)
      (whole : Delimiter.brace.Balanced (header ++ tail)) : Delimiter.brace.Free header :=
    whole.free_of_prefix fun member => absurd (inside _ member) (by decide)
  rcases header_cases rest with all | ⟨header, inside, ⟨tail, rfl⟩ | ⟨tail, rfl⟩⟩
  · exact .inl (.start (free rest [] all (by rwa [List.append_nil])) all)
  · have front : Delimiter.brace.Balanced (header ++ [';']) :=
      ((free header _ inside balanced).append (by decide)).balanced
    rw [List.append_cons] at balanced
    exact .inr ⟨'@' :: header ++ [';'], tail, [], by simp, by simp, AtReads.statement inside,
      front.of_append distinct balanced⟩
  · have later := (free header _ inside balanced).balanced.of_append distinct balanced
    obtain ⟨body, after, inner, rfl⟩ := later.closes distinct tail List.suffix_rfl
    have block : Delimiter.brace.Balanced ('\x7b' :: body ++ ['\x7d']) := .nested inner .nil
    refine .inr ⟨'@' :: header ++ '\x7b' :: body ++ ['\x7d'], after, [AtRule.make header body], ?_,
      by simp, AtReads.block inside inner, block.of_append distinct ?_⟩
    · simp [Delimiter.brace]
    · simpa [Delimiter.brace] using later

theorem exists_atReads {css : Text} (balanced : Delimiter.brace.Balanced css) :
    ∃ front tail atRules kept, css = front ++ tail ∧ AtReads front atRules kept ∧
      Delimiter.brace.Balanced kept ∧ OpenHeader tail := by
  induction length : css.length using Nat.strongRecOn generalizing css with
  | ind size ih =>
    cases balanced with
    | nil => exact ⟨[], [], [], [], rfl, AtReads.nil, .nil, .none⟩
    | @nested inside rest inner later =>
      simp only [List.length_append, List.length_cons] at length
      obtain ⟨front, tail, atRules, kept, rfl, reads, whole, header⟩ :=
        ih rest.length (by omega) later rfl
      refine ⟨'\x7b' :: inside ++ ['\x7d'] ++ front, tail, _, _, ?_,
        (AtReads.braces inner).append reads, ?_, header⟩
      · simp [Delimiter.brace]
      · rw [List.append_assoc]
        exact .nested inner whole
    | @plain c rest notOpener notCloser later =>
      by_cases starts : c = '@'
      · subst starts
        rcases atRule_cases later with header | ⟨first, after, found, eq, solid, reads, later⟩
        · exact ⟨[], '@' :: rest, [], [], rfl, AtReads.nil, .nil, header⟩
        · rw [eq, List.length_append] at length
          have := List.length_pos_iff.mpr solid
          obtain ⟨front, tail, atRules, kept, rfl, readsAfter, whole, header⟩ :=
            ih after.length (by omega) later rfl
          exact ⟨first ++ front, tail, _, _, by rw [eq, List.append_assoc],
            reads.append readsAfter, whole, header⟩
      · rw [List.length_cons] at length
        obtain ⟨front, tail, atRules, kept, rfl, reads, whole, header⟩ :=
          ih rest.length (by omega) later rfl
        have here : AtReads [c] [] [c] := AtReads.plain
          (by simpa [Delimiter.Free] using ⟨Ne.symm notOpener, Ne.symm notCloser⟩)
          (by simpa using Ne.symm starts)
        exact ⟨c :: front, tail, _, _, rfl, here.append reads, .plain notOpener notCloser whole,
          header⟩

end PageClip.Stylesheet
