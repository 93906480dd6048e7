import PageClip.Proofs.Stylesheet.PlainText

/-!
# The parts of a stylesheet

The scan for at-rules cuts a text into parts: kept text, at-rules with a block,
statements, and at most one tail, which is dropped. `splitAtRules_segments` says
where each part is, and that the parts decide what the scan returns.
-/

namespace PageClip.Stylesheet

open PageClip.Text

/-! ### Parts -/

/-- An at-rule that is written with a keyword and with `gap` between it and the block. -/
structure AtRule.Written (rule : AtRule) (keyword gap : Text) : Prop where
  text : rule.text = '@' :: keyword ++ gap ++ '\x7b' :: rule.body ++ ['\x7d']
  named : ∀ c ∈ keyword, isNamePart c
  ended : ∀ c ∈ gap.head?, isNamePart c = false
  name : rule.name = lower keyword
  prelude : rule.prelude = trim gap
  inside : ∀ c ∈ gap, inHeader c
  balanced : Delimiter.brace.Balanced rule.body

inductive Part where
  | kept (text : Text)
  | block (rule : AtRule)
  | statement (header : Text)
  deriving DecidableEq, Repr

namespace Part

def text : Part → Text
  | kept text => text
  | block rule => rule.text
  | statement header => '@' :: header ++ [';']

def plain : Part → Text
  | kept text => text
  | _ => []

def atRules : Part → List AtRule
  | block rule => [rule]
  | _ => []

def WellFormed : Part → Prop
  | kept _ => True
  | block rule => ∃ keyword gap, rule.Written keyword gap
  | statement header => ∀ c ∈ header, inHeader c

end Part

/-- What begins with an at-rule whose block never closes. -/
def NeverClosed (tail : Text) : Prop :=
  ∃ header opened, tail = '@' :: header ++ '\x7b' :: opened ∧ (∀ c ∈ header, inHeader c) ∧
    ∀ body after, Delimiter.brace.Balanced body → opened ≠ body ++ '\x7d' :: after

/-- A text is made up of parts and of a tail that is dropped. -/
structure Segments (css : Text) (parts : List Part) (tail : Text) : Prop where
  whole : css = parts.flatMap Part.text ++ tail
  each : ∀ part ∈ parts, part.WellFormed
  dropped : tail = [] ∨ NeverClosed tail

/-- With `depth` blocks open before the parts, at-rules begin outside blocks, and at every at sign
there that has an opening brace or a semicolon behind it. -/
def Placed (tail : Text) : Nat → List Part → Prop
  | depth, [] => tail = [] ∨ depth = 0
  | depth, .kept text :: parts =>
    Quiet depth text (parts.flatMap Part.text ++ tail) ∧ Placed tail (openBlocks depth text) parts
  | depth, _ :: parts => depth = 0 ∧ Placed tail 0 parts

instance decidablePlaced (tail : Text) :
    (depth : Nat) → (parts : List Part) → Decidable (Placed tail depth parts)
  | _, [] => inferInstanceAs (Decidable (_ ∨ _))
  | depth, .kept text :: parts =>
    have := decidablePlaced tail (openBlocks depth text) parts
    inferInstanceAs (Decidable (_ ∧ _))
  | _, .block _ :: parts | _, .statement _ :: parts =>
    have := decidablePlaced tail 0 parts
    inferInstanceAs (Decidable (_ ∧ _))

/-- What the scan makes of parts and a tail that stand behind `offset` characters. -/
def collect (offset : Nat) (parts : List Part) (tail : Text) : AtSplit where
  plain := parts.flatMap Part.plain
  atRules := parts.flatMap Part.atRules
  unclosed := if tail.isEmpty then none else some (offset + (parts.flatMap Part.text).length)

/-! ### At-rules with a block -/

theorem inHeader_of_isNamePart {c : Char} (named : isNamePart c) : inHeader c := by
  have other : c ≠ '\x7b' ∧ c ≠ ';' := by
    constructor <;> rintro rfl <;> exact absurd named (by decide)
  simpa [inHeader] using other

namespace AtRule

theorem written_make {header body : Text} (inside : ∀ c ∈ header, inHeader c)
    (balanced : Delimiter.brace.Balanced body) :
    (make header body).Written (header.takeWhile isNamePart) (header.dropWhile isNamePart) where
  text := by
    rw [List.cons_append, List.takeWhile_append_dropWhile]
    rfl
  named c member := List.mem_takeWhile_imp member
  ended c first := by
    have stopped := List.head?_dropWhile_not isNamePart header
    rw [first] at stopped
    simpa using stopped
  name := rfl
  prelude := rfl
  inside c member := inside c ((List.dropWhile_sublist isNamePart).subset member)
  balanced := balanced

namespace Written

variable {rule : AtRule} {keyword gap : Text}

theorem inHeader (written : rule.Written keyword gap) : ∀ c ∈ keyword ++ gap, inHeader c := by
  intro c member
  rcases List.mem_append.mp member with early | late
  · exact inHeader_of_isNamePart (written.named c early)
  · exact written.inside c late

theorem eq_make (written : rule.Written keyword gap) : rule = make (keyword ++ gap) rule.body := by
  have taken : (keyword ++ gap).takeWhile isNamePart = keyword := by
    rw [List.takeWhile_append_of_pos written.named]
    cases gap with
    | nil => simp
    | cons c gap => simp [written.ended c rfl]
  have left : (keyword ++ gap).dropWhile isNamePart = gap := by
    rw [List.dropWhile_append_of_pos written.named]
    cases gap with
    | nil => rfl
    | cons c gap => simp [written.ended c rfl]
  obtain ⟨name, prelude, body, text⟩ := rule
  simp only [make, taken, left, mk.injEq, true_and]
  exact ⟨written.name, written.prelude, by simpa using written.text⟩

theorem atReads (written : rule.Written keyword gap) : AtReads rule.text [rule] [] := by
  have reads := AtReads.block written.inHeader written.balanced
  rw [← written.eq_make] at reads
  rw [written.text, List.cons_append]
  exact reads

end Written

end AtRule

/-! ### From parts to the scan -/

theorem neverClosed_of_enclosed {header opened : Text} (inside : ∀ c ∈ header, inHeader c)
    (unclosed : Delimiter.brace.enclosed 0 opened = none) :
    NeverClosed ('@' :: header ++ '\x7b' :: opened) :=
  ⟨header, opened, rfl, inside, (Delimiter.enclosed_eq_none_iff (by decide)).mp unclosed⟩

theorem NeverClosed.splitAtFrom {tail : Text} (never : NeverClosed tail) (offset : Nat) :
    splitAtFrom offset 0 tail = ⟨[], [], some offset⟩ := by
  obtain ⟨header, opened, rfl, inside, never⟩ := never
  exact splitAtFrom_unclosed inside ((Delimiter.enclosed_eq_none_iff (by decide)).mpr never) offset

theorem NeverClosed.ne_nil {tail : Text} (never : NeverClosed tail) : tail ≠ [] := by
  rintro rfl
  obtain ⟨header, opened, eq, -⟩ := never
  cases eq

theorem Segments.cons {css tail : Text} {parts : List Part} {part : Part} (here : part.WellFormed)
    (segments : Segments css parts tail) : Segments (part.text ++ css) (part :: parts) tail where
  whole := by rw [List.flatMap_cons, List.append_assoc, ← segments.whole]
  each := List.forall_mem_cons.mpr ⟨here, segments.each⟩
  dropped := segments.dropped

theorem collect_cons (offset : Nat) (part : Part) (parts : List Part) (tail : Text) :
    collect offset (part :: parts) tail =
      let split := collect (offset + part.text.length) parts tail
      { split with
        plain := part.plain ++ split.plain
        atRules := part.atRules ++ split.atRules } := by
  simp only [collect, List.flatMap_cons, List.length_append, Nat.add_assoc]

/-- The parts of a text decide what the scan makes of it. -/
theorem Segments.splitAtFrom {css tail : Text} {parts : List Part}
    (segments : Segments css parts tail) {depth : Nat} (placed : Placed tail depth parts)
    (offset : Nat) : splitAtFrom offset depth css = collect offset parts tail := by
  obtain ⟨rfl, each, dropped⟩ := segments
  induction parts generalizing depth offset with
  | nil =>
    rcases dropped with rfl | never
    · simp [Stylesheet.splitAtFrom, collect]
    · obtain rfl : depth = 0 := placed.resolve_left never.ne_nil
      have solid : tail.isEmpty = false := by simpa using never.ne_nil
      simp [never.splitAtFrom, collect, solid]
  | cons part parts ih =>
    obtain ⟨here, later⟩ := List.forall_mem_cons.mp each
    rw [List.flatMap_cons, List.append_assoc, collect_cons]
    cases part with
    | kept text =>
      obtain ⟨quiet, placed⟩ := placed
      rw [← ih placed _ later]
      exact splitAtFrom_quiet quiet offset
    | block rule =>
      obtain ⟨rfl, placed⟩ := placed
      obtain ⟨keyword, gap, written⟩ := here
      rw [← ih placed _ later]
      exact written.atReads offset _
    | statement header =>
      obtain ⟨rfl, placed⟩ := placed
      rw [← ih placed _ later]
      exact AtReads.statement here offset _

/-! ### From the scan to parts -/

theorem exists_segments (depth : Nat) (css : Text) :
    ∃ parts tail, Segments css parts tail ∧ Placed tail depth parts := by
  induction length : css.length using Nat.strongRecOn generalizing depth css with
  | ind size ih =>
    have keep {c : Char} {rest : Text} (shorter : rest.length < size)
        (quiet : c = '@' → depth = 0 → ∀ d ∈ rest, inHeader d) :
        ∃ parts tail, Segments (c :: rest) parts tail ∧ Placed tail depth parts := by
      obtain ⟨parts, tail, segments, placed⟩ :=
        ih rest.length shorter (blocksBehind depth c) rest rfl
      have alone : Quiet depth [c] (parts.flatMap Part.text ++ tail) := by
        rw [← segments.whole]
        exact quiet_cons_iff.mpr ⟨quiet, quiet_nil _ rest⟩
      have whole := segments.cons (show (Part.kept [c]).WellFormed from trivial)
      exact ⟨.kept [c] :: parts, tail, whole, alone, placed⟩
    cases atStep depth css with
    | nil => exact ⟨[], [], ⟨rfl, by simp, .inl rfl⟩, .inl rfl⟩
    | opener => exact keep (by simp [← length]) (fun at_ => absurd at_ (by decide))
    | closer => exact keep (by simp [← length]) (fun at_ => absurd at_ (by decide))
    | plain _ _ notStart =>
      exact keep (by simp [← length]) (fun at_ outside => absurd ⟨at_, outside⟩ notStart)
    | unended inside => exact keep (by simp [← length]) (fun _ _ => inside)
    | @statement header rest inside =>
      obtain ⟨parts, tail, segments, placed⟩ :=
        ih rest.length (by simp [← length]; omega) 0 rest rfl
      refine ⟨.statement header :: parts, tail, ?_, rfl, placed⟩
      simpa [Part.text] using segments.cons (show (Part.statement header).WellFormed from inside)
    | @unclosed header opened inside unclosed =>
      exact ⟨[], _, ⟨rfl, by simp, .inr (neverClosed_of_enclosed inside unclosed)⟩, .inr rfl⟩
    | @block header body rest inside balanced =>
      obtain ⟨parts, tail, segments, placed⟩ :=
        ih rest.length (by simp [← length]; omega) 0 rest rfl
      have written : (Part.block (AtRule.make header body)).WellFormed :=
        ⟨_, _, AtRule.written_make inside balanced⟩
      refine ⟨.block (AtRule.make header body) :: parts, tail, ?_, rfl, placed⟩
      simpa [Part.text, AtRule.make] using segments.cons written

/-- Every character of a text is accounted for: it is kept, or it stands in an at-rule with a block,
in a statement or in the one tail that is dropped. What at-rules are taken out and what is kept can
be read off any such parts. -/
theorem splitAtRules_segments (css : Text) :
    (∃ parts tail, Segments css parts tail ∧ Placed tail 0 parts ∧
        splitAtRules css = collect 0 parts tail) ∧
      ∀ parts tail, Segments css parts tail → Placed tail 0 parts →
        splitAtRules css = collect 0 parts tail := by
  have read (parts : List Part) (tail : Text) (segments : Segments css parts tail)
      (placed : Placed tail 0 parts) : splitAtRules css = collect 0 parts tail :=
    segments.splitAtFrom placed 0
  obtain ⟨parts, tail, segments, placed⟩ := exists_segments 0 css
  exact ⟨⟨parts, tail, segments, placed, read parts tail segments placed⟩, read⟩

def partedSheet : Text :=
  ".a\x7b@b;\x7d@import x;@Media print \x7b.c\x7b\x7d\x7d\x7dd@page\x7b.e\x7b\x7d".toList

/-- A statement inside a block and a stray closing brace are kept. -/
def sheetParts : List Part :=
  [.kept ".a\x7b@b;\x7d".toList, .statement "import x".toList,
    .block (AtRule.make "Media print ".toList ".c\x7b\x7d".toList), .kept "\x7dd".toList]

def sheetTail : Text := "@page\x7b.e\x7b\x7d".toList

theorem partedSheet_segments :
    Segments partedSheet sheetParts sheetTail ∧ Placed sheetTail 0 sheetParts ∧
      splitAtRules partedSheet =
        { plain := ".a\x7b@b;\x7d\x7dd".toList
          atRules := [{ name := "media".toList
                        prelude := "print".toList
                        body := ".c\x7b\x7d".toList
                        text := "@Media print \x7b.c\x7b\x7d\x7d".toList }]
          unclosed := some 38 } := by
  have inside {header : Text} (all : header.all inHeader) : ∀ c ∈ header, inHeader c :=
    List.all_eq_true.mp all
  have block : (Part.block (AtRule.make "Media print ".toList ".c\x7b\x7d".toList)).WellFormed :=
    ⟨_, _, AtRule.written_make (inside (by decide)) (by decide)⟩
  have statement : (Part.statement "import x".toList).WellFormed :=
    inside (show "import x".toList.all inHeader by decide)
  have each : ∀ part ∈ sheetParts, part.WellFormed := by
    simp only [sheetParts, List.forall_mem_cons]
    exact ⟨trivial, statement, block, trivial, fun part member => absurd member List.not_mem_nil⟩
  have never : NeverClosed sheetTail :=
    neverClosed_of_enclosed (inside (show "page".toList.all inHeader by decide)) (by decide)
  have segments : Segments partedSheet sheetParts sheetTail := ⟨by decide, each, .inr never⟩
  have placed : Placed sheetTail 0 sheetParts := by decide
  refine ⟨segments, placed, ?_⟩
  rw [(splitAtRules_segments partedSheet).2 sheetParts sheetTail segments placed]
  decide

/-- A statement in which a closing brace stands outside blocks. -/
def strayCloser : Text := "@a \x7d ;".toList

/-- It cannot be taken apart so that no statement has a brace. -/
theorem splitAtRules_strayCloser :
    ¬ ∃ parts tail, Segments strayCloser parts tail ∧
      parts.flatMap Part.plain = (splitAtRules strayCloser).plain ∧
      parts.flatMap Part.atRules = (splitAtRules strayCloser).atRules ∧
      ∀ header, Part.statement header ∈ parts → Delimiter.brace.Free header := by
  rintro ⟨parts, tail, segments, plain, atRules, free⟩
  have noPlain : (splitAtRules strayCloser).plain = [] := by decide +kernel
  have noAtRules : (splitAtRules strayCloser).atRules = [] := by decide +kernel
  rw [noPlain, List.flatMap_eq_nil_iff] at plain
  rw [noAtRules, List.flatMap_eq_nil_iff] at atRules
  have closer : '\x7d' ∈ parts.flatMap Part.text ++ tail := by
    rw [← segments.whole]
    decide
  rcases List.mem_append.mp closer with inside | last
  · obtain ⟨part, member, inside⟩ := List.mem_flatMap.mp inside
    cases part with
    | kept text =>
      obtain rfl : text = [] := plain _ member
      cases inside
    | block rule => exact absurd (atRules _ member) (List.cons_ne_nil rule [])
    | statement header =>
      have absent : '\x7d' ∉ header := (free header member).2
      simp only [Part.text, List.mem_append, List.mem_cons, absent] at inside
      simp at inside
  · rcases segments.dropped with rfl | ⟨header, opened, rfl, -⟩
    · cases last
    · have opener : '\x7b' ∈ strayCloser := by
        rw [segments.whole]
        simp
      exact absurd opener (by decide)

end PageClip.Stylesheet
