import PageClip.Proofs.Stylesheet.Declaration
import PageClip.Proofs.Stylesheet.RootBlock
import PageClip.Proofs.Table

/-!
# The root blocks of a stylesheet

The scan for root blocks cuts a text into root blocks and the text between them.
`splitRoot_segments` says where each block is, that nothing else goes, and which
values the variables have.
-/

namespace PageClip.Stylesheet

open PageClip.Text

/-! ### Blocks and the text between them -/

/-- What a root block has in front of its body. -/
def rootHeader (gap : Text) : Text := rootMark ++ gap ++ ['\x7b']

/-- A text in which no selector of a root block has its brace behind it. -/
def Headless (text : Text) : Prop := ∀ gap, AllBlank gap → ¬ rootHeader gap <:+: text

/-- A root block, with the text between it and the one in front of it. -/
structure RootPart where
  front : Text
  gap : Text
  body : Text
  deriving DecidableEq, Repr

namespace RootPart

def text (part : RootPart) : Text := part.front ++ rootBlock part.gap part.body

structure WellFormed (part : RootPart) : Prop where
  headless : Headless part.front
  blank : AllBlank part.gap
  balanced : Delimiter.brace.Balanced part.body

end RootPart

/-- What begins with a root block that never closes. -/
def NeverClosedRoot (tail : Text) : Prop :=
  ∃ gap opened, tail = rootHeader gap ++ opened ∧ AllBlank gap ∧
    ∀ body after, Delimiter.brace.Balanced body → opened ≠ body ++ '\x7d' :: after

/-- A text is made up of root blocks, each with what stands in front of it, of the text behind the
last block, and of a tail that begins with the first block there, which never closes. -/
structure RootSegments (css : Text) (parts : List RootPart) (last tail : Text) : Prop where
  whole : css = parts.flatMap RootPart.text ++ (last ++ tail)
  each : ∀ part ∈ parts, part.WellFormed
  headless : Headless last
  tail : tail = [] ∨ NeverClosedRoot tail

/-- What the scan makes of segments that stand behind `offset` characters. -/
def collectRoots (offset : Nat) (parts : List RootPart) (last tail : Text) : RootSplit where
  definitions := parts.flatMap fun part => customProperties part.body
  remainder := parts.flatMap RootPart.front ++ (last ++ tail)
  unclosed :=
    if tail.isEmpty then none
    else some (offset + (parts.flatMap RootPart.text).length + last.length)

theorem rootBody?_rootHeader {gap : Text} (blank : AllBlank gap) (opened : Text) :
    rootBody? (rootHeader gap ++ opened) = some opened := by
  rw [rootHeader, List.append_assoc]
  exact rootBody?_mark blank opened

theorem headless_iff {text : Text} : Headless text ↔ Rootless text := by
  constructor
  · rintro headless after ⟨front, rfl⟩
    cases opens : rootBody? after with
    | none => rfl
    | some body =>
      obtain ⟨gap, blank, rfl⟩ := rootBody?_eq_some opens
      exact absurd ⟨front, body, by simp [rootHeader]⟩ (headless gap blank)
  · rintro rootless gap blank ⟨front, body, rfl⟩
    have opens := rootless (rootHeader gap ++ body) ⟨front, by rw [List.append_assoc]⟩
    rw [rootBody?_rootHeader blank] at opens
    cases opens

instance (text : Text) : Decidable (Headless text) := decidable_of_iff _ headless_iff.symm

theorem Headless.cons {c : Char} {front back : Text} (starts : rootBody? (c :: front ++ back) = none)
    (headless : Headless front) : Headless (c :: front) := by
  intro gap blank found
  rcases List.infix_cons_iff.mp found with ⟨rest, eq⟩ | inside
  · rw [← eq, List.append_assoc, rootBody?_rootHeader blank] at starts
    cases starts
  · exact headless gap blank inside

/-! ### From segments to the scan -/

/-- The selector of a root block does not run on behind a colon. -/
theorem rootBody?_append_colon {front : Text} (headless : Headless front) (solid : front ≠ [])
    (back : Text) : rootBody? (front ++ ':' :: back) = none := by
  cases opens : rootBody? (front ++ ':' :: back) with
  | none => rfl
  | some body =>
    have unopened := headless_iff.mp headless front List.suffix_rfl
    obtain ⟨gap, more, blank, header, nonempty, rest⟩ := exists_straddling unopened opens
    obtain ⟨d, more, rfl⟩ := List.exists_cons_of_ne_nil nonempty
    obtain rfl := (List.cons.inj rest).1
    obtain ⟨c, front, rfl⟩ := List.exists_cons_of_ne_nil solid
    have colon : ':' ∈ (rootMark ++ gap ++ ['\x7b']).tail := by simp [header]
    have absent : ':' ∉ gap := blank.not_mem (by decide)
    simp [rootMark, absent] at colon

theorem splitRootFrom_front {front : Text} (headless : Headless front) (back : Text) (offset : Nat) :
    splitRootFrom offset (front ++ ':' :: back) =
      let split := splitRootFrom (offset + front.length) (':' :: back)
      { split with remainder := front ++ split.remainder } := by
  induction front generalizing offset with
  | nil => rfl
  | cons c front ih =>
    have starts := rootBody?_append_colon headless (List.cons_ne_nil c front) back
    have later : Headless front := fun gap blank found =>
      headless gap blank (found.trans (List.suffix_cons c front).isInfix)
    rw [List.cons_append] at starts ⊢
    rw [splitRootFrom_cons starts, ih later, List.length_cons, Nat.add_assoc, Nat.add_comm 1]
    rfl

theorem splitRootFrom_headless {text : Text} (headless : Headless text) (offset : Nat) :
    splitRootFrom offset text = ⟨[], text, none⟩ := by
  induction text generalizing offset with
  | nil => exact splitRootFrom_nil offset
  | cons c rest ih =>
    have starts := headless_iff.mp headless (c :: rest) List.suffix_rfl
    have later : Headless rest := fun gap blank found =>
      headless gap blank (found.trans (List.suffix_cons c rest).isInfix)
    rw [splitRootFrom_cons starts, ih later]

theorem NeverClosedRoot.splitRootFrom {tail : Text} (never : NeverClosedRoot tail) (offset : Nat) :
    ∃ back, tail = ':' :: back ∧ splitRootFrom offset tail = ⟨[], tail, some offset⟩ := by
  obtain ⟨gap, opened, rfl, blank, never⟩ := never
  have unclosed := (Delimiter.enclosed_eq_none_iff (by decide)).mpr never
  exact ⟨_, rfl, splitRootFrom_unclosed (rootBody?_rootHeader blank opened) unclosed offset⟩

theorem collectRoots_cons (offset : Nat) (part : RootPart) (parts : List RootPart)
    (last tail : Text) :
    collectRoots offset (part :: parts) last tail =
      let split := collectRoots (offset + part.text.length) parts last tail
      { split with
        definitions := customProperties part.body ++ split.definitions
        remainder := part.front ++ split.remainder } := by
  simp only [collectRoots, List.flatMap_cons, List.length_append, List.append_assoc, Nat.add_assoc]

/-- The segments of a text decide what the scan makes of it. -/
theorem RootSegments.splitRootFrom {css last tail : Text} {parts : List RootPart}
    (segments : RootSegments css parts last tail) (offset : Nat) :
    splitRootFrom offset css = collectRoots offset parts last tail := by
  obtain ⟨rfl, each, headless, ended⟩ := segments
  induction parts generalizing offset with
  | nil =>
    rw [List.flatMap_nil, List.nil_append]
    rcases ended with rfl | never
    · rw [List.append_nil, splitRootFrom_headless headless]
      simp [collectRoots]
    · obtain ⟨back, eq, scanned⟩ := never.splitRootFrom (offset + last.length)
      have solid : tail.isEmpty = false := by simp [eq]
      rw [eq, splitRootFrom_front headless, ← eq, scanned]
      simp [collectRoots, solid]
  | cons part parts ih =>
    obtain ⟨here, later⟩ := List.forall_mem_cons.mp each
    obtain ⟨back, eq⟩ : ∃ back, rootBlock part.gap part.body = ':' :: back := ⟨_, rfl⟩
    have front := splitRootFrom_front here.headless
      (back ++ (parts.flatMap RootPart.text ++ (last ++ tail))) offset
    rw [← List.cons_append, ← eq, RootReads.block here.blank here.balanced, ih _ later,
      ← List.append_assoc] at front
    rw [List.flatMap_cons, List.append_assoc, RootPart.text, front, collectRoots_cons,
      RootPart.text, List.length_append, Nat.add_assoc]
    rfl

/-! ### From the scan to segments -/

theorem neverClosedRoot_of_enclosed {gap opened : Text} (blank : AllBlank gap)
    (unclosed : Delimiter.brace.enclosed 0 opened = none) :
    NeverClosedRoot (rootHeader gap ++ opened) :=
  ⟨gap, opened, rfl, blank, (Delimiter.enclosed_eq_none_iff (by decide)).mp unclosed⟩

theorem RootSegments.cons {c : Char} {rest last tail : Text} {parts : List RootPart}
    (starts : rootBody? (c :: rest) = none) (segments : RootSegments rest parts last tail) :
    ∃ parts' last', RootSegments (c :: rest) parts' last' tail := by
  obtain ⟨rfl, each, headless, ended⟩ := segments
  cases parts with
  | nil => exact ⟨[], c :: last, rfl, each, headless.cons starts, ended⟩
  | cons part parts =>
    obtain ⟨here, later⟩ := List.forall_mem_cons.mp each
    rw [List.flatMap_cons, RootPart.text, List.append_assoc, List.append_assoc,
      ← List.cons_append] at starts
    have wellFormed : RootPart.WellFormed ⟨c :: part.front, part.gap, part.body⟩ :=
      ⟨here.headless.cons starts, here.blank, here.balanced⟩
    exact ⟨_ :: parts, last, rfl, List.forall_mem_cons.mpr ⟨wellFormed, later⟩, headless, ended⟩

theorem exists_rootSegments (css : Text) : ∃ parts last tail, RootSegments css parts last tail := by
  have headlessNil : Headless [] := by decide
  induction length : css.length using Nat.strongRecOn generalizing css with
  | ind size ih =>
    cases starts : rootBody? css with
    | some opened =>
      obtain ⟨gap, blank, eq⟩ := rootBody?_eq_some starts
      rcases rootBody?_cases starts with ⟨gap, body, after, blank, balanced, rfl⟩ | ⟨unclosed, -⟩
      · have solid := length_rootBlock_pos gap body
        rw [List.length_append] at length
        obtain ⟨parts, last, tail, whole, each, headless, ended⟩ :=
          ih after.length (by omega) after rfl
        have wellFormed : RootPart.WellFormed ⟨[], gap, body⟩ := ⟨headlessNil, blank, balanced⟩
        refine ⟨⟨[], gap, body⟩ :: parts, last, tail, ?_,
          List.forall_mem_cons.mpr ⟨wellFormed, each⟩, headless, ended⟩
        rw [List.flatMap_cons, List.append_assoc, ← whole]
        rfl
      · have never := neverClosedRoot_of_enclosed blank unclosed
        rw [rootHeader, List.append_assoc, List.singleton_append, ← eq] at never
        exact ⟨[], [], css, rfl, by simp, headlessNil, .inr never⟩
    | none =>
      cases css with
      | nil => exact ⟨[], [], [], rfl, by simp, headlessNil, .inl rfl⟩
      | cons c rest =>
        rw [List.length_cons] at length
        obtain ⟨parts, last, tail, segments⟩ := ih rest.length (by omega) rest rfl
        obtain ⟨parts', last', segments'⟩ := segments.cons starts
        exact ⟨parts', last', tail, segments'⟩

/-! ### Values of variables -/

/-- A declaration that gives a custom property a value. -/
def Defines (declaration name value : Text) : Prop :=
  ∃ word gap raw, IsName word ∧ AllBlank gap ∧ name = ['-', '-'] ++ word ∧ value = trim raw ∧
    declaration = name ++ gap ++ ':' :: raw

/-- The last of the declarations that define a name gives it this value. -/
def LastDefines (declarations : List Text) (name value : Text) : Prop :=
  ∃ before declaration after, declarations = before ++ declaration :: after ∧
    Defines declaration name value ∧ ∀ later ∈ after, ∀ other, ¬ Defines later name other

theorem customProperty?_eq_some_iff {declaration name value : Text} :
    customProperty? declaration = some (name, value) ↔ Defines declaration name value := by
  constructor
  · intro read
    unfold customProperty? at read
    split at read
    · next rest =>
      dsimp only at read
      split at read
      · cases read
      · next solid =>
        split at read
        · next raw marked =>
          obtain ⟨rfl, rfl⟩ := Prod.mk.inj (Option.some.inj read)
          have named : IsName (rest.takeWhile isNamePart) :=
            ⟨by simpa using solid, fun c member => List.mem_takeWhile_imp member⟩
          refine ⟨_, (rest.dropWhile isNamePart).takeWhile isBlank, raw, named,
            fun c member => List.mem_takeWhile_imp member, rfl, rfl, ?_⟩
          have parts : rest = rest.takeWhile isNamePart ++
              ((rest.dropWhile isNamePart).takeWhile isBlank ++ ':' :: raw) := by
            rw [← marked, trimLeft, List.takeWhile_append_dropWhile,
              List.takeWhile_append_dropWhile]
          conv_lhs => rw [parts]
          simp
        · cases read
    · cases read
  · rintro ⟨word, gap, raw, named, blank, rfl, rfl, rfl⟩
    obtain ⟨c, rest, eq, ended⟩ :
        ∃ c rest, gap ++ ':' :: raw = c :: rest ∧ isNamePart c = false := by
      cases gap with
      | nil => exact ⟨':', raw, rfl, by decide⟩
      | cons d gap => exact ⟨d, _, rfl, isNamePart_of_isBlank (blank d List.mem_cons_self)⟩
    have taken : (word ++ (gap ++ ':' :: raw)).takeWhile isNamePart = word := by
      rw [List.takeWhile_append_of_pos named.parts, eq, List.takeWhile_cons_of_neg (by simp [ended]),
        List.append_nil]
    have dropped : (word ++ (gap ++ ':' :: raw)).dropWhile isNamePart = gap ++ ':' :: raw := by
      rw [List.dropWhile_append_of_pos named.parts, eq, List.dropWhile_cons_of_neg (by simp [ended])]
    have colon : trimLeft (gap ++ ':' :: raw) = ':' :: raw := by
      rw [trimLeft, List.dropWhile_append_of_pos blank, List.dropWhile_cons_of_neg (by decide)]
    have shown : ['-', '-'] ++ word ++ gap ++ ':' :: raw =
        '-' :: '-' :: (word ++ (gap ++ ':' :: raw)) := by simp
    rw [shown, customProperty?]
    simp [taken, dropped, colon, named.solid]

theorem find?_customProperties {declarations : List Text} {name value : Text} :
    Table.find? name (Table.ofList (declarations.filterMap customProperty?)) = some value ↔
      LastDefines declarations name value := by
  rw [Table.find?_ofList_eq_some_iff]
  constructor
  · rintro ⟨before, after, eq, absent⟩
    obtain ⟨front, rest, rfl, -, eqRest⟩ := List.filterMap_eq_append_iff.mp eq
    obtain ⟨skipped, declaration, later, rfl, -, read, rfl⟩ := List.filterMap_eq_cons_iff.mp eqRest
    refine ⟨front ++ skipped, declaration, later, by simp, customProperty?_eq_some_iff.mp read, ?_⟩
    intro other listed replaced defines
    have entered := List.mem_filterMap.mpr ⟨other, listed, customProperty?_eq_some_iff.mpr defines⟩
    exact absent (List.mem_map.mpr ⟨_, entered, rfl⟩)
  · rintro ⟨before, declaration, after, rfl, defines, last⟩
    refine ⟨before.filterMap customProperty?, after.filterMap customProperty?, ?_, fun member => ?_⟩
    · rw [List.filterMap_append, List.filterMap_cons, customProperty?_eq_some_iff.mpr defines]
    · obtain ⟨⟨_, replaced⟩, listed, rfl⟩ := List.mem_map.mp member
      obtain ⟨other, later, read⟩ := List.mem_filterMap.mp listed
      exact last other later replaced (customProperty?_eq_some_iff.mp read)

/-- A text is cut into root blocks and what stands between them. Without the blocks the rest is as
it was; the only selector of a root block that may still have a brace behind it is followed by a
block that never closes, and by whatever stands in that. A variable has the value that the last
declaration of its name in a block gives it. All this can be read off any such segments. -/
theorem splitRoot_segments (css : Text) :
    (∃ parts last tail, RootSegments css parts last tail) ∧
      ∀ parts last tail, RootSegments css parts last tail →
        (splitRoot css).remainder = parts.flatMap RootPart.front ++ (last ++ tail) ∧
        (∀ name value, Table.find? name (splitRoot css).values = some value ↔
          LastDefines (parts.flatMap fun part => splitDeclarations part.body) name value) ∧
        (splitRoot css).unclosed =
          if tail.isEmpty then none
          else some ((parts.flatMap RootPart.text).length + last.length) := by
  refine ⟨exists_rootSegments css, fun parts last tail segments => ?_⟩
  have scanned := segments.splitRootFrom 0
  rw [splitRoot, scanned]
  refine ⟨rfl, fun name value => ?_, by simp [collectRoots]⟩
  rw [← find?_customProperties, List.filterMap_flatMap]
  rfl

/-- Two root blocks, the second with a block of its own inside, and one that is never closed, in
which a further one stands. -/
def rootedSheet : Text :=
  ":root\x7b--a: 1; --b :2\x7d.a\x7b\x7d:root \x7b--a:\x7b3\x7d ;c\x7d;x:root\x7b:root\x7b--b:4\x7d".toList

def rootedParts : List RootPart :=
  [⟨[], [], "--a: 1; --b :2".toList⟩, ⟨".a\x7b\x7d".toList, [' '], "--a:\x7b3\x7d ;c".toList⟩]

theorem rootedSheet_segments :
    RootSegments rootedSheet rootedParts ";x".toList ":root\x7b:root\x7b--b:4\x7d".toList ∧
      (splitRoot rootedSheet).remainder =
        ".a\x7b\x7d;x:root\x7b:root\x7b--b:4\x7d".toList ∧
      Table.find? "--a".toList (splitRoot rootedSheet).values = some "\x7b3\x7d".toList ∧
      Table.find? "--b".toList (splitRoot rootedSheet).values = some ['2'] ∧
      (splitRoot rootedSheet).unclosed = some 45 := by
  have each : ∀ part ∈ rootedParts, part.WellFormed := by
    simp only [rootedParts, List.forall_mem_cons]
    exact ⟨⟨by decide, by decide, by decide⟩, ⟨by decide, by decide, by decide⟩,
      fun part member => absurd member List.not_mem_nil⟩
  have never : NeverClosedRoot ":root\x7b:root\x7b--b:4\x7d".toList :=
    neverClosedRoot_of_enclosed (show AllBlank [] by decide) (by decide)
  have segments : RootSegments rootedSheet rootedParts ";x".toList
      ":root\x7b:root\x7b--b:4\x7d".toList := ⟨by decide, each, by decide, .inr never⟩
  obtain ⟨remainder, values, unclosed⟩ := (splitRoot_segments rootedSheet).2 _ _ _ segments
  have undefined {declaration name : Text} (other : ∀ pair ∈ customProperty? declaration, pair.1 ≠ name)
      (value : Text) : ¬ Defines declaration name value := fun defines =>
    other (name, value) (customProperty?_eq_some_iff.mpr defines) rfl
  rw [remainder, unclosed]
  refine ⟨segments, by decide, (values _ _).mpr ?_, (values _ _).mpr ?_, by decide⟩
  · refine ⟨["--a: 1".toList, "--b :2".toList], "--a:\x7b3\x7d".toList, [['c']], by decide,
      ⟨['a'], [], "\x7b3\x7d".toList, by decide, by decide, rfl, by decide, by decide⟩, ?_⟩
    simp only [List.forall_mem_cons]
    exact ⟨undefined (by decide), fun later member => absurd member List.not_mem_nil⟩
  · refine ⟨["--a: 1".toList], "--b :2".toList, ["--a:\x7b3\x7d".toList, ['c']], by decide,
      ⟨['b'], [' '], ['2'], by decide, by decide, rfl, by decide, by decide⟩, ?_⟩
    simp only [List.forall_mem_cons]
    exact ⟨undefined (by decide), undefined (by decide),
      fun later member => absurd member List.not_mem_nil⟩

end PageClip.Stylesheet
