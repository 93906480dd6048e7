import PageClip.Proofs.Style.Ids
import PageClip.Proofs.Stylesheet.Reference
import PageClip.Proofs.Stylesheet.Succession
import PageClip.Proofs.Table

/-!
# What a media block says about base styles

The rules of a stylesheet do not hang on what its media blocks hold. Base styles
do in one way only: a root block sets variables for the whole stylesheet wherever
it stands. `compileBase_mediaBlock` shuts out every other way.
-/

namespace PageClip

open Stylesheet Text

def mediaHeader (prelude : Text) : Text := "@media ".toList ++ prelude ++ [' ']

def mediaBlock (prelude body : Text) : Text :=
  mediaHeader prelude ++ '\x7b' :: body ++ ['\x7d']

structure IsPrelude (text : Text) : Prop where
  free : Delimiter.brace.Free text
  unended : ';' ∉ text

structure IsBody (text : Text) : Prop where
  balanced : Delimiter.brace.Balanced text
  markless : Markless text

instance (text : Text) : Decidable (IsPrelude text) :=
  decidable_of_iff (Delimiter.brace.Free text ∧ ';' ∉ text)
    ⟨fun ⟨free, unended⟩ => ⟨free, unended⟩, fun ⟨free, unended⟩ => ⟨free, unended⟩⟩

instance (text : Text) : Decidable (IsBody text) :=
  decidable_of_iff (Delimiter.brace.Balanced text ∧ Markless text)
    ⟨fun ⟨balanced, markless⟩ => ⟨balanced, markless⟩,
      fun ⟨balanced, markless⟩ => ⟨balanced, markless⟩⟩

theorem mem_mediaHeader {prelude : Text} (h : IsPrelude prelude) :
    ∀ c ∈ mediaHeader prelude, inHeader c ∧ c ≠ '\x7d' := by
  intro c member
  rcases List.mem_append.mp member with early | last
  · rcases List.mem_append.mp early with keyword | inside
    · have each : "@media ".toList.all (fun c => inHeader c && c != '\x7d') := by decide
      simpa using List.all_eq_true.mp each c keyword
    · have notOpener : c ≠ '\x7b' := by
        rintro rfl
        exact h.free.1 inside
      have notCloser : c ≠ '\x7d' := by
        rintro rfl
        exact h.free.2 inside
      have notEnd : c ≠ ';' := by
        rintro rfl
        exact h.unended inside
      exact ⟨by simp [inHeader, notOpener, notEnd], notCloser⟩
  · rw [List.mem_singleton.mp last]
    decide

theorem exists_header {prelude : Text} (h : IsPrelude prelude) :
    ∃ header, stripComments (mediaHeader prelude) = '@' :: header ∧
      Delimiter.brace.Free ('@' :: header) ∧ ∀ c ∈ header, inHeader c := by
  have started : mediaHeader prelude = '@' :: ("media ".toList ++ prelude ++ [' ']) := rfl
  have unopened : ¬ commentStart <+: '@' :: ("media ".toList ++ prelude ++ [' ']) := fun starts =>
    absurd (List.cons_prefix_cons.mp starts).1 (by decide)
  have stripped := stripComments_cons unopened
  rw [← started] at stripped
  have each : ∀ c ∈ stripComments (mediaHeader prelude), inHeader c ∧ c ≠ '\x7d' :=
    fun c member => mem_mediaHeader h c (stripComments_subset _ c member)
  rw [stripped] at each
  refine ⟨_, stripped, ⟨fun opener => ?_, fun closer => ?_⟩, fun c member => ?_⟩
  · exact absurd (each _ opener).1 (by decide)
  · exact (each _ closer).2 rfl
  · exact (each c (List.mem_cons_of_mem '@' member)).1

theorem stripComments_mediaBlock (prelude : Text) {body : Text} (h : IsBody body) :
    stripComments (mediaBlock prelude body) =
      stripComments (mediaHeader prelude) ++ '\x7b' :: body ++ ['\x7d'] := by
  rcases stripComments_slot (mediaHeader prelude) [] with ⟨back, ended, kept⟩ | ⟨solid, -⟩
  · have whole := kept body h.markless
    rw [ended rfl] at whole
    simpa [mediaBlock] using whole
  · exact absurd rfl solid

theorem balanced_mediaBlock {prelude body : Text} (header : IsPrelude prelude) (h : IsBody body) :
    Delimiter.brace.Balanced (stripComments (mediaBlock prelude body)) := by
  obtain ⟨name, stripped, free, -⟩ := exists_header header
  rw [stripComments_mediaBlock prelude h, stripped, List.append_assoc]
  exact free.balanced.append (.nested h.balanced .nil)

/-! ### Two bodies in one place -/

section

variable {front prelude : Text} (complete : Complete front) (header : IsPrelude prelude)

include complete

/-- Without its comments a page is the same whatever the body, or the body is all that differs. -/
theorem stripComments_page (back : Text) :
    (∃ rest, ∀ body, IsBody body →
      stripComments (front ++ mediaBlock prelude body ++ back) =
        stripComments front ++ (stripComments (mediaBlock prelude body) ++ rest)) ∨
    ∃ left, ∀ body, IsBody body →
      stripComments (front ++ mediaBlock prelude body ++ back) = left := by
  have split (body : Text) : stripComments (front ++ mediaBlock prelude body ++ back) =
      stripComments front ++
        stripComments (mediaHeader prelude ++ '\x7b' :: (body ++ '\x7d' :: back)) := by
    rw [List.append_assoc, complete.stripComments_append]
    simp [mediaBlock]
  simp only [split]
  rcases stripComments_slot (mediaHeader prelude) back with ⟨rest, -, kept⟩ | ⟨-, left, same⟩
  · refine .inl ⟨rest, fun body h => ?_⟩
    rw [kept body h.markless, stripComments_mediaBlock prelude h]
    simp
  · exact .inr ⟨stripComments front ++ left, fun body h => by rw [same body h.markless]⟩

include header

theorem splitRoot_page {body : Text} (h : IsBody body) (rest : Text) :
    (splitRoot (stripComments front ++ (stripComments (mediaBlock prelude body) ++ rest))).definitions =
        (splitRoot (stripComments front)).definitions ++
          ((splitRoot (stripComments (mediaBlock prelude body))).definitions ++
            (splitRoot rest).definitions) ∧
      (splitRoot (stripComments (mediaBlock prelude body) ++ rest)).remainder =
        (splitRoot (stripComments (mediaBlock prelude body))).remainder ++
          (splitRoot rest).remainder := by
  have closed := rootsClosed_of_closes ((balanced_mediaBlock header h).closes (by decide))
  have last : (trimRight (stripComments (mediaBlock prelude body))).getLast? = some '\x7d' := by
    rw [stripComments_mediaBlock prelude h, trimRight_concat (by decide), List.getLast?_concat]
  obtain ⟨definitions, remainder⟩ := splitRoot_append closed (rootApart_of_last last rest)
  rw [(complete.splitRoot_append _).1, definitions]
  exact ⟨rfl, remainder⟩

theorem values_page {body other : Text} (own : IsBody body) (new : IsBody other)
    (same : (parse (mediaBlock prelude body)).values = (parse (mediaBlock prelude other)).values)
    (back : Text) :
    (parse (front ++ mediaBlock prelude body ++ back)).values =
      (parse (front ++ mediaBlock prelude other ++ back)).values := by
  rcases @stripComments_page front prelude complete back with ⟨rest, kept⟩ | ⟨left, gone⟩
  · have values (body : Text) (h : IsBody body) :
        (parse (front ++ mediaBlock prelude body ++ back)).values =
          Table.putAll (splitRoot rest).definitions
            (Table.putAll (parse (mediaBlock prelude body)).values
              (Table.ofList (splitRoot (stripComments front)).definitions)) := by
      simp only [parse, RootSplit.values, kept body h, (splitRoot_page complete header h rest).1]
      rw [Table.ofList, Table.putAll_append, Table.putAll_append, Table.putAll_ofList]
      rfl
    rw [values body own, values other new, same]
  · simp only [parse, gone body own, gone other new]

theorem rules_page {body other : Text} (own : IsBody body) (new : IsBody other) (back : Text) :
    (parse (front ++ mediaBlock prelude body ++ back)).rules =
      (parse (front ++ mediaBlock prelude other ++ back)).rules := by
  rcases @stripComments_page front prelude complete back with ⟨rest, kept⟩ | ⟨left, gone⟩
  · obtain ⟨before, tail, -, -, opened, later⟩ := complete.exists_residue
    obtain ⟨name, stripped, free, inside⟩ := exists_header header
    have residues (body : Text) (h : IsBody body) :
        residue (front ++ mediaBlock prelude body ++ back) =
          before ++ (splitAtRules (tail ++
            ((splitRoot (stripComments (mediaBlock prelude body))).remainder ++
              (splitRoot rest).remainder))).plain := by
      rw [residue, kept body h, later, (splitRoot_page complete header h rest).2]
    rw [parse_rules, parse_rules, residues body own, residues other new,
      stripComments_mediaBlock prelude own, stripComments_mediaBlock prelude new, stripped]
    rcases remainder_block_cases free.1 with ⟨left, same⟩ | stays
    · rw [same body own.balanced, same other new.balanced]
    · -- The block is an at-rule and goes with all that is left of its body.
      have dropped (body : Text) (balanced : Delimiter.brace.Balanced body) :
          (splitAtRules (tail ++ ((splitRoot ('@' :: name ++ '\x7b' :: body ++ ['\x7d'])).remainder ++
            (splitRoot rest).remainder))).plain =
            (splitAtRules (splitRoot rest).remainder).plain := by
        obtain ⟨inner, whole, eq⟩ := stays body balanced
        obtain ⟨joined, started, all⟩ := opened.append inside
        have reads := (AtReads.block all whole).plain_append (splitRoot rest).remainder
        rw [← started] at reads
        rw [eq]
        simpa using reads
      rw [dropped body own.balanced, dropped other new.balanced]
  · simp only [parse, gone body own, gone other new]

end

theorem baseDraft_congr {sheet other : Stylesheet} (rules : sheet.rules = other.rules)
    (values : sheet.values = other.values) : sheet.baseDraft = other.baseDraft := by
  have found : sheet.findRule? = other.findRule? := by
    funext className
    rw [findRule?, findRule?, rules]
  have line : sheet.lineOf = other.lineOf := by
    funext rule
    cases rule with
    | none => rfl
    | some rule => rw [lineOf, lineOf, values]
  funext className
  rw [Stylesheet.baseDraft, Stylesheet.baseDraft, baseLine, baseLine, found, line]

/-- Base styles are the same for two bodies of a media block that set the same variables for the
stylesheet. -/
theorem compileBase_mediaBlock {front prelude body other : Text} (complete : Complete front)
    (header : IsPrelude prelude) (own : IsBody body) (new : IsBody other)
    (same : (parse (mediaBlock prelude body)).values = (parse (mediaBlock prelude other)).values)
    (back : Text) (classNames : List String) (ids : IdSource) (ledger : Ledger) :
    ∃ first second after later,
      (compileBase (String.ofList (front ++ mediaBlock prelude body ++ back)) classNames).run
          ids ledger = (.ok first, after) ∧
        (compileBase (String.ofList (front ++ mediaBlock prelude other ++ back)) classNames).run
          ids ledger = (.ok second, later) ∧
        first.styles = second.styles ∧ first.classIds = second.classIds := by
  have drafts := baseDraft_congr (rules_page complete header own new back)
    (values_page complete header own new same back)
  have styles : identified ids ledger.drawn (classNames.eraseDups.map
        (parse (front ++ mediaBlock prelude body ++ back)).baseDraft) =
      identified ids ledger.drawn (classNames.eraseDups.map
        (parse (front ++ mediaBlock prelude other ++ back)).baseDraft) := by
    rw [drafts]
  have ran := compileBase_run (String.ofList (front ++ mediaBlock prelude body ++ back))
    classNames ids ledger
  have ranOther := compileBase_run (String.ofList (front ++ mediaBlock prelude other ++ back))
    classNames ids ledger
  rw [String.toList_ofList] at ran ranOther
  refine ⟨_, _, _, _, ran, ranOther, styles, ?_⟩
  simp only [StyleCollection.ofStyles, styles]

/-- A rule that refers to a variable which no root block in front of the media block sets. -/
def variableRule : Text := ".a \x7b color: var(--c); \x7d\n".toList

theorem complete_variableRule : Complete variableRule :=
  ⟨commentsClosed_of_clean (by decide), by decide +kernel, by decide +kernel⟩

def printPage (body : Text) : Text := variableRule ++ mediaBlock "print".toList body ++ []

def compilePrint (body : Text) : Except Fault StyleCollection × Ledger :=
  (compileBase (String.ofList (printPage body)) ["a"]).run (IdSource.numbered "n") .fresh

/-- One body has a rule for the class and sets the variable twice, the other sets it once. -/
theorem compileBase_mediaBlock_same :
    ∃ first second after later,
      compilePrint ".a \x7b color: blue; \x7d :root \x7b --c: blue; --c: red; \x7d".toList =
          (.ok first, after) ∧
        compilePrint ":root \x7b --c: red; \x7d".toList = (.ok second, later) ∧
        first.styles = second.styles ∧ first.classIds = second.classIds :=
  compileBase_mediaBlock complete_variableRule (by decide) (by decide) (by decide)
    (by decide +kernel) [] ["a"] (IdSource.numbered "n") .fresh

theorem text_baseLine (sheet : Stylesheet)
    (rule : sheet.findRule? "a".toList = some ⟨".a".toList, ["color: var(--c)".toList]⟩) :
    (sheet.baseLine "a").text = "color: ".toList ++ replaced sheet.values [] "--c".toList := by
  have bare : (["color: var(--c)".toList].map bareDeclaration).filter (fun bare => !bare.isEmpty) =
      ["color: var(--c)".toList] := by decide
  have spaced : spaceColon "color: var(--c)".toList = "color: var(--c)".toList := by decide
  have found : cut? referenceMark "color: var(--c)".toList =
      some ("color: ".toList, "--c)".toList) := by decide
  have closes : Delimiter.paren.enclosed 0 "--c)".toList = some ("--c".toList, []) := by decide
  have text : (resolve sheet.values "color: var(--c)".toList).text =
      "color: ".toList ++ replaced sheet.values [] "--c".toList := by
    rw [resolve, resolveFrom_found found closes, Resolution.text_append, text_resolveFrom, resolved_nil,
      List.append_nil]
  rw [baseLine, rule, lineOf, flatten, resolveDeclarations, bare, List.map_cons, spaced]
  simpa using text

theorem compilePrint_base {body line : Text}
    (text : ((parse (printPage body)).baseLine "a").text = line) :
    ∃ collection after, compilePrint body = (.ok collection, after) ∧
      collection.styles.map Style.base = [String.ofList line] := by
  refine ⟨_, _, compileBase_run _ ["a"] (IdSource.numbered "n") .fresh, ?_⟩
  rw [String.toList_ofList, ← text]
  rfl

/-- A body that sets the variable, against one that is empty. -/
theorem compileBase_mediaBlock_root :
    ∃ first second after later,
      compilePrint ":root \x7b --c: red; \x7d".toList = (.ok first, after) ∧
        compilePrint [] = (.ok second, later) ∧
        first.styles.map Style.base = ["color: red"] ∧
        second.styles.map Style.base = ["color: var(--c)"] := by
  have red : replaced [("--c".toList, "red".toList)] [] "--c".toList = "red".toList := by
    rw [replaced, show replacement? [("--c".toList, "red".toList)] [] (referenceName "--c".toList) =
      some "red".toList by decide]
    exact resolved_of_free (by decide)
  have unset : replaced [] [] "--c".toList = "var(--c)".toList := by
    rw [replaced, show replacement? [] [] (referenceName "--c".toList) = none by decide,
      show fallback? "--c".toList = none by decide]
    rfl
  have first := text_baseLine (parse (printPage ":root \x7b --c: red; \x7d".toList))
    (by decide +kernel)
  have second := text_baseLine (parse (printPage [])) (by decide +kernel)
  rw [show (parse (printPage ":root \x7b --c: red; \x7d".toList)).values =
    [("--c".toList, "red".toList)] by decide +kernel, red] at first
  rw [show (parse (printPage [])).values = [] by decide +kernel, unset] at second
  obtain ⟨collection, after, ran, base⟩ := compilePrint_base first
  obtain ⟨other, later, ranOther, baseOther⟩ := compilePrint_base second
  exact ⟨collection, other, after, later, ran, ranOther, base, baseOther⟩

end PageClip
