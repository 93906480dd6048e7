import PageClip.Proofs.Stylesheet.DeclarationList
import PageClip.Proofs.Stylesheet.Delimiter
import PageClip.Proofs.Text.Cut
import PageClip.Stylesheet.Advanced

/-!
# Reading flat rules

`Rule.format` is undone by the scan for flat rules, wherever the rule stands
between blanks.
-/

namespace PageClip.Stylesheet

open PageClip.Text

theorem intercalate_cons {α : Type} (glue part : List α) (parts : List (List α)) :
    glue.intercalate (part :: parts) = part ++ parts.flatMap (glue ++ ·) := by
  induction parts generalizing part with
  | nil => simp
  | cons next parts ih => rw [List.intercalate_cons_cons, ih, List.flatMap_cons]; simp

theorem free_of_blank {gap : Text} (blank : AllBlank gap) : Delimiter.brace.Free gap :=
  ⟨blank.not_mem (by decide), blank.not_mem (by decide)⟩

/-! ### The scan over text without braces -/

section Scan

variable {front : Text}

theorem scanSelector_append (free : Delimiter.brace.Free front) (selector rest : Text) :
    scanSelector selector (front ++ rest) = scanSelector (front.reverse ++ selector) rest := by
  induction front generalizing selector with
  | nil => rfl
  | cons c front ih =>
    obtain ⟨notOpener, notCloser, later⟩ := free.of_cons
    rw [List.cons_append, scanSelector.eq_4 selector c _ notCloser notOpener, ih later]
    simp

theorem scanBody_append (free : Delimiter.brace.Free front) (selector body rest : Text) :
    scanSelector.scanBody selector body (front ++ rest) =
      scanSelector.scanBody selector (front.reverse ++ body) rest := by
  induction front generalizing body with
  | nil => rfl
  | cons c front ih =>
    obtain ⟨notOpener, notCloser, later⟩ := free.of_cons
    rw [List.cons_append, scanSelector.scanBody.eq_4 selector body c _ notCloser notOpener,
      ih later]
    simp

theorem scanRules_of_free (free : Delimiter.brace.Free front) : scanRules front = [] := by
  have whole := scanSelector_append free [] []
  rw [List.append_nil] at whole
  rw [scanRules, whole, scanSelector]

end Scan

/-- A closing brace ends whatever is being read. -/
theorem scanSelector_closer (front back selector : Text) :
    scanSelector selector (front ++ '\x7d' :: back) =
      scanSelector selector (front ++ ['\x7d']) ++ scanRules back := by
  have both (selector body : Text) :
      scanSelector selector (front ++ '\x7d' :: back) =
          scanSelector selector (front ++ ['\x7d']) ++ scanRules back ∧
        scanSelector.scanBody selector body (front ++ '\x7d' :: back) =
          scanSelector.scanBody selector body (front ++ ['\x7d']) ++ scanRules back := by
    induction front generalizing selector body with
    | nil => simp [scanSelector, scanSelector.scanBody, scanRules]
    | cons c front ih =>
      rw [List.cons_append, List.cons_append]
      by_cases closer : c = '\x7d'
      · subst closer
        simp only [scanSelector, scanSelector.scanBody, (ih [] []).1, List.cons_append, and_self]
      by_cases opener : c = '\x7b'
      · subst opener
        simp only [scanSelector, scanSelector.scanBody]
        constructor
        · split
          · exact (ih [] []).1
          · exact (ih selector []).2
        · split
          · exact (ih [] []).1
          · exact (ih body []).2
      · rw [scanSelector.eq_4 selector c _ closer opener, scanSelector.eq_4 selector c _ closer opener,
          scanSelector.scanBody.eq_4 selector body c _ closer opener,
          scanSelector.scanBody.eq_4 selector body c _ closer opener]
        exact ⟨(ih (c :: selector) []).1, (ih selector (c :: body)).2⟩
  exact (both selector []).1

theorem scanRules_rule {selector body : Text} (solid : selector ≠ [])
    (freeSelector : Delimiter.brace.Free selector) (freeBody : Delimiter.brace.Free body)
    (rest : Text) :
    scanRules (selector ++ '\x7b' :: body ++ '\x7d' :: rest) =
      (selector, body) :: scanRules rest := by
  have started : selector.reverse.isEmpty = false := by simpa using solid
  rw [List.append_assoc, List.cons_append, scanRules, scanSelector_append freeSelector,
    List.append_nil, scanSelector, started, if_neg Bool.false_ne_true,
    scanBody_append freeBody, List.append_nil, scanSelector.scanBody, List.reverse_reverse,
    List.reverse_reverse]
  rfl

/-! ### Printed rules -/

/-- A declaration that reads back as it is written: one piece between semicolons, without braces.
A blank one would be left out. -/
structure IsDeclaration (text : Text) : Prop where
  solid : text ≠ []
  piece : IsPiece text
  free : Delimiter.brace.Free text

instance (text : Text) : Decidable (IsDeclaration text) :=
  decidable_of_iff (text ≠ [] ∧ IsPiece text ∧ Delimiter.brace.Free text)
    ⟨fun ⟨solid, piece, free⟩ => ⟨solid, piece, free⟩,
      fun ⟨solid, piece, free⟩ => ⟨solid, piece, free⟩⟩

theorem declarations_of_isDeclaration {declarations : List Text}
    (each : ∀ declaration ∈ declarations, IsDeclaration declaration) :
    Declarations declarations := by
  induction declarations with
  | nil => exact .nil
  | cons declaration declarations ih =>
    obtain ⟨here, later⟩ := List.forall_mem_cons.mp each
    exact .cons ⟨here.piece.trimmed, here.solid, here.piece.unparted⟩ here.piece.closed (ih later)

namespace Rule

/-- A rule that reads back as it is written. -/
structure Printable (rule : Rule) : Prop where
  solid : rule.selector ≠ []
  trimmed : trim rule.selector = rule.selector
  free : Delimiter.brace.Free rule.selector
  declarations : ∀ declaration ∈ rule.declarations, IsDeclaration declaration

instance (rule : Rule) : Decidable rule.Printable :=
  decidable_of_iff
    (rule.selector ≠ [] ∧ trim rule.selector = rule.selector ∧
      Delimiter.brace.Free rule.selector ∧
      ∀ declaration ∈ rule.declarations, IsDeclaration declaration)
    ⟨fun ⟨solid, trimmed, free, declarations⟩ => ⟨solid, trimmed, free, declarations⟩,
      fun ⟨solid, trimmed, free, declarations⟩ => ⟨solid, trimmed, free, declarations⟩⟩

/-- A printed declaration on its line. -/
def line (declaration : Text) : Text := '\n' :: ' ' :: ' ' :: declaration ++ [';']

/-- What a printed rule has between its braces. -/
def inside (rule : Rule) : Text := rule.declarations.flatMap line ++ ['\n']

theorem format_eq (rule : Rule) :
    rule.format = rule.selector ++ [' ', '\x7b'] ++ rule.inside ++ ['\x7d'] := by
  unfold format inside
  rw [List.cons_append, intercalate_cons, List.flatMap_append, List.flatMap_map]
  simp [show line = fun declaration => '\n' :: ' ' :: ' ' :: declaration ++ [';'] from rfl]

/-- A declaration as it is read back. One that leaves a parenthesis open takes the semicolon behind
it in. -/
def reprinted (declaration : Text) : Text :=
  if openAfter 0 declaration = 0 then declaration else declaration ++ [';']

theorem map_reprinted_eq_iff {declarations : List Text} :
    declarations.map reprinted = declarations ↔
      ∀ declaration ∈ declarations, openAfter 0 declaration = 0 := by
  have each (declaration : Text) : reprinted declaration = declaration ↔
      openAfter 0 declaration = 0 := by
    unfold reprinted
    split <;> simp [*]
  have same := @List.map_eq_map_iff _ _ reprinted declarations id
  simpa only [List.map_id, id_eq, each] using same

theorem splitDeclarations_line {declaration : Text} (split : IsSplit declaration)
    (closed : openAfter 0 declaration = 0) (rest : Text) :
    splitDeclarations (line declaration ++ rest) = declaration :: splitDeclarations rest := by
  have written : line declaration ++ rest = ['\n', ' ', ' '] ++ (declaration ++ ';' :: rest) := by
    simp [line]
  rw [written, splitDeclarations_blank_append (by decide), splitDeclarations_append closed,
    split.splitDeclarations, List.singleton_append]

theorem splitDeclarations_lastLine {declaration : Text} (split : IsSplit declaration) :
    splitDeclarations (line declaration ++ ['\n']) = [reprinted declaration] := by
  by_cases closed : openAfter 0 declaration = 0
  · rw [splitDeclarations_line split closed, splitDeclarations_of_blank (by decide), reprinted,
      if_pos closed]
  have unparted : Unparted 0 (declaration ++ [';', '\n']) := by
    intro before found
    rw [List.append_cons declaration, List.prefix_concat_iff, List.prefix_concat_iff] at found
    rcases found with ends | whole | inside
    · exact absurd (List.append_inj_right' ends rfl) (by decide)
    · rwa [List.append_cancel_right whole]
    · exact split.unparted before inside
  have trimmed : trim (declaration ++ [';', '\n']) = declaration ++ [';'] := by
    rw [List.append_cons, trim_append_blank (by decide), trim_concat (by decide) split.trimmed]
  have written : line declaration ++ ['\n'] = ['\n', ' ', ' '] ++ (declaration ++ [';', '\n']) := by
    simp [line]
  rw [written, splitDeclarations_blank_append (by decide), splitDeclarations_unparted unparted,
    trimmed, if_neg (by simp), reprinted, if_neg closed]

theorem splitDeclarations_inside {rule : Rule} (list : Declarations rule.declarations) :
    splitDeclarations rule.inside = rule.declarations.map reprinted := by
  unfold inside
  generalize rule.declarations = declarations at list ⊢
  induction list with
  | nil => exact splitDeclarations_of_blank (by decide)
  | @last declaration split =>
    rw [List.flatMap_singleton]
    exact splitDeclarations_lastLine split
  | @cons declaration rest split closed _ ih =>
    rw [List.flatMap_cons, List.append_assoc, splitDeclarations_line split closed, ih, List.map_cons,
      reprinted, if_pos closed]

/-- A rule whose text is that of one rule. -/
structure Framed (rule : Rule) : Prop where
  solid : rule.selector ≠ []
  trimmed : trim rule.selector = rule.selector
  free : Delimiter.brace.Free rule.selector
  declarations : ∀ declaration ∈ rule.declarations, Delimiter.brace.Free declaration

theorem Framed.free_inside {rule : Rule} (framed : rule.Framed) :
    Delimiter.brace.Free rule.inside := by
  unfold inside
  refine Delimiter.Free.append (Delimiter.Free.flatMap fun declaration member => ?_) (by decide)
  have indent : Delimiter.brace.Free ['\n', ' ', ' '] := by decide
  exact (indent.append (framed.declarations declaration member)).append (by decide)

theorem Framed.ruleOf? {rule : Rule} (framed : rule.Framed) {gap : Text} (blank : AllBlank gap) :
    ruleOf? (gap ++ (rule.selector ++ [' '])) rule.inside =
      some ⟨rule.selector, splitDeclarations rule.inside⟩ := by
  have trimmed : trim (gap ++ (rule.selector ++ [' '])) = rule.selector := by
    rw [trim_blank_append blank, trim_append_blank (by decide), framed.trimmed]
  have solid : ¬ rule.selector.isEmpty := by simpa using framed.solid
  rw [Stylesheet.ruleOf?, trimmed, if_neg solid]

/-- A printed rule is the first rule of a text in which only blanks stand before it. -/
theorem Framed.parseRules_append {rule : Rule} (framed : rule.Framed) {gap : Text}
    (blank : AllBlank gap) (rest : Text) :
    parseRules (gap ++ rule.format ++ rest) =
      ⟨rule.selector, splitDeclarations rule.inside⟩ :: parseRules rest := by
  have free : Delimiter.brace.Free (gap ++ (rule.selector ++ [' '])) :=
    (free_of_blank blank).append (framed.free.append (by decide))
  have scanned := scanRules_rule (by simp) free framed.free_inside rest
  have written : gap ++ rule.format ++ rest =
      gap ++ (rule.selector ++ [' ']) ++ '\x7b' :: rule.inside ++ '\x7d' :: rest := by
    rw [format_eq]
    simp
  rw [written, parseRules, scanned, parseRules]
  exact List.filterMap_cons_some (framed.ruleOf? blank)

theorem Printable.framed {rule : Rule} (printable : rule.Printable) : rule.Framed :=
  ⟨printable.solid, printable.trimmed, printable.free,
    fun declaration member => (printable.declarations declaration member).free⟩

theorem Printable.splitDeclarations_inside {rule : Rule} (printable : rule.Printable) :
    splitDeclarations rule.inside = rule.declarations := by
  rw [Rule.splitDeclarations_inside (declarations_of_isDeclaration printable.declarations),
    map_reprinted_eq_iff]
  exact fun declaration member => (printable.declarations declaration member).piece.closed

end Rule

/-- The scan for flat rules finds `found` in a text, whatever blanks stand before it and whatever
stands behind it. -/
def RuleReads (text : Text) (found : List Rule) : Prop :=
  ∀ rest rules, (∀ gap, AllBlank gap → parseRules (gap ++ rest) = rules) →
    ∀ gap, AllBlank gap → parseRules (gap ++ (text ++ rest)) = found ++ rules

theorem parseRules_of_free {text : Text} (free : Delimiter.brace.Free text) :
    parseRules text = [] := by
  rw [parseRules, scanRules_of_free free, List.filterMap_nil]

theorem parseRules_of_blank {text : Text} (blank : AllBlank text) : parseRules text = [] :=
  parseRules_of_free (free_of_blank blank)

/-! ### Blanks in front of a selector

They are trimmed away with it, whatever the scan is reading when it comes upon
them. -/

def rulesOf (scanned : List (Text × Text)) : List Rule :=
  scanned.filterMap fun (selector, body) => ruleOf? selector body

theorem rulesOf_cons (selector body : Text) (scanned : List (Text × Text)) :
    rulesOf ((selector, body) :: scanned) = (ruleOf? selector body).toList ++ rulesOf scanned := by
  unfold rulesOf
  cases found : ruleOf? selector body <;> simp [found]

section Blank

variable {gap : Text} (blank : AllBlank gap)

include blank

theorem ruleOf?_blank_append (selector body : Text) :
    ruleOf? (gap ++ selector) body = ruleOf? selector body := by
  rw [ruleOf?, ruleOf?, trim_blank_append blank]

theorem AllBlank.reverse : AllBlank gap.reverse := by
  intro c member
  exact blank c (List.mem_reverse.mp member)

theorem rulesOf_scanBody (selector body text : Text) :
    rulesOf (scanSelector.scanBody (selector ++ gap) body text) =
      rulesOf (scanSelector.scanBody selector body text) := by
  induction text generalizing body with
  | nil => rfl
  | cons c text ih =>
    by_cases closer : c = '\x7d'
    · subst closer
      rw [scanSelector.scanBody, scanSelector.scanBody, rulesOf_cons, rulesOf_cons,
        List.reverse_append, ruleOf?_blank_append (AllBlank.reverse blank)]
    by_cases opener : c = '\x7b'
    · subst opener
      rw [scanSelector.scanBody, scanSelector.scanBody]
    · rw [scanSelector.scanBody.eq_4 _ body c _ closer opener,
        scanSelector.scanBody.eq_4 selector body c _ closer opener, ih]

/-- A block with a blank selector is no rule, so its body may as well be read as a selector. -/
theorem rulesOf_scanBody_blank (body text : Text) :
    rulesOf (scanSelector.scanBody gap body text) = rulesOf (scanSelector body text) := by
  induction text generalizing body with
  | nil => rfl
  | cons c text ih =>
    by_cases closer : c = '\x7d'
    · subst closer
      have none : ruleOf? gap.reverse body.reverse = Option.none := by
        rw [ruleOf?, trim_of_blank (AllBlank.reverse blank)]
        rfl
      rw [scanSelector.scanBody, scanSelector, rulesOf_cons, none]
      rfl
    by_cases opener : c = '\x7b'
    · subst opener
      rw [scanSelector.scanBody, scanSelector]
    · rw [scanSelector.scanBody.eq_4 gap body c _ closer opener,
        scanSelector.eq_4 body c _ closer opener, ih]

theorem rulesOf_scanSelector (selector text : Text) :
    rulesOf (scanSelector (selector ++ gap) text) = rulesOf (scanSelector selector text) := by
  induction text generalizing selector with
  | nil => rfl
  | cons c text ih =>
    by_cases closer : c = '\x7d'
    · subst closer
      rw [scanSelector, scanSelector]
    by_cases opener : c = '\x7b'
    · subst opener
      rw [scanSelector, scanSelector]
      cases selector with
      | nil =>
        cases gap with
        | nil => rfl
        | cons d gap => exact rulesOf_scanBody_blank blank [] text
      | cons d selector => exact rulesOf_scanBody blank (d :: selector) [] text
    · rw [scanSelector.eq_4 _ c _ closer opener, scanSelector.eq_4 selector c _ closer opener]
      exact ih (c :: selector)

theorem parseRules_blank_append (text : Text) : parseRules (gap ++ text) = parseRules text := by
  have scanned := scanSelector_append (free_of_blank blank) [] text
  rw [List.append_nil] at scanned
  have same := rulesOf_scanSelector (AllBlank.reverse blank) [] text
  rw [List.nil_append, ← scanned] at same
  exact same

end Blank

/-- A text that is empty or ends in a closing brace leaves no rule under way. -/
theorem parseRules_append_of_closer {front : Text}
    (ends : front = [] ∨ ∃ before, front = before ++ ['\x7d']) (back : Text) :
    parseRules (front ++ back) = parseRules front ++ parseRules back := by
  rcases ends with rfl | ⟨before, rfl⟩
  · rfl
  · unfold parseRules scanRules
    rw [List.append_assoc, List.singleton_append, scanSelector_closer, List.filterMap_append,
      scanRules]

/-- Only what stands behind the last closing brace of a balanced text is still under way. -/
theorem parseRules_balanced_append {front : Text} (balanced : Delimiter.brace.Balanced front) :
    Delimiter.brace.Free (afterLast '\x7d' front) ∧
      ∀ back, parseRules (front ++ back) =
        parseRules front ++ parseRules (afterLast '\x7d' front ++ back) := by
  obtain ⟨before, eq, unclosed, ends⟩ := exists_afterLast '\x7d' front
  have part : afterLast '\x7d' front <:+ front := ⟨before, eq.symm⟩
  have free : Delimiter.brace.Free (afterLast '\x7d' front) :=
    ((balanced.closes (by decide)).of_suffix part).free unclosed
  refine ⟨free, fun back => ?_⟩
  generalize afterLast '\x7d' front = last at eq free ⊢
  subst eq
  rw [List.append_assoc, parseRules_append_of_closer ends, parseRules_append_of_closer ends,
    parseRules_of_free free, List.append_nil]

/-- The flat rules of a text with only blanks behind its last closing brace are read whatever stands
behind it. -/
theorem parseRules_append {front : Text} (settled : AllBlank (afterLast '\x7d' front))
    (back : Text) : parseRules (front ++ back) = parseRules front ++ parseRules back := by
  obtain ⟨before, eq, -, ends⟩ := exists_afterLast '\x7d' front
  generalize afterLast '\x7d' front = gap at settled eq
  subst eq
  rw [List.append_assoc, parseRules_append_of_closer ends, parseRules_blank_append settled,
    parseRules_append_of_closer ends, parseRules_of_blank settled, List.append_nil]

namespace RuleReads

theorem append {front back : Text} {here there : List Rule} (first : RuleReads front here)
    (second : RuleReads back there) : RuleReads (front ++ back) (here ++ there) := by
  intro rest rules later gap blank
  rw [List.append_assoc, List.append_assoc]
  exact first (back ++ rest) (there ++ rules) (second rest rules later) gap blank

theorem blank {text : Text} (blankText : AllBlank text) : RuleReads text [] := by
  intro rest rules later gap blankGap
  rw [← List.append_assoc, List.nil_append]
  exact later (gap ++ text) (blankGap.append blankText)

theorem framed {rule : Rule} (framed : rule.Framed) :
    RuleReads rule.format [⟨rule.selector, splitDeclarations rule.inside⟩] := by
  intro rest rules later gap blankGap
  rw [← List.append_assoc, framed.parseRules_append blankGap]
  exact congrArg (_ :: ·) (later [] (by decide))

theorem format {rule : Rule} (printable : rule.Printable) : RuleReads rule.format [rule] := by
  have reads := framed printable.framed
  rwa [printable.splitDeclarations_inside] at reads

theorem parse_append {text : Text} {found : List Rule} (reads : RuleReads text found)
    (rest : Text) : parseRules (text ++ rest) = found ++ parseRules rest :=
  reads rest (parseRules rest) (fun _ blank => parseRules_blank_append blank rest) [] (by decide)

theorem parse {text : Text} {found : List Rule} (reads : RuleReads text found) :
    parseRules text = found := by
  have nothing : parseRules [] = [] := rfl
  have whole := reads.parse_append []
  rwa [nothing, List.append_nil, List.append_nil] at whole

end RuleReads

/-- What holds of parts that append and of the blank line between them holds of the whole. -/
theorem paragraphs_reads {α β : Type} {R : Text → List β → Text → Prop} (nil : R [] [] [])
    (append : ∀ {front back here there keptFront keptBack}, R front here keptFront →
      R back there keptBack → R (front ++ back) (here ++ there) (keptFront ++ keptBack))
    (glue : R ['\n', '\n'] [] ['\n', '\n']) (text : α → Text) (found : α → List β)
    (kept : α → Text) {items : List α}
    (each : ∀ item ∈ items, R (text item) (found item) (kept item)) :
    R (paragraphs (items.map text)) (items.flatMap found) (paragraphs (items.map kept)) := by
  have tail : ∀ items : List α, (∀ item ∈ items, R (text item) (found item) (kept item)) →
      R (items.flatMap fun item => ['\n', '\n'] ++ text item) (items.flatMap found)
        (items.flatMap fun item => ['\n', '\n'] ++ kept item) := by
    intro items each
    induction items with
    | nil => exact nil
    | cons item items ih =>
      have here := append glue (each item List.mem_cons_self)
      exact append here (ih fun other member => each other (List.mem_cons_of_mem item member))
  cases items with
  | nil => exact nil
  | cons item items =>
    have later := tail items fun other member => each other (List.mem_cons_of_mem item member)
    unfold paragraphs
    rw [List.map_cons, List.map_cons, intercalate_cons, intercalate_cons, List.flatMap_map,
      List.flatMap_map]
    exact append (each item List.mem_cons_self) later

end PageClip.Stylesheet
