import PageClip.Proofs.Stylesheet.Occurrence
import PageClip.Stylesheet.Advanced

/-!
# Printed rules

Rules that were read from some text read back when they are printed, as long as
none of their declarations leaves a parenthesis open: `parseRules_printed`.
-/

namespace PageClip.Stylesheet

open PageClip.Text

/-! ### Open parentheses -/

theorem openAfter_of_balanced {text : Text} (balanced : Delimiter.paren.Balanced text)
    (depth : Nat) : openAfter depth text = depth := by
  induction balanced generalizing depth with
  | nil => rfl
  | @plain c rest notOpener notCloser _ ih =>
    have unchanged : nesting depth c = depth := (if_neg notOpener).trans (if_neg notCloser)
    rw [openAfter, List.foldl_cons, unchanged]
    exact ih depth
  | @nested inside rest _ _ insideIh restIh =>
    have opened : openAfter depth ('(' :: inside) = depth + 1 := insideIh (depth + 1)
    show openAfter depth ('(' :: inside ++ ')' :: rest) = depth
    rw [openAfter_append, opened]
    exact restIh depth

theorem enclosed_of_openAfter {depth start : Nat} {text : Text} (inside : depth < start)
    (closed : openAfter start text = 0) :
    ∃ body after, Delimiter.paren.enclosed depth text = some (body, after) := by
  induction text generalizing depth start with
  | nil =>
    have none : start = 0 := closed
    omega
  | cons c rest ih =>
    have later : openAfter (nesting start c) rest = 0 := closed
    by_cases closer : c = Delimiter.paren.closer
    · subst closer
      cases depth with
      | zero => exact ⟨[], rest, Delimiter.enclosed_closer_zero rest⟩
      | succ depth =>
        have fewer : nesting start ')' = start - 1 := rfl
        rw [show Delimiter.paren.closer = ')' from rfl, fewer] at later
        obtain ⟨body, after, found⟩ := ih (show depth < start - 1 by omega) later
        rw [Delimiter.enclosed_closer_succ, found]
        exact ⟨_, after, rfl⟩
    by_cases opener : c = Delimiter.paren.opener
    · subst opener
      have more : nesting start '(' = start + 1 := rfl
      rw [show Delimiter.paren.opener = '(' from rfl, more] at later
      obtain ⟨body, after, found⟩ := ih (show depth + 1 < start + 1 by omega) later
      rw [Delimiter.enclosed_opener (by decide), found]
      exact ⟨_, after, rfl⟩
    · have unchanged : nesting start c = start := (if_neg opener).trans (if_neg closer)
      rw [unchanged] at later
      obtain ⟨body, after, found⟩ := ih inside later
      rw [Delimiter.enclosed_plain opener closer, found]
      exact ⟨_, after, rfl⟩

theorem closes_iff {text : Text} : Delimiter.paren.Closes text ↔ openAfter 0 text = 0 := by
  constructor
  · intro closes
    induction length : text.length using Nat.strongRecOn generalizing text with
    | ind size ih =>
      cases text with
      | nil => rfl
      | cons c rest =>
        rw [List.length_cons] at length
        have part : rest <:+ c :: rest := List.suffix_cons c rest
        by_cases opener : c = '('
        · subst opener
          -- The opener and its closer cancel out, and the scan goes on behind them.
          obtain ⟨body, after, balanced, rfl⟩ := closes rest List.suffix_rfl
          have shorter : after.length < size := by
            rw [← length, List.length_append, List.length_cons]
            omega
          have behind : after <:+ '(' :: (body ++ ')' :: after) :=
            ⟨'(' :: body ++ [')'], by simp⟩
          have opened : openAfter 0 ('(' :: body) = 1 := openAfter_of_balanced balanced 1
          show openAfter 0 ('(' :: body ++ ')' :: after) = 0
          rw [openAfter_append, opened]
          exact ih after.length shorter (closes.of_suffix behind) rfl
        · have outside : nesting 0 c = 0 := by
            rw [nesting, if_neg opener]
            exact ite_self 0
          show openAfter (nesting 0 c) rest = 0
          rw [outside]
          exact ih rest.length (by omega) (closes.of_suffix part) rfl
  · rintro closed opened ⟨front, rfl⟩
    rw [openAfter_append] at closed
    obtain ⟨body, after, found⟩ := enclosed_of_openAfter (Nat.succ_pos _) closed
    exact ⟨body, after, Delimiter.balanced_of_enclosed found, Delimiter.enclosed_eq_some found⟩

instance (text : Text) : Decidable (Delimiter.paren.Closes text) :=
  decidable_of_iff (openAfter 0 text = 0) closes_iff.symm

/-! ### Rules that can be read -/

theorem subset_of_mem_splitDeclarations {declaration body : Text}
    (member : declaration ∈ splitDeclarations body) : declaration ⊆ body := by
  have whole {text : Text} (unparted : Unparted 0 text)
      (found : declaration ∈ splitDeclarations text) : declaration ⊆ text := by
    rw [splitDeclarations_unparted unparted] at found
    split at found
    · cases found
    · rw [List.mem_singleton.mp found]
      exact (trim_isInfix text).subset
  induction body using body_induction with
  | last text unparted => exact whole unparted member
  | parts front rest unparted closed ih =>
    rw [splitDeclarations_append closed] at member
    rcases List.mem_append.mp member with early | late
    · exact List.Subset.trans (whole unparted early) (List.subset_append_left front _)
    · have behind : rest ⊆ ';' :: rest := List.subset_cons_self ';' rest
      exact List.Subset.trans (ih late) (List.subset_append_of_subset_right front behind)

theorem Occurs.free {selector body text : Text} (occurs : Occurs selector body text) :
    Delimiter.brace.Free selector ∧ Delimiter.brace.Free body := by
  induction occurs with
  | here _ free freeBody => exact ⟨free, freeBody⟩
  | later _ _ ih => exact ih

namespace Rule

/-- A rule as it can be read from a text. -/
structure Readable (rule : Rule) : Prop where
  solid : rule.selector ≠ []
  trimmed : trim rule.selector = rule.selector
  free : Delimiter.brace.Free rule.selector
  body : ∃ body, Delimiter.brace.Free body ∧ splitDeclarations body = rule.declarations

/-- A rule in whose declarations every opening parenthesis has its closing one. -/
def Closed (rule : Rule) : Prop :=
  ∀ declaration ∈ rule.declarations, Delimiter.paren.Closes declaration

instance (rule : Rule) : Decidable rule.Closed := List.decidableBAll _ rule.declarations

def reread (rule : Rule) : Rule := { rule with declarations := rule.declarations.map reprinted }

variable {rule : Rule}

theorem Readable.list (readable : rule.Readable) : Declarations rule.declarations := by
  obtain ⟨body, -, split⟩ := readable.body
  rw [← split]
  exact declarations_splitDeclarations body

theorem Readable.framed (readable : rule.Readable) : rule.Framed := by
  refine ⟨readable.solid, readable.trimmed, readable.free, ?_⟩
  obtain ⟨body, free, split⟩ := readable.body
  intro declaration member
  rw [← split] at member
  exact free.of_subset (subset_of_mem_splitDeclarations member)

theorem readable_iff : rule.Readable ↔ ∃ css, rule ∈ parseRules css := by
  constructor
  · intro readable
    obtain ⟨body, free, split⟩ := readable.body
    have scanned := mem_scanRules_iff.mpr (@Occurs.here _ _ [] readable.solid readable.free free)
    have solid : ¬ rule.selector.isEmpty := by simpa using readable.solid
    have made : ruleOf? rule.selector body = some rule := by
      rw [ruleOf?, readable.trimmed, if_neg solid, split]
    exact ⟨_, List.mem_filterMap.mpr ⟨(rule.selector, body), scanned, made⟩⟩
  · rintro ⟨css, member⟩
    obtain ⟨⟨selector, body⟩, scanned, made⟩ := List.mem_filterMap.mp member
    obtain ⟨free, freeBody⟩ := (mem_scanRules_iff.mp scanned).free
    simp only [ruleOf?, Option.ite_none_left_eq_some, Option.some.injEq] at made
    obtain ⟨solid, rfl⟩ := made
    exact ⟨by simpa using solid, trim_trim selector,
      free.of_subset (trim_isInfix selector).subset, body, freeBody, rfl⟩

theorem reread_eq_iff : rule.reread = rule ↔ rule.Closed := by
  have declarations : rule.reread = rule ↔
      rule.declarations.map reprinted = rule.declarations :=
    ⟨congrArg Rule.declarations, congrArg (Rule.mk rule.selector)⟩
  simp only [declarations, map_reprinted_eq_iff, Closed, closes_iff]

theorem map_reread_eq_iff {rules : List Rule} :
    rules.map reread = rules ↔ ∀ rule ∈ rules, rule.Closed := by
  have same := @List.map_eq_map_iff _ _ reread rules id
  simpa only [List.map_id, id_eq, reread_eq_iff] using same

theorem Readable.reads (readable : rule.Readable) : RuleReads rule.format [rule.reread] := by
  have reads := RuleReads.framed readable.framed
  rwa [splitDeclarations_inside readable.list] at reads

end Rule

/-! ### Printed rules among other text -/

theorem reads_formats {rules : List Rule} (readable : ∀ rule ∈ rules, rule.Readable) :
    RuleReads (paragraphs (rules.map Rule.format)) (rules.map Rule.reread) := by
  have reads := @paragraphs_reads Rule Rule (fun text found _ => RuleReads text found)
    (RuleReads.blank (by decide)) RuleReads.append (RuleReads.blank (by decide)) Rule.format
    (fun rule => [rule.reread]) Rule.format rules (fun rule member => (readable rule member).reads)
  rwa [← List.map_eq_flatMap] at reads

theorem paragraphs_append (front back : List Text) :
    ∃ rest, paragraphs (front ++ back) = paragraphs front ++ rest := by
  cases front with
  | nil => exact ⟨paragraphs back, rfl⟩
  | cons part front =>
    unfold paragraphs
    rw [List.cons_append, intercalate_cons, intercalate_cons, List.flatMap_append]
    exact ⟨_, (List.append_assoc ..).symm⟩

/-- Rules can be read from some text exactly if their selectors are trimmed and their declarations
are those of a body without braces. Such rules read back when they are printed exactly if they close
their parentheses. What is handed through starts with the printed rules that have pseudo-selectors,
so that these are read from it first. -/
theorem parseRules_printed :
    (∀ rule : Rule, rule.Readable ↔ ∃ css, rule ∈ parseRules css) ∧
      (∀ rule : Rule, rule.reread = rule ↔ rule.Closed) ∧
      ∀ rules : List Rule, (∀ rule ∈ rules, rule.Readable) →
        (parseRules (paragraphs (rules.map Rule.format)) = rules ↔ ∀ rule ∈ rules, rule.Closed) ∧
          ∀ (atRules : List AtRule) (values : Variables),
            let pseudo := rules.filter Rule.isPseudo
            ∃ rest,
              advanced ⟨rules, atRules, values⟩ = paragraphs (pseudo.map Rule.format) ++ rest ∧
                parseRules (paragraphs (pseudo.map Rule.format)) = pseudo.map Rule.reread ∧
                parseRules (advanced ⟨rules, atRules, values⟩) =
                  pseudo.map Rule.reread ++ parseRules rest := by
  refine ⟨fun rule => Rule.readable_iff, fun rule => Rule.reread_eq_iff, ?_⟩
  intro rules readable
  constructor
  · rw [(reads_formats readable).parse]
    exact Rule.map_reread_eq_iff
  · intro atRules values pseudo
    have reads := reads_formats fun rule member =>
      readable rule (List.mem_of_mem_filter (show rule ∈ pseudo from member))
    obtain ⟨rest, starts⟩ := paragraphs_append (pseudo.map Rule.format)
      ((atRules.filter fun rule => advancedNames.contains rule.name).map (·.text))
    have handed : advanced ⟨rules, atRules, values⟩ =
        paragraphs (pseudo.map Rule.format) ++ rest := starts
    refine ⟨rest, handed, reads.parse, ?_⟩
    rw [handed, reads.parse_append]

def pseudoSheet : Text :=
  ".a:hover\x7bbackground:url(a;b);color:red\x7d a[href] > b::before \x7b \x7d.c:focus\x7btop: (0\x7d".toList

def hoverRule : Rule :=
  ⟨".a:hover".toList, ["background:url(a;b)".toList, "color:red".toList]⟩

def beforeRule : Rule := ⟨"a[href] > b::before".toList, []⟩

/-- A parenthesis is never closed in its declaration. -/
def focusRule : Rule := ⟨".c:focus".toList, ["top: (0".toList]⟩

theorem parseRules_printed_pseudoSheet :
    parseRules pseudoSheet = [hoverRule, beforeRule, focusRule] ∧
      (∀ rule ∈ [hoverRule, beforeRule], rule.Readable ∧ rule.Closed) ∧
      parseRules (paragraphs ([hoverRule, beforeRule].map Rule.format)) = [hoverRule, beforeRule] ∧
      parseRules (paragraphs ((parseRules pseudoSheet).map Rule.format)) ≠ parseRules pseudoSheet ∧
      ∃ rest, parseRules (advanced (parse pseudoSheet)) =
        [hoverRule, beforeRule, ⟨".c:focus".toList, ["top: (0;".toList]⟩] ++ parseRules rest := by
  obtain ⟨readable_iff, -, printed⟩ := parseRules_printed
  have split : parseRules pseudoSheet = [hoverRule, beforeRule, focusRule] := by decide +kernel
  have readable : ∀ rule ∈ parseRules pseudoSheet, rule.Readable := fun rule member =>
    (readable_iff rule).mpr ⟨pseudoSheet, member⟩
  have closed : ∀ rule ∈ [hoverRule, beforeRule], rule.Closed := by decide
  have opened : ¬ focusRule.Closed := by decide
  have part : ∀ rule ∈ [hoverRule, beforeRule], rule.Readable := by
    intro rule member
    apply readable
    rw [split]
    exact List.mem_append_left [focusRule] member
  have sheet : (parse pseudoSheet).rules = parseRules pseudoSheet := by decide +kernel
  obtain ⟨whole, handed⟩ := printed _ readable
  refine ⟨split, fun rule member => ⟨part rule member, closed rule member⟩,
    (printed _ part).1.mpr closed, ?_, ?_⟩
  · intro same
    refine opened (whole.mp same focusRule ?_)
    rw [split]
    decide
  · obtain ⟨rest, -, -, found⟩ := handed (parse pseudoSheet).atRules (parse pseudoSheet).values
    rw [← sheet] at found
    have carried : ([hoverRule, beforeRule, focusRule].filter Rule.isPseudo).map Rule.reread =
        [hoverRule, beforeRule, ⟨".c:focus".toList, ["top: (0;".toList]⟩] := by
      decide +kernel
    refine ⟨rest, found.trans ?_⟩
    rw [sheet, split, carried]

end PageClip.Stylesheet
