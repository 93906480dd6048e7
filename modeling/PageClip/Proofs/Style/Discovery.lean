import PageClip.Proofs.Style.Media
import PageClip.Proofs.Stylesheet.Advanced
import PageClip.Proofs.Stylesheet.Occurrence

/-!
# Finding the classes of a stylesheet

`classNames` reads the text of a stylesheet as it is, the style compilers what
is left when root blocks and at-rules are cut out. In an orderly stylesheet both
see the same rules, so every class that can be styled is found.
-/

namespace PageClip.Stylesheet

open PageClip.Text

/-! ### Classes in selectors -/

/-- An ASCII letter and then characters of words and hyphens. -/
def IsClassName (name : Text) : Prop :=
  ∃ c rest, name = c :: rest ∧ c.isAlpha ∧ ∀ d ∈ rest, isNamePart d

theorem isNamePart_of_isAlpha {c : Char} (letter : c.isAlpha) : isNamePart c := by
  have word : isWord c = true := isWord_of_isAlphanum (by simp [Char.isAlphanum, letter])
  simp [isNamePart, word]

theorem selectorClasses_cons {c : Char} (other : c ≠ '.') (rest : Text) :
    selectorClasses (c :: rest) = selectorClasses rest := by
  rw [selectorClasses]
  exact other

theorem mem_selectorClasses {name : Text} (isName : IsClassName name) {gap back : Text}
    (blank : AllBlank gap) (ends : ∀ c ∈ back.head?, isNamePart c = false) :
    name ∈ selectorClasses (gap ++ '.' :: (name ++ back)) := by
  induction gap with
  | nil =>
    obtain ⟨c, rest, rfl, letter, parts⟩ := isName
    have whole : ((c :: rest) ++ back).takeWhile isNamePart = c :: rest := by
      rw [List.takeWhile_append_of_pos]
      · cases back with
        | nil => simp
        | cons d back => rw [List.takeWhile_cons_of_neg (by simp [ends d rfl]), List.append_nil]
      · exact List.forall_mem_cons.mpr ⟨isNamePart_of_isAlpha letter, parts⟩
    rw [List.nil_append, List.cons_append, selectorClasses]
    simp only [letter, if_true]
    rw [← List.cons_append, whole]
    exact List.mem_cons_self
  | cons c gap ih =>
    obtain ⟨blankHere, blankRest⟩ := List.forall_mem_cons.mp blank
    have other : c ≠ '.' := by
      rintro rfl
      exact absurd blankHere (by decide)
    rw [List.cons_append, selectorClasses_cons other]
    exact ih blankRest

theorem exists_of_targets {name : Text} {rule : Rule} (targets : rule.targets name) :
    ∃ more, rule.selector = '.' :: (name ++ more) ∧ ∀ c ∈ more.head?, isNamePart c = false := by
  rw [Rule.targets, Bool.or_eq_true, List.any_eq_true] at targets
  rcases targets with whole | ⟨boundary, listed, starts⟩
  · exact ⟨[], by simpa using whole, by simp⟩
  · obtain ⟨more, eq⟩ := List.isPrefixOf_iff_prefix.mp starts
    have stops : [' ', ':', '.'].all (fun c => !isNamePart c) := by decide
    refine ⟨boundary :: more, by rw [← eq]; simp, ?_⟩
    intro c first
    obtain rfl : boundary = c := by simpa using first
    simpa using List.all_eq_true.mp stops boundary listed

/-- Somewhere in a text a flat rule stands that has this selector behind its last semicolon. -/
def Shown (text selector : Text) : Prop :=
  ∃ raw body, Occurs raw body text ∧ trim (afterLast ';' raw) = selector

theorem mem_classNames_of_shown {css name : Text} {rule : Rule} (isName : IsClassName name)
    (targets : rule.targets name) (shown : Shown (stripComments css) rule.selector) :
    name ∈ classNames css := by
  obtain ⟨raw, body, occurs, trimmed⟩ := shown
  obtain ⟨more, eq, ends⟩ := exists_of_targets targets
  obtain ⟨front, back, blankFront, blankBack, own⟩ := exists_trim_append (afterLast ';' raw)
  rw [trimmed, eq, List.append_assoc, List.cons_append, List.append_assoc] at own
  have starts : (trimLeft (afterLast ';' raw)).head? = some '.' := by
    rw [own, trimLeft, List.dropWhile_append_of_pos blankFront,
      List.dropWhile_cons_of_neg (by decide)]
    rfl
  have kept : ownSelector raw = front ++ '.' :: (name ++ (more ++ back)) := by
    rw [ownSelector, starts, ← own]
    rfl
  rw [classNames, List.mem_eraseDups, List.mem_flatMap]
  refine ⟨(raw, body), mem_scanRules_iff.mpr occurs, ?_⟩
  show name ∈ selectorClasses (ownSelector raw)
  rw [kept]
  apply mem_selectorClasses isName blankFront
  intro c first
  cases more with
  | nil => exact isNamePart_of_isBlank (blankBack c (List.mem_of_mem_head? first))
  | cons d more => exact ends c first

namespace Shown

variable {text selector : Text}

theorem append_right (shown : Shown text selector) (more : Text) : Shown (text ++ more) selector := by
  obtain ⟨raw, body, occurs, trimmed⟩ := shown
  exact ⟨raw, body, occurs.append_right more, trimmed⟩

theorem later {c : Char} (brace : c = '\x7b' ∨ c = '\x7d') (shown : Shown text selector)
    (front : Text) : Shown (front ++ c :: text) selector := by
  obtain ⟨raw, body, occurs, trimmed⟩ := shown
  exact ⟨raw, body, .later brace occurs, trimmed⟩

theorem inside (shown : Shown text selector) (front back : Text) :
    Shown (front ++ '\x7b' :: text ++ '\x7d' :: back) selector :=
  (shown.later (.inl rfl) front).append_right _

/-- What ends in a semicolon, blanks aside, hides nothing behind it. -/
theorem prepend (shown : Shown text selector) {front : Text} (free : Delimiter.brace.Free front)
    (ended : AllBlank (afterLast ';' front)) : Shown (front ++ text) selector := by
  obtain ⟨raw, body, occurs, trimmed⟩ := shown
  rcases occurs.prepend free with alone | merged
  · exact ⟨raw, body, alone, trimmed⟩
  · refine ⟨front ++ raw, body, merged, ?_⟩
    by_cases member : ';' ∈ raw
    · -- What is found at the last semicolon of the selector is not moved.
      rw [afterLast_append_of_mem member, trimmed]
    · rw [afterLast_append member, trim_blank_append ended, ← trimmed, afterLast_of_not_mem member]

theorem of_parseRules {rule : Rule} (member : rule ∈ parseRules text)
    (unended : ';' ∉ rule.selector) : Shown text rule.selector := by
  obtain ⟨⟨selector, body⟩, scanned, read⟩ := List.mem_filterMap.mp member
  have own : rule.selector = trim selector := by
    simp only [ruleOf?, Option.ite_none_left_eq_some, Option.some.injEq] at read
    rw [← read.2]
  have absent : ';' ∉ selector := by
    obtain ⟨before, after, blankBefore, blankAfter, eq⟩ := exists_trim_append selector
    have solid : isBlank ';' = false := by decide
    rw [eq, ← own]
    simp [unended, blankBefore.not_mem solid, blankAfter.not_mem solid]
  refine ⟨selector, body, mem_scanRules_iff.mp scanned, ?_⟩
  rw [afterLast_of_not_mem absent, own]

end Shown

/-! ### Orderly stylesheets -/

/-- What is left of a text when root blocks and at-rules are cut out, and the at-rules. -/
def cut (text : Text) : AtSplit := splitAtRules (splitRoot text).remainder

/-- A stylesheet in which root blocks and at-rules stand between rules, inside media blocks too. -/
inductive Orderly : Text → Prop
  | uncut {text : Text} : cut text = ⟨text, [], none⟩ → Orderly text
  | unclosed {header tail : Text} :
    (∀ c ∈ header, inHeader c) → Delimiter.brace.enclosed 0 tail = none →
      Rootless ('@' :: header ++ '\x7b' :: tail) → Orderly ('@' :: header ++ '\x7b' :: tail)
  | blank {c : Char} {rest : Text} : isBlank c → Orderly rest → Orderly (c :: rest)
  | closer {rest : Text} : Orderly rest → Orderly ('\x7d' :: rest)
  | rule {selector body rest : Text} :
    Delimiter.brace.Free selector → '@' ∉ selector → Delimiter.brace.Balanced body →
      Rootless (selector ++ '\x7b' :: body ++ ['\x7d']) → Orderly rest →
        Orderly (selector ++ '\x7b' :: body ++ '\x7d' :: rest)
  | root {gap body rest : Text} :
    AllBlank gap → Delimiter.brace.Balanced body → Orderly rest → Orderly (rootBlock gap body ++ rest)
  | statement {header rest : Text} :
    Delimiter.brace.Free header → ';' ∉ header → Orderly rest → Orderly ('@' :: header ++ ';' :: rest)
  | block {header body rest : Text} :
    (∀ c ∈ header, inHeader c) → ¬ rootMark <:+ (AtRule.make header body).prelude →
      Delimiter.brace.Balanced body →
        ((AtRule.make header body).name = "media".toList → Orderly body) → Orderly rest →
          Orderly ('@' :: header ++ '\x7b' :: body ++ '\x7d' :: rest)

theorem cut_append {front unrooted kept : Text} {atRules : List AtRule}
    (root : ∀ rest, (splitRoot (front ++ rest)).remainder = unrooted ++ (splitRoot rest).remainder)
    (reads : AtReads unrooted atRules kept) (rest : Text) :
    (cut (front ++ rest)).plain = kept ++ (cut rest).plain ∧
      (cut (front ++ rest)).atRules = atRules ++ (cut rest).atRules := by
  unfold cut
  rw [root]
  exact reads.split_append (splitRoot rest).remainder

/-- The flat rules that are left of a text, and those in its media blocks, all show in the text. -/
structure Discovered (text : Text) : Prop where
  rules : ∀ rule ∈ parseRules (cut text).plain, ';' ∉ rule.selector → Shown text rule.selector
  media : ∀ atRule ∈ (cut text).atRules, atRule.name = "media".toList →
    ∀ rule ∈ parseRules (splitAtRules atRule.body).plain, ';' ∉ rule.selector →
      Shown text rule.selector

namespace Discovered

theorem of_later {text rest : Text} (later : Discovered rest)
    (rules : parseRules (cut text).plain = parseRules (cut rest).plain)
    (atRules : (cut text).atRules = (cut rest).atRules)
    (shown : ∀ selector, Shown rest selector → Shown text selector) : Discovered text := by
  constructor
  · intro rule member unended
    rw [rules] at member
    exact shown rule.selector (later.rules rule member unended)
  · intro atRule member named rule listed unended
    rw [atRules] at member
    exact shown rule.selector (later.media atRule member named rule listed unended)

theorem uncut {text : Text} (whole : cut text = ⟨text, [], none⟩) : Discovered text := by
  constructor
  · intro rule member unended
    rw [whole] at member
    exact .of_parseRules member unended
  · intro atRule member
    rw [whole] at member
    cases member

theorem unclosed {header tail : Text} (inside : ∀ c ∈ header, inHeader c)
    (unclosed : Delimiter.brace.enclosed 0 tail = none)
    (rootless : Rootless ('@' :: header ++ '\x7b' :: tail)) :
    Discovered ('@' :: header ++ '\x7b' :: tail) := by
  have nothing : cut ('@' :: header ++ '\x7b' :: tail) = ⟨[], [], some 0⟩ := by
    rw [cut, rootless.rootsClosed.remainder_eq_iff.mpr rootless]
    exact splitAtFrom_unclosed inside unclosed 0
  constructor
  · intro rule member
    rw [nothing] at member
    cases member
  · intro atRule member
    rw [nothing] at member
    cases member

theorem blank {c : Char} {rest : Text} (blank : isBlank c) (later : Discovered rest) :
    Discovered (c :: rest) := by
  have gap : AllBlank [c] := by simpa [AllBlank] using blank
  have free := free_of_blank gap
  obtain ⟨plain, atRules⟩ := cut_append
    (rootKeeps_of_no_colon (gap.not_mem (by decide))).remainder
    (AtReads.plain free (gap.not_mem (by decide))) rest
  apply later.of_later
  · rw [← List.singleton_append, plain, parseRules_blank_append gap]
  · exact atRules
  · intro selector shown
    apply shown.prepend free
    rwa [afterLast_of_not_mem (gap.not_mem (by decide))]

theorem closer {rest : Text} (later : Discovered rest) : Discovered ('\x7d' :: rest) := by
  have reads : AtReads ['\x7d'] [] ['\x7d'] := by
    intro offset rest
    rw [List.singleton_append, splitAtFrom_closer]
    rfl
  obtain ⟨plain, atRules⟩ := cut_append (rootKeeps_of_no_colon (by decide)).remainder reads rest
  apply later.of_later
  · rw [← List.singleton_append, plain]
    exact parseRules_append_of_closer (.inr ⟨[], rfl⟩) (cut rest).plain
  · exact atRules
  · intro selector shown
    exact shown.later (.inr rfl) []

theorem rule {selector body rest : Text} (free : Delimiter.brace.Free selector)
    (unmarked : '@' ∉ selector) (balanced : Delimiter.brace.Balanced body)
    (rootless : Rootless (selector ++ '\x7b' :: body ++ ['\x7d'])) (later : Discovered rest) :
    Discovered (selector ++ '\x7b' :: body ++ '\x7d' :: rest) := by
  have reads := (AtReads.plain free unmarked).append (AtReads.braces balanced)
  rw [List.nil_append, List.cons_append, ← List.cons_append, ← List.append_assoc] at reads
  obtain ⟨plain, atRules⟩ := cut_append rootless.rootKeeps.remainder reads rest
  have whole : selector ++ '\x7b' :: body ++ '\x7d' :: rest =
      selector ++ '\x7b' :: body ++ ['\x7d'] ++ rest := by simp
  have behind (other : Text) (shown : Shown rest other) :
      Shown (selector ++ '\x7b' :: body ++ '\x7d' :: rest) other := shown.later (.inr rfl) _
  constructor
  · intro rule member unended
    rw [whole, plain, parseRules_append_of_closer (.inr ⟨_, rfl⟩), List.mem_append] at member
    rcases member with here | there
    · rw [whole]
      exact (Shown.of_parseRules here unended).append_right rest
    · exact behind _ (later.rules rule there unended)
  · intro atRule member named rule listed unended
    rw [whole, atRules] at member
    exact behind _ (later.media atRule member named rule listed unended)

theorem root {gap body rest : Text} (blank : AllBlank gap)
    (balanced : Delimiter.brace.Balanced body) (later : Discovered rest) :
    Discovered (rootBlock gap body ++ rest) := by
  have gone : cut (rootBlock gap body ++ rest) = cut rest := by
    rw [cut, (splitRoot_rootBlock blank balanced rest).2, cut]
  apply later.of_later
  · rw [gone]
  · rw [gone]
  · intro selector shown
    rw [rootBlock, List.append_assoc]
    exact shown.later (.inr rfl) _

theorem statement {header rest : Text} (free : Delimiter.brace.Free header) (unended : ';' ∉ header)
    (later : Discovered rest) : Discovered ('@' :: header ++ ';' :: rest) := by
  have inside : ∀ c ∈ header, inHeader c := by
    intro c member
    have notOpener : c ≠ '\x7b' := by
      rintro rfl
      exact free.1 member
    have notEnd : c ≠ ';' := by
      rintro rfl
      exact unended member
    simp [inHeader, notOpener, notEnd]
  obtain ⟨plain, atRules⟩ :=
    cut_append (rootKeeps_statement inside).remainder (AtReads.statement inside) rest
  have whole : '@' :: header ++ ';' :: rest = '@' :: header ++ [';'] ++ rest := by simp
  rw [whole]
  apply later.of_later
  · rw [plain, List.nil_append]
  · rw [atRules, List.nil_append]
  · intro selector shown
    have freeFront : Delimiter.brace.Free ('@' :: header ++ [';']) :=
      (show Delimiter.brace.Free ['@'] by decide).append (free.append (by decide))
    apply shown.prepend freeFront
    rw [afterLast_append_of_mem (List.mem_singleton.mpr rfl)]
    decide

theorem block {header body rest : Text} (inside : ∀ c ∈ header, inHeader c)
    (unrooted : ¬ rootMark <:+ (AtRule.make header body).prelude)
    (balanced : Delimiter.brace.Balanced body)
    (inner : (AtRule.make header body).name = "media".toList → Discovered body)
    (later : Discovered rest) :
    Discovered ('@' :: header ++ '\x7b' :: body ++ '\x7d' :: rest) := by
  have parts := (AtReads.block inside (balanced_remainder balanced)).split_append
    (splitRoot rest).remainder
  have behind (other : Text) (shown : Shown rest other) :
      Shown ('@' :: header ++ '\x7b' :: body ++ '\x7d' :: rest) other := shown.later (.inr rfl) _
  rw [List.append_assoc, List.singleton_append, ← remainder_block inside unrooted balanced rest]
    at parts
  obtain ⟨plain, atRules⟩ := parts
  constructor
  · intro rule member unended
    rw [cut, plain, List.nil_append] at member
    exact behind _ (later.rules rule member unended)
  · intro atRule member named rule listed unended
    rw [cut, atRules, List.singleton_append, List.mem_cons] at member
    rcases member with rfl | there
    · exact ((inner named).rules rule listed unended).inside _ rest
    · exact behind _ (later.media atRule there named rule listed unended)

end Discovered

theorem Orderly.discovered {text : Text} (orderly : Orderly text) : Discovered text := by
  induction orderly with
  | uncut whole => exact .uncut whole
  | unclosed inside unclosed rootless => exact .unclosed inside unclosed rootless
  | blank blank _ ih => exact .blank blank ih
  | closer _ ih => exact .closer ih
  | rule free unmarked balanced rootless _ ih => exact .rule free unmarked balanced rootless ih
  | root blank balanced _ ih => exact .root blank balanced ih
  | statement free unended _ ih => exact .statement free unended ih
  | block inside unrooted balanced _ _ ihInner ih =>
    exact .block inside unrooted balanced ihInner ih

/-! ### Rules that style a class -/

theorem mem_at_mediaRules {atRules : List AtRule} {ids : IdSource} {ledger after : Ledger}
    {tiers : TierRules} (h : (mediaRules atRules).run ids ledger = (.ok tiers, after))
    {tier : Breakpoint} {rule : Rule} (member : rule ∈ TierRules.at tier tiers) :
    ∃ atRule ∈ atRules, atRule.name = "media".toList ∧
      rule ∈ parseRules (splitAtRules atRule.body).plain := by
  obtain ⟨events, ran⟩ := mediaRules_run atRules ids ledger
  obtain ⟨read, -⟩ := Prod.mk.inj (ran.symm.trans h)
  obtain ⟨entry, chosen, inside⟩ := List.mem_flatMap.mp member
  obtain ⟨atRule, listed, named, rules⟩ := mem_tierRules read (List.mem_filter.mp chosen).1
  exact ⟨atRule, listed, named, rules ▸ inside⟩

/-- A class has a style, outside media blocks or for a breakpoint. -/
inductive Styled (css name : Text) : Rule → Prop
  | base {rule : Rule} : (parse css).findRule? name = some rule → Styled css name rule
  | media {rule : Rule} {ids : IdSource} {ledger after : Ledger} {tiers : TierRules}
    {tier : Breakpoint} :
    (mediaRules (parse css).atRules).run ids ledger = (.ok tiers, after) →
      findRuleIn? name (TierRules.at tier tiers) = some rule → Styled css name rule

/-- In an orderly stylesheet every class that a rule styles is discovered, within media blocks too,
unless the selector of the rule has a semicolon. -/
theorem mem_classNames {css name : Text} {rule : Rule} (orderly : Orderly (stripComments css))
    (isName : IsClassName name) (styled : Styled css name rule) (unended : ';' ∉ rule.selector) :
    name ∈ classNames css := by
  have discovered := orderly.discovered
  cases styled with
  | base found =>
    apply mem_classNames_of_shown isName (List.find?_some found)
    exact discovered.rules rule (List.mem_of_find?_eq_some found) unended
  | media ran found =>
    obtain ⟨atRule, listed, named, member⟩ :=
      mem_at_mediaRules ran (List.mem_of_find?_eq_some found)
    apply mem_classNames_of_shown isName (List.find?_some found)
    exact discovered.media atRule listed named rule member unended

def orderlySheet : Text :=
  ":root\x7b--c:red\x7d\n@import url(x);\n.a:hover\x7btop:0\x7d@media (max-width:479px)\x7b.n\x7btop:1px\x7d\x7d".toList

theorem orderly_orderlySheet : Orderly (stripComments orderlySheet) := by
  have clean : stripComments orderlySheet = orderlySheet := by decide +kernel
  have parts : orderlySheet =
      rootBlock [] "--c:red".toList ++ '\n' ::
        ('@' :: "import url(x)".toList ++ ';' :: '\n' ::
          (".a:hover".toList ++ '\x7b' :: "top:0".toList ++ '\x7d' ::
            ('@' :: "media (max-width:479px)".toList ++
              '\x7b' :: ".n\x7btop:1px\x7d".toList ++ '\x7d' :: []))) := by
    decide +kernel
  rw [clean, parts]
  apply Orderly.root (by decide) (by decide)
  apply Orderly.blank (by decide)
  apply Orderly.statement (by decide) (by decide)
  apply Orderly.blank (by decide)
  apply Orderly.rule (by decide) (by decide) (by decide) (by decide)
  apply Orderly.block (List.all_eq_true.mp (by decide)) (by decide +kernel) (by decide)
  · intro _
    exact .uncut (by decide +kernel)
  · exact .uncut (by decide +kernel)

/-- What is styled outside media blocks and what only inside one is found alike. -/
theorem mem_classNames_orderlySheet :
    IsClassName ['a'] ∧ Styled orderlySheet ['a'] ⟨".a:hover".toList, ["top:0".toList]⟩ ∧
      IsClassName ['n'] ∧ Styled orderlySheet ['n'] ⟨".n".toList, ["top:1px".toList]⟩ ∧
      ['a'] ∈ classNames orderlySheet ∧ ['n'] ∈ classNames orderlySheet := by
  have isNameA : IsClassName ['a'] := ⟨'a', [], rfl, by decide, by simp⟩
  have isNameN : IsClassName ['n'] := ⟨'n', [], rfl, by decide, by simp⟩
  have sheet : parse orderlySheet =
      { rules := [⟨".a:hover".toList, ["top:0".toList]⟩]
        atRules := [AtRule.make "media (max-width:479px)".toList ".n\x7btop:1px\x7d".toList]
        values := [("--c".toList, "red".toList)] } := by
    decide +kernel
  have styledA : Styled orderlySheet ['a'] ⟨".a:hover".toList, ["top:0".toList]⟩ :=
    .base (by rw [sheet]; decide)
  have media : (mediaRules (parse orderlySheet).atRules).run .tally .fresh =
      (.ok [(.tiny, [⟨".n".toList, ["top:1px".toList]⟩])], .fresh) := by
    rw [sheet]
    decide +kernel
  have styledN : Styled orderlySheet ['n'] ⟨".n".toList, ["top:1px".toList]⟩ :=
    .media media (show findRuleIn? ['n'] (TierRules.at .tiny _) = _ by decide)
  exact ⟨isNameA, styledA, isNameN, styledN,
    mem_classNames orderly_orderlySheet isNameA styledA (by decide),
    mem_classNames orderly_orderlySheet isNameN styledN (by decide)⟩

def quotedSheet : Text := ".a [title=\";\"] \x7b color: red; \x7d".toList

theorem mem_classNames_quotedSheet :
    (parse quotedSheet).findRule? ['a'] = some ⟨".a [title=\";\"]".toList, ["color: red".toList]⟩ ∧
      classNames quotedSheet = [] := by
  decide +kernel

end PageClip.Stylesheet
