import PageClip.Proofs.Stylesheet.AtRule
import PageClip.Proofs.Stylesheet.Comment
import PageClip.Proofs.Stylesheet.RootBlock
import PageClip.Proofs.Stylesheet.Rule
import PageClip.Stylesheet.Sheet

/-!
# One stylesheet behind another

Every pass of `parse` takes a complete stylesheet apart whatever stands behind
it, but what stood in front of a root block or an at-rule stays when the block
is gone. `rules_append_iff` says when it reaches into the rules that follow.
-/

namespace PageClip.Stylesheet

open PageClip.Text

/-- A stylesheet with nothing left open that ends in a closing brace. -/
structure Complete (css : Text) : Prop where
  closed : CommentsClosed css
  balanced : Delimiter.brace.Balanced (stripComments css)
  last : (trimRight (stripComments css)).getLast? = some '\x7d'

/-- What is left of a stylesheet without its comments, root blocks and at-rules. -/
def residue (css : Text) : Text := (splitAtRules (splitRoot (stripComments css)).remainder).plain

theorem parse_rules (css : Text) : (parse css).rules = parseRules (residue css) := rfl

/-- Only blanks stand behind the last closing brace of what is left. -/
def Settled (css : Text) : Prop := AllBlank (afterLast '\x7d' (residue css))

instance (css : Text) : Decidable (Settled css) := inferInstanceAs (Decidable (AllBlank _))

namespace Complete

variable {css : Text}

theorem stripComments_append (complete : Complete css) (next : Text) :
    stripComments (css ++ next) = stripComments css ++ stripComments next := by
  refine stripComments_append_of_closed complete.closed fun both => ?_
  obtain ⟨front, ends⟩ := List.getLast?_eq_some_iff.mp both.1
  have last := complete.last
  rw [ends, trimRight_concat (by decide)] at last
  simp at last

theorem rootsClosed (complete : Complete css) : RootsClosed (stripComments css) :=
  rootsClosed_of_closes (complete.balanced.closes (by decide))

theorem splitRoot_append (complete : Complete css) (back : Text) :
    (splitRoot (stripComments css ++ back)).definitions =
        (splitRoot (stripComments css)).definitions ++ (splitRoot back).definitions ∧
      (splitRoot (stripComments css ++ back)).remainder =
        (splitRoot (stripComments css)).remainder ++ (splitRoot back).remainder :=
  Stylesheet.splitRoot_append complete.rootsClosed (rootApart_of_last complete.last back)

/-- What at-rules a complete stylesheet has and what is kept besides, and an at-rule at its end of
which only the header has been read: that is all a following text has to do with. -/
theorem exists_split (complete : Complete css) :
    ∃ kept tail, residue css = kept ++ tail ∧ Delimiter.brace.Balanced kept ∧ OpenHeader tail ∧
      ∀ back, let split := splitAtRules (tail ++ (splitRoot back).remainder)
        (splitAtRules (splitRoot (stripComments css ++ back)).remainder).plain =
            kept ++ split.plain ∧
          (splitAtRules (splitRoot (stripComments css ++ back)).remainder).atRules =
            (parse css).atRules ++ split.atRules := by
  obtain ⟨front, tail, atRules, kept, eq, reads, balanced, header⟩ :=
    exists_atReads (balanced_remainder complete.balanced)
  obtain ⟨plain, own⟩ := reads.split_append tail
  rw [← eq, header.split] at plain own
  refine ⟨kept, tail, plain, balanced, header, fun back => ?_⟩
  rw [(complete.splitRoot_append back).2, eq, List.append_assoc, parse, own, List.append_nil]
  exact reads.split_append _

theorem exists_residue (complete : Complete css) :
    ∃ kept tail, residue css = kept ++ tail ∧ Delimiter.brace.Balanced kept ∧ OpenHeader tail ∧
      ∀ back, (splitAtRules (splitRoot (stripComments css ++ back)).remainder).plain =
        kept ++ (splitAtRules (tail ++ (splitRoot back).remainder)).plain := by
  obtain ⟨kept, tail, left, balanced, header, later⟩ := complete.exists_split
  exact ⟨kept, tail, left, balanced, header, fun back => (later back).1⟩

theorem atRules_prefix (complete : Complete css) (next : Text) :
    (parse css).atRules <+: (parse (css ++ next)).atRules := by
  obtain ⟨kept, tail, -, -, -, later⟩ := complete.exists_split
  obtain ⟨-, found⟩ := later (stripComments next)
  rw [← complete.stripComments_append] at found
  exact ⟨_, found.symm⟩

/-- No rule of a complete stylesheet is changed or overtaken by what stands behind it. -/
theorem rules_prefix (complete : Complete css) (next : Text) :
    (parse css).rules <+: (parse (css ++ next)).rules := by
  obtain ⟨kept, tail, left, balanced, header, later⟩ := complete.exists_split
  obtain ⟨free, behind⟩ := parseRules_balanced_append balanced
  have own : (parse css).rules = parseRules kept := by
    rw [parse_rules, left, behind, parseRules_of_free (free.append header.free), List.append_nil]
  obtain ⟨plain, -⟩ := later (stripComments next)
  rw [own, parse_rules, residue, complete.stripComments_append, plain, behind]
  exact List.prefix_append _ _

theorem values_append (complete : Complete css) {next : Text}
    (unrooted : (splitRoot (stripComments next)).definitions = []) :
    (parse (css ++ next)).values = (parse css).values := by
  rw [parse, complete.stripComments_append, RootSplit.values, (complete.splitRoot_append _).1,
    unrooted, List.append_nil]
  rfl

end Complete

/-! ### The next rule

A rule without declarations shows what is under way where it stands. -/

def bareRule : Text := ['.', 'a', '\x7b', '\x7d']

theorem remainder_bareRule : (splitRoot (stripComments bareRule)).remainder = bareRule := by
  rw [stripComments_of_clean (by decide), (rootKeeps_of_no_colon (by decide)).split]

theorem plain_bareRule : (splitAtRules bareRule).plain = bareRule := by
  have reads := (AtReads.plain (show Delimiter.brace.Free ['.', 'a'] by decide) (by decide)).append
    (AtReads.braces Delimiter.Balanced.nil)
  exact congrArg AtSplit.plain reads.split

theorem residue_bareRule : residue bareRule = bareRule := by
  rw [residue, remainder_bareRule, plain_bareRule]

theorem plain_openHeader_bareRule {header : Text} (inside : ∀ c ∈ header, inHeader c) :
    (splitAtRules ('@' :: header ++ bareRule)).plain = [] := by
  have named : ∀ c ∈ header ++ ['.', 'a'], inHeader c := by
    intro c member
    rcases List.mem_append.mp member with early | late
    · exact inside c early
    · exact List.all_eq_true.mp (show ['.', 'a'].all inHeader by decide) c late
  have reads := AtReads.block named Delimiter.Balanced.nil
  rw [← List.cons_append, List.append_assoc, List.append_assoc] at reads
  exact congrArg AtSplit.plain reads.split

theorem parseRules_append_bareRule {text : Text} (free : Delimiter.brace.Free text) :
    parseRules (text ++ bareRule) = (ruleOf? (text ++ ['.', 'a']) []).toList := by
  have named : Delimiter.brace.Free (text ++ ['.', 'a']) := free.append (by decide)
  have nothing : Delimiter.brace.Free [] := by decide
  have scanned := scanRules_rule (by simp) named nothing []
  have whole : text ++ ['.', 'a'] ++ ['\x7b'] ++ ['\x7d'] = text ++ bareRule := by
    simp [bareRule]
  rw [whole] at scanned
  rw [parseRules, scanned]
  exact (rulesOf_cons _ _ []).trans (List.append_nil _)

theorem parseRules_bareRule : parseRules bareRule = [⟨['.', 'a'], []⟩] := by decide

theorem allBlank_of_bareRule {text : Text} (free : Delimiter.brace.Free text)
    (same : parseRules (text ++ bareRule) = parseRules bareRule) : AllBlank text := by
  rw [parseRules_append_bareRule free, parseRules_bareRule, ruleOf?] at same
  split at same
  · cases same
  · have selector : trim (text ++ ['.', 'a']) = ['.', 'a'] :=
      (Rule.mk.inj (List.cons.inj same).1).1
    exact @allBlank_of_trim_append text ['.'] 'a' (by decide) selector

/-- The rules behind a complete stylesheet are read as if it were not there exactly if nothing but
blanks is left of it behind its last rule. -/
theorem rules_append_iff {css : Text} (complete : Complete css) :
    (∀ next, (parse (css ++ next)).rules = (parse css).rules ++ (parse next).rules) ↔
      Settled css := by
  obtain ⟨kept, tail, left, balanced, header, later⟩ := complete.exists_residue
  have appended (next : Text) : residue (css ++ next) =
      kept ++ (splitAtRules (tail ++ (splitRoot (stripComments next)).remainder)).plain := by
    rw [residue, complete.stripComments_append, later]
  constructor
  · intro append
    have probed := append bareRule
    rw [parse_rules, parse_rules, parse_rules, appended, left, remainder_bareRule, residue_bareRule]
      at probed
    obtain ⟨free, behind⟩ := parseRules_balanced_append balanced
    rw [Settled, left]
    cases header with
    | none =>
      rw [List.nil_append, List.append_nil, plain_bareRule, behind] at probed
      rw [List.append_nil]
      exact allBlank_of_bareRule free (List.append_cancel_left probed)
    | @start header freeHeader inside =>
      -- The rule has become the block of the at-rule.
      have freeTail : Delimiter.brace.Free ('@' :: header) :=
        Delimiter.Free.append (show Delimiter.brace.Free ['@'] by decide) freeHeader
      rw [plain_openHeader_bareRule inside, List.append_nil, behind,
        parseRules_of_free (free.append freeTail), List.append_nil, parseRules_bareRule] at probed
      simp at probed
  · intro settled next
    rw [Settled, left] at settled
    cases header with
    | none =>
      rw [List.append_nil] at settled left
      rw [parse_rules, parse_rules, parse_rules, appended, left, parseRules_append settled]
      rfl
    | @start header free inside =>
      have closer : '\x7d' ∉ '@' :: header := by
        rw [List.mem_cons, not_or]
        exact ⟨by decide, free.2⟩
      rw [afterLast_append closer] at settled
      exact absurd (settled '@' (by simp)) (by decide)

def settledSheet : Text :=
  "@import url(x);\n.a \x7b color: red; \x7d\n:root \x7b --x: 1px; \x7d\n".toList

theorem rules_append_settledSheet :
    Complete settledSheet ∧ Settled settledSheet ∧
      ∀ next, (parse (settledSheet ++ next)).rules =
        ⟨".a".toList, ["color: red".toList]⟩ :: (parse next).rules := by
  have complete : Complete settledSheet :=
    ⟨commentsClosed_of_clean (by decide), by decide +kernel, by decide +kernel⟩
  have settled : Settled settledSheet := by decide +kernel
  have own : (parse settledSheet).rules = [⟨".a".toList, ["color: red".toList]⟩] := by
    decide +kernel
  refine ⟨complete, settled, fun next => ?_⟩
  rw [(rules_append_iff complete).mpr settled next, own]
  rfl

/-- A root block in whose selector something stands before `:root`. -/
def sharedRoot : Text := ":host, :root \x7b --x: 1px; \x7d".toList

theorem rules_append_sharedRoot :
    Complete sharedRoot ∧ (parse sharedRoot).rules = [] ∧
      (parse " .b \x7b margin: 0; \x7d".toList).rules =
        [⟨".b".toList, ["margin: 0".toList]⟩] ∧
      (parse (sharedRoot ++ " .b \x7b margin: 0; \x7d".toList)).rules =
        [⟨":host,  .b".toList, ["margin: 0".toList]⟩] := by
  have complete : Complete sharedRoot :=
    ⟨commentsClosed_of_clean (by decide), by decide +kernel, by decide +kernel⟩
  exact ⟨complete, by decide +kernel, by decide +kernel, by decide +kernel⟩

end PageClip.Stylesheet
