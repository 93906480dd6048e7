import Mathlib.Data.List.TakeWhile
import PageClip.Markup.Reference.Basic

/-!
# References in attribute values

What stands for a reference is never longer than the reference, so no value is
longer than what is written for it (`length_unescape_le`).
-/

namespace PageClip.Markup.Reference

open PageClip.Text

/-! ### Names -/

def isShort (entry : String × String) : Bool :=
  decide (2 ≤ entry.1.utf8ByteSize) && (entry.2.toList.drop 2).isEmpty

theorem isShort_of_mem {c : Char} {entry : String × String} (listed : entry ∈ namesFrom c) :
    isShort entry = true ∧ c.utf8Size = 1 := by
  have each : ∀ entries : List (String × String), entries.all isShort = true → entry ∈ entries →
      isShort entry = true := fun entries all member => List.all_eq_true.mp all entry member
  unfold namesFrom at listed
  split at listed
  all_goals first
    | exact ⟨each _ (by decide +kernel) listed, by decide⟩
    | cases listed

theorem length_of_named? {name text : Text} (found : named? name = some text) :
    text.length ≤ 2 ∧ 2 ≤ name.length := by
  cases name with
  | nil => cases found
  | cons c more =>
    obtain ⟨shown, known, rfl⟩ := Option.map_eq_some_iff.mp found
    obtain ⟨before, after, listed, -⟩ := List.lookup_eq_some_iff.mp known
    have member : (String.ofList (c :: more), shown) ∈ namesFrom c := by
      rw [listed]
      simp
    obtain ⟨short, ascii⟩ := isShort_of_mem member
    obtain ⟨long, few⟩ := Bool.and_eq_true_iff.mp short
    have few := List.drop_eq_nil_iff.mp (List.isEmpty_iff.mp few)
    refine ⟨few, ?_⟩
    cases more with
    | nil =>
      have long := of_decide_eq_true long
      simp [ascii] at long
    | cons d more => simp

theorem length_of_legacy? {name text : Text} (found : legacy? name = some text) :
    text.length ≤ 2 ∧ 2 ≤ name.length := by
  unfold legacy? at found
  split at found
  · exact length_of_named? found
  · cases found

theorem length_of_longestLegacy? {name text more : Text} {length : Nat}
    (found : longestLegacy? name length = some (text, more)) :
    text.length + more.length ≤ name.length := by
  induction length with
  | zero => cases found
  | succ length ih =>
    rw [longestLegacy?] at found
    split at found
    · cases found
    split at found
    · next known =>
      obtain ⟨rfl, rfl⟩ := Prod.mk.inj (Option.some.inj found)
      obtain ⟨few, long⟩ := length_of_legacy? known
      simp only [List.length_take] at long
      simp only [List.length_drop]
      omega
    · exact ih found

theorem length_ofAttributeName_le (name : Text) (closed : Bool) :
    (ofAttributeName name closed).length ≤ name.length + 1 + closed.toNat := by
  have tail : (if closed then [';'] else []).length = closed.toNat := by cases closed <;> rfl
  unfold ofAttributeName
  dsimp only
  split
  · next text found =>
    have sizes : text.length ≤ 2 ∧ 2 ≤ name.length := by
      cases closed with
      | true => exact length_of_named? found
      | false => exact length_of_legacy? found
    omega
  · split
    · next text more found =>
      have sizes := length_of_longestLegacy? found
      simp only [List.length_append]
      omega
    · simp only [List.length_append, List.length_cons]
      omega

/-! ### References -/

theorem dropSemicolon_suffix (text : Text) : dropSemicolon text <:+ text := by
  unfold dropSemicolon
  split
  · exact List.suffix_cons ..
  · exact List.suffix_rfl

theorem suffix_of_code? {shown after : Text} {code : Nat} (found : code? shown = some (code, after)) :
    after <:+ shown := by
  cases shown with
  | nil => cases found
  | cons c rest =>
    rw [code?] at found
    split at found
    · obtain ⟨-, rfl⟩ := Prod.mk.inj (Option.some.inj found)
      exact List.dropWhile_suffix _
    split at found
    · obtain ⟨-, rfl⟩ := Prod.mk.inj (Option.some.inj found)
      exact (List.dropWhile_suffix _).trans (List.suffix_cons ..)
    · cases found

theorem length_ofAttributeCode_le (code : Nat) : (ofAttributeCode code).length ≤ 1 := by
  unfold ofAttributeCode
  split
  · exact Nat.le_refl _
  · split_ifs <;> simp

theorem length_of_attributeReference? {rest text after : Text}
    (found : attributeReference? rest = some (text, after)) :
    text.length + after.length ≤ rest.length + 1 := by
  unfold attributeReference? at found
  split at found
  · next shown =>
    obtain ⟨⟨code, behind⟩, coded, eq⟩ := Option.map_eq_some_iff.mp found
    obtain ⟨rfl, rfl⟩ := Prod.mk.inj eq
    have one := length_ofAttributeCode_le code
    have fewer := ((dropSemicolon_suffix behind).trans (suffix_of_code? coded)).length_le
    simp only [List.length_cons]
    omega
  · dsimp only at found
    split at found
    · cases found
    generalize named : (rest.takeWhile inName).take 32 = name at found
    obtain ⟨rfl, rfl⟩ := Prod.mk.inj (Option.some.inj found)
    have front : name <+: rest := named ▸ (List.take_prefix ..).trans (List.takeWhile_prefix _)
    obtain ⟨behind, rfl⟩ := front
    rw [List.drop_left, List.length_append]
    have size := length_ofAttributeName_le name (behind.head? == some ';')
    cases behind with
    | nil => simpa [dropSemicolon] using size
    | cons c behind =>
      by_cases closed : c = ';'
      · subst closed
        simp [dropSemicolon] at size ⊢
        omega
      · have same : dropSemicolon (c :: behind) = c :: behind := by
          unfold dropSemicolon
          split
          · next start => exact absurd (List.cons.inj start).1 closed
          · rfl
        have unclosed : ((c :: behind).head? == some ';') = false := by simpa using closed
        rw [unclosed] at size ⊢
        rw [same]
        simp at size ⊢
        omega

/-! ### Values -/

theorem length_unescapeFrom_le (fuel : Nat) (text : Text) :
    (unescapeFrom fuel text).length ≤ text.length := by
  induction fuel generalizing text with
  | zero => exact Nat.le_refl _
  | succ fuel ih =>
    cases text with
    | nil => exact Nat.le_refl _
    | cons c rest =>
      have late := ih rest
      rw [unescapeFrom]
      split
      · split
        · next text after found =>
          have size := length_of_attributeReference? found
          have more := ih after
          simp only [List.length_append, List.length_cons]
          omega
        · simpa using late
      · simpa using late

theorem length_unescape_le (text : Text) : (unescape text).length ≤ text.length :=
  length_unescapeFrom_le text.length text

/-- A value starts as it is written, unless with a reference. -/
theorem unescape_cons {c : Char} (plain : c ≠ '&') (rest : Text) :
    unescape (c :: rest) = c :: unescape rest := by
  rw [unescape, List.length_cons, unescapeFrom, if_neg plain, unescape]

end PageClip.Markup.Reference
