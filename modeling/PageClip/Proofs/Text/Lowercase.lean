import PageClip.Text.Lowercase

/-!
# Lowering twice

Lowering leaves alone what has been lowered. Beyond ASCII this rests on one fact
about the table: no run of capital letters leads into another.
-/

namespace PageClip.Text

/-- A character that lowering leaves alone. -/
def IsLow (c : Char) : Prop := c ≠ 'Σ' ∧ lowerChar c = [c]

instance (c : Char) : Decidable (IsLow c) := inferInstanceAs (Decidable (_ ∧ _))

theorem lowerFrom_of_isLow {text : Text} (before : Text) (low : ∀ c ∈ text, IsLow c) :
    lowerFrom before text = text := by
  induction text generalizing before with
  | nil => rfl
  | cons c rest ih =>
    obtain ⟨plain, same⟩ := low c List.mem_cons_self
    rw [lowerFrom, if_neg plain, same, ih (c :: before) fun d member =>
      low d (List.mem_cons_of_mem c member)]
    rfl

/-! ### Runs -/

namespace CaseRun

def Has (run : CaseRun) (n : Nat) : Prop :=
  run.first ≤ n ∧ n ≤ run.last ∧ (n - run.first) % run.stride = 0

instance (run : CaseRun) (n : Nat) : Decidable (run.Has n) := inferInstanceAs (Decidable (_ ∧ _))

def image (run : CaseRun) (n : Nat) : Nat := (n + run.shift).toNat

/-- Whether every other code point or only one belongs to a run. -/
def sparse (run : CaseRun) : Bool := (Nat.beq run.stride 2).or (Nat.beq run.first run.last)

/-- Whether what a run leads to is clear of another run: below it, above it or between its code
points. -/
def clears (run other : CaseRun) : Bool :=
  (Nat.blt (run.image run.last) other.first).or ((Nat.blt other.last (run.image run.first)).or
    (run.sparse.and ((Nat.beq other.stride 2).and
      (Nat.beq ((run.image run.first + other.first) % 2) 1))))

/-- Whether a run leads to small ASCII letters only or to no ASCII character. -/
def leadsLow (run : CaseRun) : Bool :=
  (Nat.ble 0x80 (run.image run.first)).or
    ((Nat.ble 0x61 (run.image run.first)).and (Nat.ble (run.image run.last) 0x7a))

theorem not_has_of_clears {run other : CaseRun} (h : run.clears other) (low : run.leadsLow) {n : Nat}
    (member : run.Has n) : ¬ other.Has (run.image n) := by
  rintro ⟨lower, upper, steps⟩
  obtain ⟨first, last, even⟩ := member
  simp only [clears, sparse, leadsLow, image, Bool.or_eq_true, Bool.and_eq_true, Nat.beq_eq,
    Nat.blt_eq, Nat.ble_eq] at h low lower upper steps
  rcases h with above | below | ⟨stride | single, step, odd⟩
  · omega
  · omega
  -- Every image is an even number of steps from the first, and the other run an odd number.
  · rw [stride] at even
    rw [step] at steps
    omega
  · rw [step] at steps
    omega

end CaseRun

/-- The runs and the two letters that are not lowered by their run. -/
def capitalRuns : List CaseRun := ⟨0x130, 0x130, 1, 0⟩ :: ⟨0x3a3, 0x3a3, 1, 0⟩ :: caseRuns

theorem caseRuns_clear :
    (caseRuns.all fun run => run.leadsLow && capitalRuns.all run.clears) = true := by
  decide +kernel

theorem find?_of_no_run {n : Nat} (absent : ∀ run ∈ caseRuns, ¬ run.Has n) :
    (caseRuns.find? fun run =>
      run.first ≤ n && n ≤ run.last && (n - run.first) % run.stride == 0) = none := by
  rw [List.find?_eq_none]
  intro run member found
  simp only [Bool.and_eq_true, decide_eq_true_eq, beq_iff_eq] at found
  exact absent run member ⟨found.1.1, found.1.2, found.2⟩

theorem isLow_of_no_run {c : Char} (absent : ∀ run ∈ capitalRuns, ¬ run.Has c.toNat)
    (ascii : c.toNat < 0x80 → c.toLower = c) : IsLow c := by
  obtain ⟨noDot, noSigma, others⟩ : _ ∧ _ ∧ _ := by
    simpa only [capitalRuns, List.forall_mem_cons] using absent
  refine ⟨?_, ?_⟩
  · rintro rfl
    exact noSigma (by decide)
  · unfold lowerChar
    split
    · next small => rw [ascii small]
    · split
      · next dotted =>
        subst dotted
        exact absurd (by decide) noDot
      · rw [find?_of_no_run others]

theorem ascii_toLower : ∀ n < 0x80, (Char.ofNat n).toLower.toNat < 0x80 ∧
    (Char.ofNat n).toLower.toLower = (Char.ofNat n).toLower := by
  decide +kernel

theorem isLow_toLower {c : Char} (small : c.toNat < 0x80) : IsLow c.toLower := by
  obtain ⟨still, twice⟩ := ascii_toLower c.toNat small
  rw [Char.ofNat_toNat] at still twice
  refine ⟨?_, ?_⟩
  · intro sigma
    rw [sigma] at still
    exact absurd still (by decide)
  · rw [lowerChar, if_pos still, twice]

theorem toNat_ofNat {n : Nat} (valid : n.isValidChar) : (Char.ofNat n).toNat = n := by
  rw [Char.ofNat, dif_pos valid]
  rfl

theorem small_letters : ∀ n < 0x80, 0x61 ≤ n → (Char.ofNat n).toLower = Char.ofNat n := by
  decide +kernel

theorem isLow_image {run : CaseRun} (member : run ∈ caseRuns) {n : Nat} (inside : run.Has n) :
    IsLow (Char.ofNat (run.image n)) := by
  have checked := List.all_eq_true.mp caseRuns_clear run member
  obtain ⟨low, clear⟩ := (Bool.and_eq_true ..).mp checked
  by_cases valid : (run.image n).isValidChar
  · have same := toNat_ofNat valid
    apply isLow_of_no_run
    · intro other listed
      rw [same]
      exact CaseRun.not_has_of_clears (List.all_eq_true.mp clear other listed) low inside
    · rw [same]
      intro small
      apply small_letters _ small
      obtain ⟨first, -, -⟩ := inside
      simp only [CaseRun.leadsLow, CaseRun.image, Bool.or_eq_true, Bool.and_eq_true,
        Nat.ble_eq] at low small ⊢
      omega
  · -- What is no character is put as the null character.
    rw [Char.ofNat, dif_neg valid]
    decide

/-! ### Lowered texts -/

theorem isLow_of_mem_lowerChar {c d : Char} (plain : c ≠ 'Σ') (member : d ∈ lowerChar c) :
    IsLow d := by
  unfold lowerChar at member
  split at member
  · next small =>
    rw [List.mem_singleton.mp member]
    exact isLow_toLower small
  · next large =>
    split at member
    · rcases List.mem_cons.mp member with rfl | last
      · decide
      · rw [List.mem_singleton.mp last]
        decide
    · next noDot =>
      split at member
      · next run found =>
        rw [List.mem_singleton.mp member]
        have inside := List.find?_some found
        simp only [Bool.and_eq_true, decide_eq_true_eq, beq_iff_eq] at inside
        exact isLow_image (List.mem_of_find?_eq_some found) ⟨inside.1.1, inside.1.2, inside.2⟩
      · next absent =>
        rw [List.mem_singleton.mp member]
        exact ⟨plain, by rw [lowerChar, if_neg large, if_neg noDot, absent]⟩

theorem isLow_of_mem_lowerFrom {before text : Text} {d : Char} (member : d ∈ lowerFrom before text) :
    IsLow d := by
  induction text generalizing before with
  | nil => cases member
  | cons c rest ih =>
    rw [lowerFrom] at member
    rcases List.mem_append.mp member with here | later
    · split at here
      · rw [List.mem_singleton.mp here]
        split <;> decide
      · next plain => exact isLow_of_mem_lowerChar plain here
    · exact ih later

end PageClip.Text

namespace PageClip

theorem lowercase_lowercase (s : String) : lowercase (lowercase s) = lowercase s := by
  unfold lowercase Text.lower
  rw [String.toList_ofList, Text.lowerFrom_of_isLow [] fun _ => Text.isLow_of_mem_lowerFrom]

end PageClip
