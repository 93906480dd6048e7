import PageClip.Build

/-!
# Runs that end in a value

What the steps of a compilation have done when it has come to a value.
-/

namespace PageClip

/-- A source that hands out one stroke more at each draw. -/
def IdSource.tally : IdSource := fun n => String.ofList (List.replicate (n + 1) 'i')

theorem IdSource.tally_injective : Function.Injective tally := by
  intro m n same
  have strokes := congrArg List.length (String.ofList_injective same)
  simpa using strokes

theorem IdSource.tally_filled (n : Nat) : tally n ≠ "" := by
  intro empty
  have strokes := congrArg String.toList empty
  simp [tally] at strokes

variable {α β : Type}

/-- Whether an outcome is a value where a condition holds, and one certain fault where it does
not. -/
def ValueWhere (fault : Fault) (condition : Prop) (outcome : Except Fault α) : Prop :=
  (condition ∧ ∃ a, outcome = .ok a) ∨ (¬ condition ∧ outcome = .error fault)

namespace ValueWhere

variable {fault : Fault} {condition other : Prop} {outcome : Except Fault α}

theorem ok (holds : condition) (a : α) : ValueWhere fault condition (.ok a) := .inl ⟨holds, a, rfl⟩

theorem congr (h : ValueWhere fault condition outcome) (same : condition ↔ other) :
    ValueWhere fault other outcome :=
  propext same ▸ h

theorem map (h : ValueWhere fault condition outcome) (f : α → β) :
    ValueWhere fault condition (outcome.map f) := by
  obtain ⟨holds, a, rfl⟩ | ⟨fails, rfl⟩ := h
  · exact .inl ⟨holds, f a, rfl⟩
  · exact .inr ⟨fails, rfl⟩

theorem isOk_iff (h : ValueWhere fault condition outcome) :
    (∃ a, outcome = .ok a) ↔ condition := by
  obtain ⟨holds, a, rfl⟩ | ⟨fails, rfl⟩ := h
  · exact ⟨fun _ => holds, fun _ => ⟨a, rfl⟩⟩
  · exact ⟨fun ⟨_, returned⟩ => (nomatch returned), fun holds => absurd holds fails⟩

theorem eq_fault (h : ValueWhere fault condition outcome) {found : Fault}
    (ended : outcome = .error found) : found = fault := by
  obtain ⟨-, a, rfl⟩ | ⟨-, rfl⟩ := h
  · cases ended
  · exact (Except.error.inj ended).symm

end ValueWhere

namespace Build

variable {ids : IdSource} {ledger after : Ledger}

theorem ext {build other : Build α}
    (h : ∀ ids ledger, build.run ids ledger = other.run ids ledger) : build = other :=
  funext fun ids => funext fun ledger => h ids ledger

theorem bind_ok {build : Build α} {next : α → Build β} {b : β}
    (h : (build >>= next).run ids ledger = (.ok b, after)) :
    ∃ a mid, build.run ids ledger = (.ok a, mid) ∧ (next a).run ids mid = (.ok b, after) := by
  rw [run_bind] at h
  rcases outcome : build.run ids ledger with ⟨fault | a, mid⟩
  · simp [outcome] at h
  · rw [outcome] at h
    exact ⟨a, mid, rfl, h⟩

theorem pure_ok {a b : α} (h : (pure a : Build α).run ids ledger = (.ok b, after)) :
    b = a ∧ ledger = after := by
  obtain ⟨same, still⟩ := Prod.mk.inj h
  exact ⟨(Except.ok.inj same).symm, still⟩

theorem ofExcept_ok {outcome : Except Fault α} {a : α}
    (h : (ofExcept outcome).run ids ledger = (.ok a, after)) : outcome = .ok a ∧ ledger = after :=
  Prod.mk.inj h

theorem newId_ok {id : String} (h : newId.run ids ledger = (.ok id, after)) :
    id = ids ledger.drawn ∧ after.drawn = ledger.drawn + 1 := by
  obtain ⟨same, rfl⟩ := Prod.mk.inj h
  exact ⟨(Except.ok.inj same).symm, rfl⟩

theorem note_ok {event : Event} {done : Unit} (h : (note event).run ids ledger = (.ok done, after)) :
    after.drawn = ledger.drawn := by
  obtain ⟨-, rfl⟩ := Prod.mk.inj h
  rfl

theorem exists_of_map_eq {ran : Except Fault α × Ledger} {read : α → β} {b : β}
    (h : ran.1.map read = .ok b) : ∃ a after, ran = (.ok a, after) ∧ read a = b := by
  obtain ⟨fault | a, after⟩ := ran
  · cases h
  · exact ⟨a, after, rfl, Except.ok.inj h⟩

/-- Two ways to go on are the same where they agree on what may come out before. -/
theorem bind_congr_ok {build : Build α} {next other : α → Build β}
    (h : ∀ ids ledger a after, build.run ids ledger = (.ok a, after) → next a = other a) :
    build >>= next = build >>= other := by
  apply ext
  intro ids ledger
  rw [run_bind, run_bind]
  rcases outcome : build.run ids ledger with ⟨fault | a, after⟩
  · rfl
  · simp only [h ids ledger a after outcome]

/-! ### What has been told -/

/-- Whether events noted before bear neither on the outcome nor on the ids that are drawn. -/
def IgnoresEvents (build : Build α) : Prop :=
  ∀ (ids : IdSource) (ledger other : Ledger), ledger.drawn = other.drawn →
    (build.run ids ledger).1 = (build.run ids other).1 ∧
      (build.run ids ledger).2.drawn = (build.run ids other).2.drawn

namespace IgnoresEvents

theorem pure (a : α) : IgnoresEvents (Pure.pure a) := fun _ _ _ same => ⟨rfl, same⟩

theorem ofExcept (outcome : Except Fault α) : IgnoresEvents (Build.ofExcept outcome) :=
  fun _ _ _ same => ⟨rfl, same⟩

theorem note (event : Event) : IgnoresEvents (Build.note event) := fun _ _ _ same => ⟨rfl, same⟩

theorem newId : IgnoresEvents Build.newId := fun ids _ _ same =>
  ⟨congrArg (Except.ok ∘ ids) same, congrArg Nat.succ same⟩

theorem bind {build : Build α} {next : α → Build β} (h : IgnoresEvents build)
    (later : ∀ a, IgnoresEvents (next a)) : IgnoresEvents (build >>= next) := by
  intro ids ledger other same
  obtain ⟨outcome, drawn⟩ := h ids ledger other same
  rw [run_bind, run_bind]
  rcases first : build.run ids ledger with ⟨ended, mid⟩
  rcases second : build.run ids other with ⟨ended', mid'⟩
  rw [first, second] at outcome drawn
  obtain rfl : ended = ended' := outcome
  cases ended with
  | error fault => exact ⟨rfl, drawn⟩
  | ok a => exact later a ids mid mid' drawn

theorem value_eq {build : Build α} (h : IgnoresEvents build) {other after' : Ledger} {a b : α}
    (same : ledger.drawn = other.drawn) (first : build.run ids ledger = (.ok a, after))
    (second : build.run ids other = (.ok b, after')) : a = b := by
  have outcome := (h ids ledger other same).1
  rw [first, second] at outcome
  exact Except.ok.inj outcome

end IgnoresEvents

/-! ### One possible fault -/

/-- Whether a compilation comes to a value where a condition holds, and ends in one certain fault
where it does not. -/
def ReturnsWhere (ids : IdSource) (fault : Fault) (condition : Prop) (build : Build α) : Prop :=
  ∀ ledger, ValueWhere fault condition (build.run ids ledger).1

namespace ReturnsWhere

variable {fault : Fault} {condition other : Prop}

theorem pure (a : α) : ReturnsWhere ids fault True (Pure.pure a) := fun _ => .ok trivial a

theorem note (event : Event) : ReturnsWhere ids fault True (Build.note event) := fun _ => .ok trivial ()

theorem newId : ReturnsWhere ids fault True Build.newId := fun _ => .ok trivial _

theorem ofExcept {outcome : Except Fault α} (h : ValueWhere fault condition outcome) :
    ReturnsWhere ids fault condition (Build.ofExcept outcome) := fun _ => h

theorem congr {build : Build α} (h : ReturnsWhere ids fault condition build)
    (same : condition ↔ other) : ReturnsWhere ids fault other build :=
  propext same ▸ h

theorem bind {build : Build α} {next : α → Build β} (h : ReturnsWhere ids fault condition build)
    (later : ∀ ledger a after, build.run ids ledger = (.ok a, after) →
      ReturnsWhere ids fault other (next a)) :
    ReturnsWhere ids fault (condition ∧ other) (build >>= next) := by
  intro ledger
  rw [run_bind]
  rcases outcome : build.run ids ledger with ⟨ended, mid⟩
  have here := h ledger
  rw [outcome] at here
  obtain ⟨holds, a, rfl⟩ | ⟨fails, rfl⟩ := here
  · rcases later ledger a mid outcome mid with ⟨also, returns⟩ | ⟨fails, ends⟩
    · exact .inl ⟨⟨holds, also⟩, returns⟩
    · exact .inr ⟨fun both => fails both.2, ends⟩
  · exact .inr ⟨fun both => fails both.1, rfl⟩

theorem returns_iff {build : Build α} (h : ReturnsWhere ids fault condition build)
    (ledger : Ledger) :
    (∃ a after, build.run ids ledger = (.ok a, after)) ↔ condition := by
  rw [← (h ledger).isOk_iff]
  rcases build.run ids ledger with ⟨ended, mid⟩
  simp

theorem eq_fault {build : Build α} (h : ReturnsWhere ids fault condition build) {found : Fault}
    (ran : build.run ids ledger = (.error found, after)) : found = fault := by
  have here := h ledger
  rw [ran] at here
  exact here.eq_fault rfl

end ReturnsWhere

end Build

end PageClip
