import PageClip.Event
import PageClip.Fault
import PageClip.Text.Quoted

/-!
# Compilations

A `Build` draws ids from a source, notes events, and ends in a value or a fault;
ids drawn and events noted before a fault stay. The `run_` lemmas say what each
step does to the ledger.
-/

namespace PageClip

/-- The ids that a source hands out: the one at each draw, counted from zero. -/
abbrev IdSource := Nat → String

namespace IdSource

def numbered (stem : String) : IdSource := fun n => s!"{stem}-{n + 1}"

def cycling (ids : List String) : IdSource := fun n => ids.getD (n % ids.length) ""

/-- Ids in the form of universal ones: the number of the draw in eight digits, then `tail`. -/
def counted (tail : String) : IdSource := fun n =>
  String.ofList (Text.hex 8 (n + 1)) ++ tail

end IdSource

/-- How many ids have been drawn and what has been told, the latest last. -/
structure Ledger where
  drawn : Nat
  events : List Event
  deriving DecidableEq, Repr

def Ledger.fresh : Ledger := ⟨0, []⟩

abbrev Build := ReaderT IdSource (ExceptT Fault (StateM Ledger))

namespace Build

variable {α β : Type}

def run (build : Build α) (ids : IdSource) (ledger : Ledger) : Except Fault α × Ledger :=
  build ids ledger

def newId : Build String := fun ids ledger =>
  (.ok (ids ledger.drawn), { ledger with drawn := ledger.drawn + 1 })

def note (event : Event) : Build Unit := fun _ ledger =>
  (.ok (), { ledger with events := ledger.events ++ [event] })

/-- Notes events in order. -/
def noteAll (events : List Event) : Build Unit := fun _ ledger =>
  (.ok (), { ledger with events := ledger.events ++ events })

/-- Ends in a fault. -/
def fail (fault : Fault) : Build α := fun _ ledger => (.error fault, ledger)

def ofExcept (outcome : Except Fault α) : Build α := fun _ ledger => (outcome, ledger)

@[simp] theorem run_pure (a : α) (ids : IdSource) (ledger : Ledger) :
    (pure a : Build α).run ids ledger = (.ok a, ledger) := rfl

@[simp] theorem run_bind (build : Build α) (next : α → Build β) (ids : IdSource) (ledger : Ledger) :
    (build >>= next).run ids ledger =
      match build.run ids ledger with
      | (.ok a, after) => (next a).run ids after
      | (.error fault, after) => (.error fault, after) := by
  simp only [run, bind, ReaderT.bind, ExceptT.bind, ExceptT.mk, StateT.bind]
  generalize build ids ledger = outcome
  rcases outcome with ⟨_ | _, _⟩ <;> rfl

@[simp] theorem run_map (build : Build α) (f : α → β) (ids : IdSource) (ledger : Ledger) :
    (f <$> build).run ids ledger =
      match build.run ids ledger with
      | (.ok a, after) => (.ok (f a), after)
      | (.error fault, after) => (.error fault, after) := by
  rw [map_eq_pure_bind, run_bind]; rfl

@[simp] theorem run_newId (ids : IdSource) (ledger : Ledger) :
    newId.run ids ledger = (.ok (ids ledger.drawn), ⟨ledger.drawn + 1, ledger.events⟩) := rfl

@[simp] theorem run_note (event : Event) (ids : IdSource) (ledger : Ledger) :
    (note event).run ids ledger = (.ok (), ⟨ledger.drawn, ledger.events ++ [event]⟩) := rfl

@[simp] theorem run_noteAll (events : List Event) (ids : IdSource) (ledger : Ledger) :
    (noteAll events).run ids ledger = (.ok (), ⟨ledger.drawn, ledger.events ++ events⟩) := rfl

@[simp] theorem run_fail (fault : Fault) (ids : IdSource) (ledger : Ledger) :
    (fail fault : Build α).run ids ledger = (.error fault, ledger) := rfl

@[simp] theorem run_ofExcept (outcome : Except Fault α) (ids : IdSource) (ledger : Ledger) :
    (ofExcept outcome).run ids ledger = (outcome, ledger) := rfl

end Build

end PageClip
