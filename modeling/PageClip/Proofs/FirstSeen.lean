import Mathlib.Data.List.Induction
import Mathlib.Data.List.Nodup

/-!
# Order of first occurrence

What remains of a list when repeats are dropped. `FirstSeen` says it by where each
item first stands.
-/

namespace PageClip

variable {α : Type} [BEq α]

/-- The items of a list, each once, in the order in which they first occur in it. -/
structure FirstSeen (all once : List α) : Prop where
  mem_iff : ∀ a, a ∈ once ↔ a ∈ all
  ordered : once.Pairwise fun a b => all.idxOf a < all.idxOf b

theorem FirstSeen.nodup {all once : List α} (h : FirstSeen all once) : once.Nodup := by
  refine h.ordered.imp ?_
  rintro a _ earlier rfl
  exact Nat.lt_irrefl _ earlier

variable [LawfulBEq α]

theorem eraseDups_concat (all : List α) (a : α) :
    (all ++ [a]).eraseDups = if a ∈ all then all.eraseDups else all.eraseDups ++ [a] := by
  rw [List.eraseDups_append, List.removeAll, List.filter_singleton]
  by_cases member : a ∈ all <;> simp [member, List.eraseDups_cons]

theorem firstSeen_eraseDups (all : List α) : FirstSeen all all.eraseDups := by
  refine ⟨fun a => List.mem_eraseDups, ?_⟩
  induction all using List.reverseRecOn with
  | nil => exact .nil
  | append_singleton all a ih =>
    have still {b : α} (member : b ∈ all.eraseDups) : (all ++ [a]).idxOf b = all.idxOf b :=
      List.idxOf_append_of_mem (List.mem_eraseDups.mp member)
    have kept : all.eraseDups.Pairwise fun b c => (all ++ [a]).idxOf b < (all ++ [a]).idxOf c := by
      refine ih.imp_of_mem fun {b c} memberB memberC earlier => ?_
      rwa [still memberB, still memberC]
    rw [eraseDups_concat]
    split
    · exact kept
    · next fresh =>
      refine List.pairwise_append.mpr ⟨kept, List.pairwise_singleton _ a, fun b member c last => ?_⟩
      obtain rfl := List.mem_singleton.mp last
      rw [still member, List.idxOf_append_of_notMem fresh]
      have := List.idxOf_lt_length_of_mem (List.mem_eraseDups.mp member)
      omega

end PageClip
