import Mathlib.Data.List.Nodup
import CallLight.Text.Basic

/-!
# The order of texts

The order of bytes is the lexicographic order of lists (`lt_iff`). A sorted list of texts is
determined by what it holds: up to repetitions by its members (`eq_of_pairwise_lt`), and with them
by how often each stands in it (`mergeSort_eq_of_perm`).
-/

namespace CallLight.Text

/-- The order of bytes is the order of lists. -/
theorem lt_iff {s t : Text} : Text.lt s t = true ↔ s < t := by
  induction s generalizing t with
  | nil => cases t <;> simp [Text.lt]
  | cons a s ih =>
    cases t with
    | nil => simp [Text.lt]
    | cons b t => simp [Text.lt, List.cons_lt_cons_iff, ih]

theorem not_lt_iff {s t : Text} : (!Text.lt s t) = true ↔ t ≤ s := by
  rw [Bool.not_eq_true', ← Bool.not_eq_true, Text.lt_iff, List.not_lt]

theorem lt_of_le_of_ne {s t : Text} (hle : s ≤ t) (hne : s ≠ t) : s < t := by
  by_contra hlt
  exact hne (List.le_antisymm hle (List.not_lt.mp hlt))

theorem lt_of_lt_of_le {s t u : Text} (hst : s < t) (htu : t ≤ u) : s < u := by
  by_contra hlt
  exact List.not_lt.mpr (List.le_trans htu (List.not_lt.mp hlt)) hst

/-! ## Sorted lists -/

theorem pairwise_mergeSort (l : List Text) :
    (l.mergeSort fun a b => !Text.lt b a).Pairwise (· ≤ ·) := by
  have hsorted : (l.mergeSort fun a b => !Text.lt b a).Pairwise
      fun a b => (!Text.lt b a) = true := by
    refine List.pairwise_mergeSort ?_ ?_ l
    · intro a b c hab hbc
      rw [not_lt_iff] at *
      exact List.le_trans hab hbc
    · intro a b
      rw [Bool.or_eq_true, not_lt_iff, not_lt_iff]
      exact List.le_total a b
  exact hsorted.imp fun h => not_lt_iff.mp h

theorem mergeSort_eq_of_perm {l l' : List Text} (h : l.Perm l') :
    (l.mergeSort fun a b => !Text.lt b a) = l'.mergeSort fun a b => !Text.lt b a := by
  refine List.Perm.eq_of_pairwise ?_ (pairwise_mergeSort l) (pairwise_mergeSort l') ?_
  · intro a b _ _ hab hba
    exact List.le_antisymm hab hba
  · exact (List.mergeSort_perm _ _).trans (h.trans (List.mergeSort_perm _ _).symm)

theorem nodup_of_pairwise_lt {l : List Text} (h : l.Pairwise (· < ·)) : l.Nodup := by
  refine h.imp fun {a b} hlt heq => ?_
  rw [heq] at hlt
  exact List.lt_irrefl b hlt

/-- A strictly ascending list is the list of its members. -/
theorem eq_of_pairwise_lt {l l' : List Text} (h : l.Pairwise (· < ·)) (h' : l'.Pairwise (· < ·))
    (hmem : ∀ t, t ∈ l ↔ t ∈ l') : l = l' := by
  refine List.Perm.eq_of_pairwise ?_ h h' ?_
  · intro a b _ _ hab hba
    exact absurd hba (List.lt_asymm hab)
  · exact (List.perm_ext_iff_of_nodup (nodup_of_pairwise_lt h) (nodup_of_pairwise_lt h')).mpr hmem

end CallLight.Text
