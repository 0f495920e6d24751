import Mathlib.Tactic.Common
import CallLight.Document.Store

/-!
# The store as a map

What a lookup finds after each operation. An update looks a document up under the URI of the request
and puts the result back under the document's own; the two are one key because every document stands
under its own key (`Keyed`), which all operations keep.
-/

namespace CallLight.Store

@[simp] theorem lookup_empty (key : Text) : empty.lookup key = none := rfl

theorem lookup_eraseKey (s : Store) (k key : Text) :
    (s.eraseKey k).lookup key = if k = key then none else s.lookup key := by
  unfold eraseKey lookup
  dsimp only
  induction s.entries with
  | nil => simp
  | cons e es ih =>
    rw [List.lookup_cons]
    -- the entry at the front goes or stays
    by_cases hk : e.1 = k
    · rw [List.filter_cons_of_neg (by simpa using hk), ih]
      by_cases hkey : k = key
      · rw [if_pos hkey, if_pos hkey]
      · have hne : (key == e.1) = false := by simpa [hk] using fun h => hkey h.symm
        rw [hne]
    · rw [List.filter_cons_of_pos (by simpa using hk), List.lookup_cons, ih]
      by_cases hkey : key = e.1
      · have heq : (key == e.1) = true := by simpa using hkey
        have hne : k ≠ key := fun h => hk (by rw [h, hkey])
        rw [heq, if_neg hne, if_neg hne]
      · have hne : (key == e.1) = false := by simpa using hkey
        rw [hne]

theorem lookup_insert (s : Store) (d : Document) (key : Text) :
    (s.insert d).lookup key = if d.uri.key = key then some d else s.lookup key := by
  have herase := lookup_eraseKey s d.uri.key key
  unfold insert lookup at *
  rw [List.lookup_cons]
  by_cases hkey : d.uri.key = key
  · simp [hkey]
  · have hne : (key == d.uri.key) = false := by simpa using fun h => hkey h.symm
    rw [if_neg hkey] at herase ⊢
    rw [hne]
    exact herase

theorem lookup_erase (s : Store) (u : Uri) (key : Text) :
    (s.erase u).lookup key = if u.key = key then none else s.lookup key :=
  lookup_eraseKey s u.key key

/-! ## Documents under their own keys -/

/-- Every document stands under the key of its own URI. -/
def Keyed (s : Store) : Prop := ∀ key d, s.lookup key = some d → d.uri.key = key

theorem keyed_empty : empty.Keyed := by
  intro key d h
  cases h

theorem Keyed.insert {s : Store} (h : s.Keyed) (d : Document) : (s.insert d).Keyed := by
  intro key d' hd'
  rw [lookup_insert] at hd'
  split at hd'
  next hkey => rw [← Option.some.inj hd', hkey]
  next => exact h key d' hd'

theorem Keyed.erase {s : Store} (h : s.Keyed) (u : Uri) : (s.erase u).Keyed := by
  intro key d hd
  rw [lookup_erase] at hd
  split at hd
  · cases hd
  · exact h key d hd

/-! ## Updates -/

section Update

variable {ε : Type} {s : Store} {u : Uri} {f : Document → Except ε Document}

theorem update_of_get?_eq_none (h : s.get? u = none) : s.update u f = .error (.notFound u) := by
  rw [update, h]

theorem update_of_error {d : Document} (h : s.get? u = some d) {e : ε} (hf : f d = .error e) :
    s.update u f = .error (.failed e) := by
  rw [update, h]
  dsimp only
  rw [hf]

theorem update_of_ok {d d' : Document} (h : s.get? u = some d) (hf : f d = .ok d') :
    s.update u f = .ok (s.insert d') := by
  rw [update, h]
  dsimp only
  rw [hf]

end Update

end CallLight.Store
