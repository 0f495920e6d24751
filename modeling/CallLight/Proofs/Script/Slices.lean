import CallLight.Proofs.Script.Patterns

/-!
# Searching slices

A scan cuts the text where the last match stopped and searches what is left as a text of its own, so
that the first search position does not see what stands before it. A match that is taken from the
whole text does. They are the same matches (`scan_eq_successive`): a call stops behind a
parenthesis, where a word may start, and a declaration stops at the end of a word, where none does.
Each match takes at least one byte, so the scan always goes on where the match stopped.
-/

namespace CallLight.Script

namespace Pattern

/-! ## Matches in the whole text -/

/-- The leftmost match that starts at or behind an offset. -/
def Leftmost (p : Pattern) (t : Text) (pos : Nat) (m : List Nat) : Prop :=
  ∃ i, pos ≤ i ∧ p.matchAt? t i = some m ∧ ∀ j, pos ≤ j → j < i → p.matchAt? t j = none

/-- The matches from an offset on, each the leftmost one that starts at or behind the end of the one
before. -/
inductive Successive (p : Pattern) (t : Text) : Nat → List (List Nat) → Prop
  | done {pos : Nat} (hnone : ∀ i, pos ≤ i → p.matchAt? t i = none) : Successive p t pos []
  | next {pos i stop : Nat} {groups : List Nat} {ms : List (List Nat)}
      (hfirst : p.Leftmost t pos (i :: stop :: groups)) (hrest : Successive p t stop ms) :
      Successive p t pos ((i :: stop :: groups) :: ms)

variable {p : Pattern} {t : Text} {pos : Nat}

theorem Leftmost.unique {m m' : List Nat} (h : p.Leftmost t pos m) (h' : p.Leftmost t pos m') :
    m = m' := by
  rcases h with ⟨i, hi, hm, hleft⟩
  rcases h' with ⟨j, hj, hm', hleft'⟩
  rcases Nat.lt_trichotomy i j with hlt | rfl | hlt
  · rw [hleft' i hi hlt] at hm
    cases hm
  · rw [hm] at hm'
    exact Option.some.inj hm'
  · rw [hleft j hj hlt] at hm'
    cases hm'

theorem Leftmost.not_done {m : List Nat} (h : p.Leftmost t pos m) :
    ¬ ∀ i, pos ≤ i → p.matchAt? t i = none := by
  intro hnone
  rcases h with ⟨i, hi, hm, -⟩
  rw [hnone i hi] at hm
  cases hm

/-- There is one sequence of matches. -/
theorem Successive.unique {ms ms' : List (List Nat)} (h : p.Successive t pos ms)
    (h' : p.Successive t pos ms') : ms = ms' := by
  induction h generalizing ms' with
  | done hnone =>
    cases h' with
    | done => rfl
    | next hfirst => exact absurd hnone hfirst.not_done
  | next hfirst _ ih =>
    cases h' with
    | done hnone => exact absurd hnone hfirst.not_done
    | next hfirst' hrest' =>
      have heq := hfirst.unique hfirst'
      simp only [List.cons.injEq] at heq
      rcases heq with ⟨rfl, rfl, rfl⟩
      rw [ih hrest']

end Pattern

/-! ## The scan -/

variable {pass : Pass} {t : Text}

theorem Pass.matchAt?_pattern_eq_none_iff {i : Nat} :
    pass.pattern.matchAt? t i = none ↔ ∀ o, ¬ Occurs pass.shape t i o := by
  rw [Option.eq_none_iff_forall_ne_some]
  constructor
  · intro h o ho
    exact h o.indices (Pass.matchAt?_pattern_iff.mpr ⟨o, ho, rfl⟩)
  · intro h m hm
    rcases Pass.matchAt?_pattern_iff.mp hm with ⟨o, ho, -⟩
    exact h o ho

/-- The leftmost occurrence of the shape is the leftmost match of the pattern. -/
theorem Occurs.leftmost {pos i : Nat} {o : Occurrence} (hi : pos ≤ i)
    (ho : Occurs pass.shape t i o)
    (hleft : ∀ j o', pos ≤ j → j < i → ¬ Occurs pass.shape t j o') :
    pass.pattern.Leftmost t pos o.indices := by
  refine ⟨i, hi, Pass.matchAt?_pattern_iff.mpr ⟨o, ho, rfl⟩, ?_⟩
  intro j hj hlt
  exact Pass.matchAt?_pattern_eq_none_iff.mpr fun o' => hleft j o' hj hlt

theorem Sweep.successive {pos : Nat} {os : List Occurrence} (h : Sweep pass.shape t pos os) :
    pass.pattern.Successive t pos (os.map Occurrence.indices) := by
  induction h with
  | done hnone =>
    refine .done fun i hi => ?_
    exact Pass.matchAt?_pattern_eq_none_iff.mpr fun o => hnone i o hi
  | next hi ho hleft _ ih => exact .next (ho.leftmost hi hleft) ih

/-- A search of a text of its own finds the leftmost match of the pattern in it. -/
theorem Pass.leftmost_iff_find {m : List Nat} : pass.pattern.Leftmost t 0 m ↔
    ∃ o, find pass.shape t = some o ∧ m = o.indices := by
  have hsome : ∀ o, find pass.shape t = some o → pass.pattern.Leftmost t 0 o.indices := by
    intro o ho
    rcases pass.shape_lawful.exists_occurs_of_find (resumable_zero t) ho with ⟨i, hi, hocc, hleft⟩
    exact hocc.leftmost hi hleft
  constructor
  · intro hm
    cases hfind : find pass.shape t with
    | none =>
      refine absurd (fun i hi => ?_) hm.not_done
      exact Pass.matchAt?_pattern_eq_none_iff.mpr fun o =>
        pass.shape_lawful.not_occurs_of_find (resumable_zero t) hfind hi o
    | some o => exact ⟨o, rfl, hm.unique (hsome o hfind)⟩
  · rintro ⟨o, ho, rfl⟩
    exact hsome o ho

/-- Scanning slices is scanning the whole text. Each of the two passes finds, in any text, the
matches of its pattern in the whole text, one after the other, with all their offsets, though each
search is for the leftmost match in a text of its own, which is what the last match has left. From
no offset does a search stop where it started: the next one starts further on, at the end of the
match, and within the text. -/
theorem scan_eq_successive (pass : Pass) (t : Text) :
    (∃ os, scan pass.shape t .never = some (os, .never) ∧
      ∀ ms, pass.pattern.Successive t 0 ms ↔ ms = os.map Occurrence.indices) ∧
    ∀ pos,
      (∀ m, pass.pattern.Leftmost (t.drop pos) 0 m ↔
        ∃ o, find pass.shape (t.drop pos) = some o ∧ m = o.indices) ∧
      ∀ o, find pass.shape (t.drop pos) = some o →
        (o.shift pos).stop ≠ pos ∧ pos < (o.shift pos).resume pos ∧
        (o.shift pos).resume pos ≤ t.length := by
  constructor
  · rcases scan_never pass.shape_lawful t with ⟨os, hsweep, hscan⟩
    refine ⟨os, hscan, fun ms => ⟨fun hms => hms.unique hsweep.successive, ?_⟩⟩
    rintro rfl
    exact hsweep.successive
  · intro pos
    refine ⟨fun m => Pass.leftmost_iff_find, ?_⟩
    intro o ho
    have hstop := pass.shape_lawful.stop_of_find ho
    rw [List.length_drop] at hstop
    have hne : (o.shift pos).stop ≠ pos := by
      simp only [Occurrence.shift]
      omega
    have hresume : (o.shift pos).resume pos = o.stop + pos := if_neg hne
    refine ⟨hne, o.lt_resume_shift pos, ?_⟩
    rw [hresume]
    omega

/-- The text `f(g(`, a stray byte, and `h (`. The second call starts where the first one stops. -/
def nestedCalls : Text := [102, 40, 103, 40, 255, 104, 32, 40]

theorem scan_eq_successive_nestedCalls :
    Pattern.call.Successive nestedCalls 0 [[0, 2, 0, 1], [2, 4, 2, 3], [5, 8, 5, 6]] ∧
    find callAt? (nestedCalls.drop 2) = some ⟨0, 0, [103], 2⟩ ∧
    Pattern.call.Leftmost (nestedCalls.drop 2) 0 [0, 2, 0, 1] := by
  have hscan : scan callAt? nestedCalls .never =
      some ([⟨0, 0, [102], 2⟩, ⟨2, 2, [103], 4⟩, ⟨5, 5, [104], 8⟩], .never) := by
    decide +kernel
  have hfind : find callAt? (nestedCalls.drop 2) = some ⟨0, 0, [103], 2⟩ := by decide +kernel
  rcases scan_eq_successive .calls nestedCalls with ⟨⟨os, hos, hsuccessive⟩, hslices⟩
  refine ⟨?_, hfind, ((hslices 2).1 _).mpr ⟨_, hfind, rfl⟩⟩
  obtain rfl := (Prod.mk.inj (Option.some.inj (hscan.symm.trans hos))).1
  exact (hsuccessive _).mpr rfl

end CallLight.Script
