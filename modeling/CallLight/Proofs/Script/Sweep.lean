import CallLight.Proofs.Script.Shapes

/-!
# Scanning a text

`scanFrom` searches the text behind the last match as if it were a text of its own. A `Sweep` is
what it is meant to find: in the whole text, the leftmost occurrence at or after the end of the one
before, each starting at a word boundary of the whole text. The two are the same for a shape that
never stops inside a word (`Lawful`), because then no boundary is made by the cut (`scanFrom_eq`).
-/

namespace CallLight

/-- Passes `n` checks; nothing when the work is called off before. -/
def Cancellation.spend : Nat → Cancellation → Option Cancellation
  | 0, c => some c
  | n + 1, c => c.poll.bind (spend n)

theorem Cancellation.spend_never (n : Nat) : spend n never = some never := by
  induction n with
  | zero => rfl
  | succ n ih => exact ih

namespace Script

theorem Occurrence.shift_zero (o : Occurrence) : o.shift 0 = o := rfl

theorem Occurrence.shift_shift (o : Occurrence) (m n : Nat) :
    (o.shift m).shift n = o.shift (m + n) := by
  simp [shift, Nat.add_assoc]

/-! ## Word boundaries -/

theorem allowsWord_append_of_ne_nil {s t : Text} (ht : t ≠ []) :
    AllowsWord (s ++ t) ↔ AllowsWord t := by
  rcases List.exists_cons_of_ne_nil ht with ⟨b, t', rfl⟩
  simp [AllowsWord, List.getLast?_append]

theorem allowsWord_take_add {t : Text} {p n : Nat} (hn : 0 < n) (hp : p < t.length) :
    AllowsWord (t.take (p + n)) ↔ AllowsWord ((t.drop p).take n) := by
  rw [List.take_add]
  refine allowsWord_append_of_ne_nil fun h => ?_
  have := congrArg List.length h
  simp only [List.length_take, List.length_drop, List.length_nil] at this
  omega

/-- An offset that does not stand inside a word. -/
def Resumable (t : Text) (p : Nat) : Prop := AllowsWord (t.take p) ∨ EndsWord (t.drop p)

theorem resumable_zero (t : Text) : Resumable t 0 := .inl (by simp [AllowsWord])

/-! ## Occurrences -/

/-- A shape occurs at `p`: it stands there, and no word goes on there. -/
def Occurs (shape : Text → Option Occurrence) (t : Text) (p : Nat) (o : Occurrence) : Prop :=
  AllowsWord (t.take p) ∧ ∃ o', shape (t.drop p) = some o' ∧ o = o'.shift p

/-- A shape that starts with a word and does not stop inside one. The only other word that may start
in it is its name. -/
structure Lawful (shape : Text → Option Occurrence) : Prop where
  head {t : Text} {o : Occurrence} : shape t = some o → ¬ EndsWord t
  offset_lt {t : Text} {o : Occurrence} : shape t = some o → o.offset < o.stop
  stop_le {t : Text} {o : Occurrence} : shape t = some o → o.stop ≤ t.length
  resumable {t : Text} {o : Occurrence} : shape t = some o → Resumable t o.stop
  eq_offset {t : Text} {o : Occurrence} {q : Nat} : shape t = some o → 0 < q → q < o.stop →
    AllowsWord (t.take q) → ¬ EndsWord (t.drop q) → q = o.offset

variable {shape : Text → Option Occurrence} {t : Text}

theorem Occurs.unique {p : Nat} {o o' : Occurrence} (h : Occurs shape t p o)
    (h' : Occurs shape t p o') : o = o' := by
  rcases h with ⟨-, a, ha, rfl⟩
  rcases h' with ⟨-, b, hb, rfl⟩
  rw [ha] at hb
  rw [Option.some.inj hb]

theorem Lawful.lt_length (hshape : Lawful shape) {p : Nat} {o : Occurrence}
    (h : shape (t.drop p) = some o) : p < t.length := by
  by_contra hp
  refine hshape.head h ?_
  rw [List.drop_eq_nil_of_le (Nat.le_of_not_lt hp)]
  simp [EndsWord]

/-- Where an occurrence lies: its name is inside it, and it does not stop inside a word. -/
theorem Occurs.bounds (hshape : Lawful shape) {p : Nat} {o : Occurrence}
    (h : Occurs shape t p o) :
    p ≤ o.offset ∧ o.offset < o.stop ∧ o.stop ≤ t.length ∧ Resumable t o.stop := by
  rcases h with ⟨-, o, ho, rfl⟩
  have hp := hshape.lt_length ho
  have hlt := hshape.offset_lt ho
  have hle := hshape.stop_le ho
  rw [List.length_drop] at hle
  simp only [Occurrence.shift]
  refine ⟨by omega, by omega, by omega, ?_⟩
  rw [Nat.add_comm o.stop p, Resumable, allowsWord_take_add (by omega) hp, ← List.drop_drop]
  exact hshape.resumable ho

theorem Occurs.eq_offset (hshape : Lawful shape) {p q : Nat} {o o' : Occurrence}
    (h : Occurs shape t p o) (h' : Occurs shape t q o') (hpq : p < q) (hq : q < o.stop) :
    q = o.offset := by
  rcases h with ⟨-, o, ho, rfl⟩
  rcases h' with ⟨hallows, o', ho', -⟩
  rcases Nat.exists_eq_add_of_le (Nat.le_of_lt hpq) with ⟨n, rfl⟩
  have hp := hshape.lt_length ho
  rw [allowsWord_take_add (by omega) hp] at hallows
  rw [← List.drop_drop] at ho'
  simp only [Occurrence.shift] at hq ⊢
  have := hshape.eq_offset ho (by omega) (by omega) hallows (hshape.head ho')
  omega

/-! ## The leftmost occurrence -/

/-- A search may match at `p`: no word goes on there, as far as it knows what stands before the
text. -/
def Free (inWord : Bool) (t : Text) : Nat → Prop
  | 0 => inWord = false
  | p + 1 => AllowsWord (t.take (p + 1))

theorem free_cons_succ (inWord : Bool) (b : UInt8) {t : Text} {p : Nat} (hp : p < t.length) :
    Free inWord (b :: t) (p + 1) ↔ Free (isWordByte b) t p := by
  cases p with
  | zero => simp [Free, AllowsWord]
  | succ p =>
    have := allowsWord_take_add (t := b :: t) (p := 1) (n := p + 1) (by omega) (by simp; omega)
    rw [Nat.add_comm 1] at this
    exact this

theorem eq_none_of_findFrom_eq_none {inWord : Bool} (h : findFrom shape inWord t = none) {p : Nat}
    (hp : p < t.length) (hfree : Free inWord t p) : shape (t.drop p) = none := by
  induction t generalizing inWord p with
  | nil => cases hp
  | cons b t ih =>
    unfold findFrom at h
    split at h
    · cases h
    next hnone =>
      cases p with
      | zero =>
        rw [show inWord = false from hfree] at hnone
        exact hnone
      | succ p =>
        have hp' : p < t.length := Nat.lt_of_succ_lt_succ hp
        exact ih (Option.map_eq_none_iff.mp h) hp' ((free_cons_succ inWord b hp').mp hfree)

/-- A search finds the leftmost place where it may match. -/
theorem exists_of_findFrom_eq_some {inWord : Bool} {o : Occurrence}
    (h : findFrom shape inWord t = some o) : ∃ p o', p < t.length ∧ Free inWord t p ∧
      shape (t.drop p) = some o' ∧ o = o'.shift p ∧
      ∀ q < p, Free inWord t q → shape (t.drop q) = none := by
  induction t generalizing inWord o with
  | nil => cases h
  | cons b t ih =>
    unfold findFrom at h
    split at h
    next o' hsome =>
      -- the shape stands at the front
      obtain rfl := Option.some.inj h
      split at hsome
      · cases hsome
      next hfree =>
        exact ⟨0, o', by simp, by simpa [Free] using hfree, hsome, o'.shift_zero.symm, by simp⟩
    next hnone =>
      rcases Option.map_eq_some_iff.mp h with ⟨o₁, ho₁, rfl⟩
      -- the shape stands further on, one byte to the right of where the rest has it
      rcases ih ho₁ with ⟨p, o', hp, hfree, ho', rfl, hleft⟩
      refine ⟨p + 1, o', by simpa using hp, (free_cons_succ inWord b hp).mpr hfree, ho',
        o'.shift_shift p 1, ?_⟩
      intro q hq hfree
      cases q with
      | zero =>
        rw [show inWord = false from hfree] at hnone
        exact hnone
      | succ q =>
        have hq' : q < p := Nat.lt_of_succ_lt_succ hq
        exact hleft q hq' ((free_cons_succ inWord b (hq'.trans hp)).mp hfree)

/-- Behind an offset that is not inside a word, a search of the rest of the text may match where the
whole text has a word boundary. -/
theorem Lawful.free_iff (hshape : Lawful shape) {pos p : Nat} (hpos : Resumable t pos)
    {o : Occurrence} (h : shape (t.drop (pos + p)) = some o) :
    Free false (t.drop pos) p ↔ AllowsWord (t.take (pos + p)) := by
  cases p with
  | succ p =>
    have hlt := hshape.lt_length h
    exact (allowsWord_take_add (Nat.succ_pos p) (by omega)).symm
  | zero =>
    refine iff_of_true rfl ?_
    rcases hpos with hallows | hends
    · exact hallows
    · exact absurd hends (hshape.head h)

theorem Lawful.not_occurs_of_find (hshape : Lawful shape) {pos : Nat} (hpos : Resumable t pos)
    (h : find shape (t.drop pos) = none) {p : Nat} (hp : pos ≤ p) (o : Occurrence) :
    ¬ Occurs shape t p o := by
  rintro ⟨hallows, o', ho', rfl⟩
  rcases Nat.exists_eq_add_of_le hp with ⟨n, rfl⟩
  have hlt := hshape.lt_length ho'
  have hnone := eq_none_of_findFrom_eq_none h (p := n) (by rw [List.length_drop]; omega)
    ((hshape.free_iff hpos ho').mpr hallows)
  rw [List.drop_drop, ho'] at hnone
  cases hnone

theorem Lawful.exists_occurs_of_find (hshape : Lawful shape) {pos : Nat} (hpos : Resumable t pos)
    {o : Occurrence} (h : find shape (t.drop pos) = some o) :
    ∃ p, pos ≤ p ∧ Occurs shape t p (o.shift pos) ∧
      ∀ q o', pos ≤ q → q < p → ¬ Occurs shape t q o' := by
  rcases exists_of_findFrom_eq_some h with ⟨n, o, -, hfree, ho, rfl, hleft⟩
  rw [List.drop_drop] at ho
  refine ⟨pos + n, by omega, ⟨(hshape.free_iff hpos ho).mp hfree, o, ho, ?_⟩, ?_⟩
  · rw [Occurrence.shift_shift, Nat.add_comm]
  · rintro q - hq hlt ⟨hallows, o', ho', -⟩
    rcases Nat.exists_eq_add_of_le hq with ⟨m, rfl⟩
    have hnone := hleft m (by omega) ((hshape.free_iff hpos ho').mpr hallows)
    rw [List.drop_drop, ho'] at hnone
    cases hnone

/-- No search stops where it starts, or behind the end of the text. -/
theorem Lawful.stop_of_find (hshape : Lawful shape) {o : Occurrence} (h : find shape t = some o) :
    0 < o.stop ∧ o.stop ≤ t.length := by
  rcases exists_of_findFrom_eq_some h with ⟨p, o, hp, -, ho, rfl, -⟩
  have hlt := hshape.offset_lt ho
  have hle := hshape.stop_le ho
  rw [List.length_drop] at hle
  simp only [Occurrence.shift]
  omega

/-! ## Sweeps -/

/-- The occurrences from `pos` on, left to right: each is the leftmost that starts at or after the
end of the one before. -/
inductive Sweep (shape : Text → Option Occurrence) (t : Text) : Nat → List Occurrence → Prop
  | done {pos : Nat} (hnone : ∀ p o, pos ≤ p → ¬ Occurs shape t p o) : Sweep shape t pos []
  | next {pos p : Nat} {o : Occurrence} {os : List Occurrence} (hp : pos ≤ p)
      (ho : Occurs shape t p o) (hleft : ∀ q o', pos ≤ q → q < p → ¬ Occurs shape t q o')
      (hrest : Sweep shape t o.stop os) : Sweep shape t pos (o :: os)

/-- A scan finds the occurrences of the sweep, at the cost of a check for each and one more. -/
theorem scanFrom_eq (hshape : Lawful shape) {pos : Nat} (hle : pos ≤ t.length)
    (hpos : Resumable t pos) : ∃ os, Sweep shape t pos os ∧
      ∀ c, scanFrom shape t pos c = (c.spend (os.length + 1)).map (os, ·) := by
  -- on what is left of the text: an occurrence stops after it starts
  induction hn : t.length - pos using Nat.strongRecOn generalizing pos with
  | ind n ih =>
  cases hfind : find shape (t.drop pos) with
  | none =>
    refine ⟨[], .done fun p o hp => hshape.not_occurs_of_find hpos hfind hp o, fun c => ?_⟩
    unfold scanFrom
    rw [if_pos hle]
    cases hpoll : c.poll <;> simp [Cancellation.spend, hpoll, hfind]
  | some o =>
    rcases hshape.exists_occurs_of_find hpos hfind with ⟨p, hp, ho, hleft⟩
    rcases ho.bounds hshape with ⟨hoff, hlt, hstop, hres⟩
    rcases ih (t.length - (o.shift pos).stop) (by omega) hstop hres rfl with ⟨os, hsweep, hscan⟩
    refine ⟨_, .next hp ho hleft hsweep, fun c => ?_⟩
    unfold scanFrom
    rw [if_pos hle]
    -- no occurrence is empty, so the scan resumes where it stops
    have hresume : (o.shift pos).resume pos = (o.shift pos).stop := if_neg (by omega)
    cases hpoll : c.poll with
    | none => simp [Cancellation.spend, hpoll]
    | some c' =>
      have hspend : c.spend (os.length + 1 + 1) = c'.spend (os.length + 1) := by
        simp [Cancellation.spend, hpoll]
      simp only [hfind, hresume, hscan, List.length_cons, hspend, Option.map_map]
      rfl

/-- What a scan finds does not depend on the checks, only whether it ends. -/
theorem exists_sweep_scan (hshape : Lawful shape) (t : Text) :
    ∃ os, Sweep shape t 0 os ∧ ∀ c, scan shape t c = (c.spend (os.length + 1)).map (os, ·) :=
  scanFrom_eq hshape (Nat.zero_le _) (resumable_zero t)

theorem scan_never (hshape : Lawful shape) (t : Text) :
    ∃ os, Sweep shape t 0 os ∧ scan shape t .never = some (os, .never) := by
  rcases exists_sweep_scan hshape t with ⟨os, hsweep, hscan⟩
  refine ⟨os, hsweep, ?_⟩
  rw [hscan, Cancellation.spend_never, Option.map_some]

namespace Sweep

variable {pos : Nat} {os : List Occurrence}

/-- An occurrence of a sweep starts behind the ones before it, and its name stands before the names
of the ones after it. -/
theorem exists_occurs (h : Sweep shape t pos os) (hshape : Lawful shape) {o : Occurrence}
    (ho : o ∈ os) : ∃ p, pos ≤ p ∧ Occurs shape t p o ∧
      ∀ o' ∈ os, o'.stop ≤ p ∨ o.offset ≤ o'.offset := by
  induction h generalizing o with
  | done => cases ho
  | @next pos p o₁ os hp hocc _ _ ih =>
    have hbounds := hocc.bounds hshape
    rcases List.mem_cons.mp ho with rfl | ho
    · -- every other occurrence starts where the first one stops, or later
      refine ⟨p, hp, hocc, fun o' ho' => .inr ?_⟩
      rcases List.mem_cons.mp ho' with rfl | ho'
      · exact le_refl _
      · rcases ih ho' with ⟨q, hq, hocc', -⟩
        have := hocc'.bounds hshape
        omega
    · rcases ih ho with ⟨q, hq, hocc', hapart⟩
      refine ⟨q, by omega, hocc', fun o' ho' => ?_⟩
      rcases List.mem_cons.mp ho' with rfl | ho'
      · exact .inl hq
      · exact hapart o' ho'

theorem pairwise (h : Sweep shape t pos os) (hshape : Lawful shape) :
    os.Pairwise (fun o o' => o.stop ≤ o'.offset) := by
  induction h with
  | done => exact .nil
  | next _ _ _ hrest ih =>
    refine .cons (fun o' ho' => ?_) ih
    rcases hrest.exists_occurs hshape ho' with ⟨q, hq, hocc, -⟩
    have := hocc.bounds hshape
    omega

/-- A sweep misses an occurrence only where it starts with the name of one that it has. -/
theorem mem_or_inside (h : Sweep shape t pos os) (hshape : Lawful shape) {q : Nat} {o : Occurrence}
    (hq : pos ≤ q) (ho : Occurs shape t q o) :
    o ∈ os ∨ ∃ o' ∈ os, ∃ p, Occurs shape t p o' ∧ p < q ∧ q = o'.offset := by
  induction h with
  | done hnone => exact absurd ho (hnone q o hq)
  | @next pos p o₁ os _ hocc hleft _ ih =>
    -- before the leftmost occurrence, at it, inside it, or behind it
    rcases Nat.lt_trichotomy q p with hlt | rfl | hgt
    · exact absurd ho (hleft q o hq hlt)
    · exact .inl (List.mem_cons.mpr (.inl (ho.unique hocc)))
    · rcases Nat.lt_or_ge q o₁.stop with hin | hout
      · exact .inr ⟨o₁, List.mem_cons_self, p, hocc, hgt, hocc.eq_offset hshape ho hgt hin⟩
      · rcases ih hout with hmem | ⟨o', ho', p', h'⟩
        · exact .inl (List.mem_cons_of_mem _ hmem)
        · exact .inr ⟨o', List.mem_cons_of_mem _ ho', p', h'⟩

end Sweep

end Script

end CallLight
