import CallLight.Proofs.Token.Data

/-!
# Building in between

A builder can be asked for its data at any time, and tokens can be pushed after that. It then holds
tokens that were sorted when it was asked, followed by new ones. What it answers next is what it
would have answered without being asked before (`Builder.build_in_schedule`), because sorting keeps
the tokens of one place in the order in which they were pushed (`Entry.Rearranged`), and that order
together with document order leaves no choice (`Entry.StablySorted.unique`).
-/

namespace CallLight

/-! ## Stable sorting -/

namespace Entry

/-- The entry stands at a place. -/
def standsAt (line character : UInt32) (e : Entry) : Bool :=
  e.line == line && e.character == character

/-- The same entries in some order, where those at one place keep theirs. -/
structure Rearranged (es es' : List Entry) : Prop where
  perm : es'.Perm es
  at_place : ∀ line character,
    es'.filter (standsAt line character) = es.filter (standsAt line character)

/-- The entries in document order, where those at one place keep their order. -/
structure StablySorted (es sorted : List Entry) : Prop extends Rearranged es sorted where
  in_order : sorted.Pairwise (·.notAfter ·)

theorem standsAt_self (e : Entry) : e.standsAt e.line e.character = true := by
  simp [standsAt]

theorem notAfter_of_standsAt {a b : Entry} {line character : UInt32}
    (ha : a.standsAt line character = true) (hb : b.standsAt line character = true) :
    a.notAfter b = true := by
  simp only [standsAt, Bool.and_eq_true, beq_iff_eq] at ha hb
  rw [notAfter_iff_toNat, ha.1, ha.2, hb.1, hb.2]
  omega

/-- Entries that are not after each other stand at one place. -/
theorem standsAt_of_notAfter {a b : Entry} (hab : a.notAfter b = true)
    (hba : b.notAfter a = true) : b.standsAt a.line a.character = true := by
  rw [notAfter_iff_toNat] at hab hba
  simp only [standsAt, Bool.and_eq_true, beq_iff_eq, ← UInt32.toNat_inj]
  omega

theorem Rearranged.refl (es : List Entry) : Rearranged es es :=
  ⟨.refl es, fun _ _ => rfl⟩

theorem Rearranged.trans {es es' es'' : List Entry} (h : Rearranged es es')
    (h' : Rearranged es' es'') : Rearranged es es'' where
  perm := h'.perm.trans h.perm
  at_place line character := (h'.at_place line character).trans (h.at_place line character)

theorem Rearranged.append {es es' : List Entry} (h : Rearranged es es') (fs : List Entry) :
    Rearranged (es ++ fs) (es' ++ fs) where
  perm := h.perm.append_right fs
  at_place line character := by
    rw [List.filter_append, List.filter_append, h.at_place]

theorem stablySorted_mergeSort (es : List Entry) : StablySorted es (es.mergeSort notAfter) where
  perm := List.mergeSort_perm es notAfter
  at_place line character := by
    -- the entries of one place are in order as they are, so that sorting keeps them as a sublist
    have hplace : (es.filter (standsAt line character)).Pairwise (·.notAfter ·) :=
      List.pairwise_of_forall_mem_list fun a ha b hb =>
        notAfter_of_standsAt (List.mem_filter.mp ha).2 (List.mem_filter.mp hb).2
    have hsub : (es.filter (standsAt line character)).Sublist (es.mergeSort notAfter) :=
      List.sublist_mergeSort notAfter_trans notAfter_total hplace List.filter_sublist
    have hsub' := hsub.filter (standsAt line character)
    rw [List.filter_filter] at hsub'
    simp only [Bool.and_self] at hsub'
    -- and there are no more of them afterwards
    have hlen := ((List.mergeSort_perm es notAfter).filter (standsAt line character)).length_eq
    exact (hsub'.eq_of_length hlen.symm).symm
  in_order := List.pairwise_mergeSort notAfter_trans notAfter_total es

/-- Entries in order that have the entry `b` among them, at its place, do not start after it. -/
theorem head_notAfter {a b : Entry} {es fs : List Entry}
    (hes : (a :: es).Pairwise (·.notAfter ·))
    (hplace : (a :: es).filter (standsAt b.line b.character) =
      (b :: fs).filter (standsAt b.line b.character)) : a.notAfter b = true := by
  rw [List.filter_cons_of_pos b.standsAt_self] at hplace
  have hmem : b ∈ a :: es := by
    have : b ∈ (a :: es).filter (standsAt b.line b.character) := by simp [hplace]
    exact (List.mem_filter.mp this).1
  rcases List.mem_cons.mp hmem with rfl | hmem
  · exact notAfter_of_standsAt b.standsAt_self b.standsAt_self
  · exact List.rel_of_pairwise_cons hes hmem

/-- Lists in document order that agree at each place are equal. -/
theorem eq_of_pairwise_of_at_place {es fs : List Entry} (hes : es.Pairwise (·.notAfter ·))
    (hfs : fs.Pairwise (·.notAfter ·))
    (hplace : ∀ line character,
      es.filter (standsAt line character) = fs.filter (standsAt line character)) : es = fs := by
  induction es generalizing fs with
  | nil =>
    rcases fs with _ | ⟨b, fs⟩
    · rfl
    · have := hplace b.line b.character
      rw [List.filter_cons_of_pos b.standsAt_self] at this
      cases this
  | cons a es ih =>
    rcases fs with _ | ⟨b, fs⟩
    · have := hplace a.line a.character
      rw [List.filter_cons_of_pos a.standsAt_self] at this
      cases this
    -- the first entries stand at one place, and are the first ones of that place
    have hab := head_notAfter hes (hplace b.line b.character)
    have hba := head_notAfter hfs (hplace a.line a.character).symm
    have hfirst := hplace a.line a.character
    rw [List.filter_cons_of_pos a.standsAt_self,
      List.filter_cons_of_pos (standsAt_of_notAfter hab hba), List.cons.injEq] at hfirst
    obtain rfl := hfirst.1
    rw [ih hes.of_cons hfs.of_cons]
    intro line character
    have hrest := hplace line character
    rw [List.filter_cons, List.filter_cons] at hrest
    split at hrest
    · exact (List.cons.inj hrest).2
    · exact hrest

/-- There is one stable sort. -/
theorem StablySorted.unique {es sorted sorted' : List Entry} (h : StablySorted es sorted)
    (h' : StablySorted es sorted') : sorted = sorted' :=
  eq_of_pairwise_of_at_place h.in_order h'.in_order fun line character =>
    (h.at_place line character).trans (h'.at_place line character).symm

theorem Rearranged.stablySorted {es es' sorted : List Entry} (h : Rearranged es es')
    (h' : StablySorted es' sorted) : StablySorted es sorted :=
  ⟨h.trans h'.toRearranged, h'.in_order⟩

end Entry

/-! ## Differences -/

/-- The numbers of marks that follow a token at `line` and `character`, as differences of
integers. -/
def Mark.differences (line character : Int) : List Mark → List Int
  | [] => []
  | m :: rest =>
    (m.line - line) :: (if m.line = line then m.character - character else m.character) ::
      m.length :: m.type :: m.modifiers :: differences m.line m.character rest

/-- In document order no number wraps around. -/
theorem map_deltas {line character : UInt32} {es : List Entry}
    (hfrom : ∀ e ∈ es, e.AtOrAfter line character) (hsorted : es.Pairwise (·.notAfter ·)) :
    (deltas line character es).map (fun n => (n.toNat : Int)) =
      Mark.differences line.toNat character.toNat (es.map Entry.mark) := by
  induction hsorted generalizing line character with
  | nil => rfl
  | @cons e es he _ ih =>
    rcases toNat_delta (hfrom e (by simp)) with ⟨hline, hcharacter⟩
    have hrest := ih fun e' he' => Entry.notAfter_iff.mp (he e' he')
    simp only [deltas, List.map_cons, Mark.differences, hline, hcharacter, hrest]
    rfl

/-! ## Schedules -/

namespace Builder

/-- What can be asked of a builder. -/
inductive Call where
  | push (e : Entry)
  | size
  | build
deriving DecidableEq, Repr

/-- What a builder answers. -/
inductive Answer where
  | done
  | size (n : Nat)
  | data (numbers : List UInt32)
deriving DecidableEq, Repr

namespace Call

/-- The token that a call pushes. -/
def entry? : Call → Option Entry
  | .push e => some e
  | _ => none

/-- What a call answers, and the builder after it. -/
def perform (b : Builder) : Call → Answer × Builder
  | .push e => (.done, b.push e)
  | .size => (.size b.size, b)
  | .build => (.data b.build.1, b.build.2)

end Call

/-- The builder after some calls. -/
def after (b : Builder) (calls : List Call) : Builder :=
  calls.foldl (fun b call => (call.perform b).2) b

/-- What calls answer, one after the other. -/
def answers (b : Builder) : List Call → List Answer
  | [] => []
  | call :: calls => (call.perform b).1 :: answers (call.perform b).2 calls

/-- The tokens that calls push, in the order of the calls. -/
def pushed (calls : List Call) : List Entry := calls.filterMap Call.entry?

theorem after_cons (b : Builder) (call : Call) (calls : List Call) :
    b.after (call :: calls) = (call.perform b).2.after calls := rfl

/-- A call in the middle is answered by the builder after the calls before it. -/
theorem getElem?_answers (b : Builder) (before : List Call) (call : Call) (rest : List Call) :
    (b.answers (before ++ call :: rest))[before.length]? =
      some (call.perform (b.after before)).1 := by
  induction before generalizing b with
  | nil => rfl
  | cons first before ih =>
    rw [List.cons_append, answers, List.length_cons, List.getElem?_cons_succ, ih, after_cons]

/-- One call keeps the tokens, and adds what it pushes behind them. -/
theorem rearranged_perform {es : List Entry} {b : Builder} (h : Entry.Rearranged es b.entries)
    (call : Call) :
    Entry.Rearranged (es ++ call.entry?.toList) (call.perform b).2.entries := by
  cases call with
  | push e => exact h.append [e]
  | size =>
    change Entry.Rearranged (es ++ []) b.entries
    rwa [List.append_nil]
  | build =>
    change Entry.Rearranged (es ++ []) b.sort.entries
    rw [List.append_nil, entries_sort]
    exact h.trans (Entry.stablySorted_mergeSort b.entries).toRearranged

/-- A builder holds what was pushed, at each place in the order of the pushes. -/
theorem rearranged_after {es : List Entry} {b : Builder} (h : Entry.Rearranged es b.entries)
    (calls : List Call) : Entry.Rearranged (es ++ pushed calls) (b.after calls).entries := by
  induction calls generalizing es b with
  | nil =>
    change Entry.Rearranged (es ++ []) b.entries
    rwa [List.append_nil]
  | cons call calls ih =>
    have hstep := ih (rearranged_perform h call)
    have hpushed : pushed (call :: calls) = call.entry?.toList ++ pushed calls := by
      cases call <;> rfl
    rwa [List.append_assoc, ← hpushed] at hstep

/-- The data after any calls are those of the stable sort of what was pushed. -/
theorem exists_build_after (calls : List Call) : ∃ sorted,
    Entry.StablySorted (pushed calls) sorted ∧ (empty.after calls).build.1 = deltas 0 0 sorted :=
  have h : Entry.Rearranged (pushed calls) (empty.after calls).entries :=
    rearranged_after (b := empty) (.refl []) calls
  ⟨_, h.stablySorted (Entry.stablySorted_mergeSort _), build_data _⟩

theorem pushed_filter_ne_build (calls : List Call) :
    pushed (calls.filter (· ≠ .build)) = pushed calls := by
  rw [pushed, List.filterMap_filter]
  refine List.filterMap_congr fun call _ => ?_
  cases call <;> rfl

/-- Whenever a builder is asked for its data, and whatever was asked before: the editor reads all
tokens that were pushed so far, stably sorted; the numbers are true differences; and they are the
numbers that the builder would give if it had not been asked for data before. -/
theorem build_in_schedule (before rest : List Call) : ∃ data sorted,
    (empty.answers (before ++ .build :: rest))[before.length]? = some (.data data) ∧
    Entry.StablySorted (pushed before) sorted ∧
    Mark.decode data = sorted.map Entry.mark ∧
    data.map (fun n => (n.toNat : Int)) = Mark.differences 0 0 (sorted.map Entry.mark) ∧
    (empty.after (before.filter (· ≠ .build))).build.1 = data := by
  rcases exists_build_after before with ⟨sorted, hsorted, hdata⟩
  rcases exists_build_after (before.filter (· ≠ .build)) with ⟨sorted', hsorted', hdata'⟩
  rw [pushed_filter_ne_build] at hsorted'
  obtain rfl := hsorted.unique hsorted'
  refine ⟨deltas 0 0 sorted, sorted, ?_, hsorted, decode_deltas hsorted.in_order,
    map_deltas (fun e _ => e.atOrAfter_zero) hsorted.in_order, hdata'⟩
  rw [getElem?_answers, ← hdata]
  rfl

end Builder

end CallLight
