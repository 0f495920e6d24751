import Mathlib.Data.Set.Card
import CallLight.Proofs.Script.Calls
import CallLight.Proofs.Script.Declarations

/-!
# What the passes cost

Each pass makes a check for every occurrence that it finds and one more, whether the occurrence
counts or not. So it depends on two numbers alone when a search that is called off comes to an end,
the declared offsets and the offsets of calls, and on the first of them in which pass (`tokens_eq`,
`tokens_called_off_iff`). A search that ends has all tokens; there is no part of an answer.
-/

namespace CallLight

/-- Of `n` checks, `k` can be passed if there are as many. -/
theorem Cancellation.spend_after (k n : Nat) :
    (after n).spend k = if k ≤ n then some (after (n - k)) else none := by
  induction k generalizing n with
  | zero => rfl
  | succ k ih =>
    cases n with
    | zero => rfl
    | succ n =>
      have hstep : (after (n + 1)).spend (k + 1) = (after n).spend k := rfl
      rw [hstep, ih, Nat.add_sub_add_right]
      simp only [Nat.add_le_add_iff_right]

namespace Script

/-- The offsets of the declared names of a text. -/
def declaredOffsets (t : Text) : Set Nat := {o | ∃ offsets, DeclaredAt t offsets ∧ offsets o}

/-- The offsets of the calls of a text, whether the names are declared or not. -/
def callOffsets (t : Text) : Set Nat := {o | ∃ w, CallSite t o w}

/-! ## Counting occurrences -/

theorem Sweep.nodup_offset {shape : Text → Option Occurrence} {t : Text} {pos : Nat}
    {os : List Occurrence} (hsweep : Sweep shape t pos os) (hshape : Lawful shape) :
    (os.map Occurrence.offset).Nodup := by
  refine List.pairwise_map.mpr ((hsweep.pairwise hshape).imp_of_mem fun {o o'} ho _ hle => ?_)
  rcases hsweep.exists_occurs hshape ho with ⟨p, -, hocc, -⟩
  have := hocc.bounds hshape
  omega

theorem ncard_eq_length {s : Set Nat} {l : List Nat} (hl : l.Nodup) (h : ∀ o, o ∈ s ↔ o ∈ l) :
    s.ncard = l.length := by
  have hs : s = l.toFinset := by
    ext o
    rw [h, Finset.mem_coe, List.mem_toFinset]
  rw [hs, Set.ncard_coe_finset, List.toFinset_card_of_nodup hl]

theorem Sweep.mem_declaredOffsets_iff {t : Text} {os : List Occurrence}
    (hsweep : Sweep declarationAt? t 0 os) {o : Nat} :
    o ∈ declaredOffsets t ↔ o ∈ os.map Occurrence.offset := by
  constructor
  · rintro ⟨offsets, hoffsets, ho⟩
    exact (hoffsets.unique hsweep.declaredAt o).mp ho
  · intro ho
    exact ⟨_, hsweep.declaredAt, ho⟩

theorem Sweep.ncard_declaredOffsets {t : Text} {os : List Occurrence}
    (hsweep : Sweep declarationAt? t 0 os) : (declaredOffsets t).ncard = os.length := by
  rw [ncard_eq_length (hsweep.nodup_offset declarationAt?_lawful) fun o =>
    hsweep.mem_declaredOffsets_iff, List.length_map]

theorem Sweep.ncard_callOffsets {t : Text} {os : List Occurrence} (hsweep : Sweep callAt? t 0 os) :
    (callOffsets t).ncard = os.length := by
  rw [ncard_eq_length (hsweep.nodup_offset callAt?_lawful), List.length_map]
  intro o
  rw [List.mem_map]
  constructor
  · rintro ⟨w, hsite⟩
    rcases hsite.exists_occurs with ⟨occ, hocc, hoff, -⟩
    exact ⟨occ, hsweep.mem_of_occurs_call hocc, hoff⟩
  · rintro ⟨occ, hmem, rfl⟩
    rcases hsweep.exists_occurs callAt?_lawful hmem with ⟨p, -, hocc, -⟩
    exact ⟨occ.name, hocc.callSite.1⟩

/-! ## The passes -/

theorem exists_collectDefinitions (t : Text) : ∃ d, ∀ c, collectDefinitions t c =
    match c.spend ((declaredOffsets t).ncard + 1) with
    | none => .error ⟨.definitions⟩
    | some c => .ok (d, c) := by
  rcases exists_sweep_scan declarationAt?_lawful t with ⟨os, hsweep, hscan⟩
  refine ⟨⟨os.map (·.name), os.map (·.offset)⟩, fun c => ?_⟩
  rw [collectDefinitions, hscan, hsweep.ncard_declaredOffsets]
  cases c.spend (os.length + 1) <;> rfl

theorem exists_locateCalls (t : Text) (d : Definitions) : ∃ toks, ∀ c, locateCalls t d c =
    match c.spend ((callOffsets t).ncard + 1) with
    | none => .error ⟨.calls⟩
    | some c => .ok (toks, c) := by
  rcases exists_sweep_scan callAt?_lawful t with ⟨os, hsweep, hscan⟩
  refine ⟨(os.filter d.isCall).map (·.token), fun c => ?_⟩
  rw [locateCalls, hscan, hsweep.ncard_callOffsets]
  cases c.spend (os.length + 1) <;> rfl

/-- A search ends in the pass in which the checks run out, or with all tokens. -/
theorem tokens_eq (t : Text) : ∃ toks, ∀ c, tokens t c =
    match c.spend ((declaredOffsets t).ncard + 1) with
    | none => .error ⟨.definitions⟩
    | some c =>
      match c.spend ((callOffsets t).ncard + 1) with
      | none => .error ⟨.calls⟩
      | some c => .ok (toks, c) := by
  rcases exists_collectDefinitions t with ⟨d, hcollect⟩
  rcases exists_locateCalls t d with ⟨toks, hlocate⟩
  refine ⟨toks, fun c => ?_⟩
  rw [tokens, hcollect]
  cases c.spend ((declaredOffsets t).ncard + 1) with
  | none => rfl
  | some c => exact hlocate c

/-- What comes of a search that is called off after `n` checks. -/
theorem exists_tokens_after_eq (t : Text) : ∃ toks, tokens t .never = .ok (toks, .never) ∧ ∀ n,
    let declared := (declaredOffsets t).ncard
    let calls := (callOffsets t).ncard
    tokens t (.after n) =
      if n ≤ declared then .error ⟨.definitions⟩
      else if n ≤ declared + calls + 1 then .error ⟨.calls⟩
      else .ok (toks, .after (n - (declared + 1) - (calls + 1))) := by
  rcases tokens_eq t with ⟨toks, htokens⟩
  refine ⟨toks, ?_, ?_⟩
  · simp only [htokens, Cancellation.spend_never]
  intro n declared calls
  rw [htokens, Cancellation.spend_after]
  by_cases hd : n ≤ declared
  · rw [if_neg (by omega), if_pos hd]
  rw [if_pos (by omega), if_neg hd]
  dsimp only
  rw [Cancellation.spend_after]
  -- the second pass has what the first one left
  by_cases hc : n ≤ declared + calls + 1
  · rw [if_neg (by omega), if_pos hc]
  · rw [if_pos (by omega), if_neg hc]

/-- A search that is called off after `n` checks ends without tokens, if it needs more, and
otherwise with the tokens of a search that is not called off. -/
theorem exists_tokens_after (t : Text) : ∃ toks, tokens t .never = .ok (toks, .never) ∧ ∀ n,
    (n < (declaredOffsets t).ncard + (callOffsets t).ncard + 2 →
      ∃ e, tokens t (.after n) = .error e) ∧
    ((declaredOffsets t).ncard + (callOffsets t).ncard + 2 ≤ n →
      ∃ c, tokens t (.after n) = .ok (toks, c)) := by
  rcases exists_tokens_after_eq t with ⟨toks, hnever, hafter⟩
  refine ⟨toks, hnever, fun n => ⟨fun hn => ?_, fun hn => ?_⟩⟩
  · rw [hafter]
    split
    · exact ⟨_, rfl⟩
    · rw [if_pos (by omega)]
      exact ⟨_, rfl⟩
  · rw [hafter, if_neg (by omega), if_neg (by omega)]
    exact ⟨_, rfl⟩

/-- The first pass records each declared offset once. -/
theorem exists_definitions (t : Text) : ∃ d, collectDefinitions t .never = .ok (d, .never) ∧
    d.offsets.Nodup ∧ d.offsets.length = (declaredOffsets t).ncard := by
  rcases exists_sweep_collectDefinitions t with ⟨os, hsweep, hcollect⟩
  refine ⟨_, hcollect, hsweep.nodup_offset declarationAt?_lawful, ?_⟩
  rw [List.length_map, hsweep.ncard_declaredOffsets]

/-- How many checks a search has to pass, exactly. With as many as there are declared offsets, or
fewer, it fails in the first pass; with more, but not two more than there are declared offsets and
calls together, it fails in the second; and with all of them it has the tokens of a search that is
not called off. A search that fails has no tokens. -/
theorem tokens_called_off_iff (t : Text) : ∃ d toks,
    collectDefinitions t .never = .ok (d, .never) ∧ d.offsets.Nodup ∧
    tokens t .never = .ok (toks, .never) ∧
    ∀ n,
      let outcome := (tokens t (.after n)).mapError Canceled.generating
      let declared := d.offsets.length
      let calls := (callOffsets t).ncard
      (outcome =
          .error "generating semantic tokens: collecting procedure definitions: context canceled" ↔
        n ≤ declared) ∧
      (outcome =
          .error "generating semantic tokens: locating procedure calls: context canceled" ↔
        declared + 1 ≤ n ∧ n ≤ declared + calls + 1) ∧
      ((∃ c, tokens t (.after n) = .ok (toks, c)) ↔ declared + calls + 2 ≤ n) := by
  rcases exists_definitions t with ⟨d, hcollect, hnodup, hdeclared⟩
  rcases exists_tokens_after_eq t with ⟨toks, hnever, hafter⟩
  refine ⟨d, toks, hcollect, hnodup, hnever, ?_⟩
  intro n outcome declared calls
  have htokens : tokens t (.after n) = if n ≤ declared then .error ⟨.definitions⟩
      else if n ≤ declared + calls + 1 then .error ⟨.calls⟩
      else .ok (toks, .after (n - (declared + 1) - (calls + 1))) := by
    rw [hafter, ← hdeclared]
  by_cases hd : n ≤ declared
  · rw [if_pos hd] at htokens
    have houtcome : outcome = .error
        "generating semantic tokens: collecting procedure definitions: context canceled" :=
      congrArg (Except.mapError Canceled.generating) htokens
    rw [houtcome, htokens]
    exact ⟨iff_of_true rfl hd, iff_of_false (by simp) (by omega), iff_of_false (by simp) (by omega)⟩
  rw [if_neg hd] at htokens
  by_cases hc : n ≤ declared + calls + 1
  · rw [if_pos hc] at htokens
    have houtcome : outcome = .error
        "generating semantic tokens: locating procedure calls: context canceled" :=
      congrArg (Except.mapError Canceled.generating) htokens
    rw [houtcome, htokens]
    exact ⟨iff_of_false (by simp) hd, iff_of_true rfl (by omega), iff_of_false (by simp) (by omega)⟩
  · rw [if_neg hc] at htokens
    have houtcome : outcome = .ok (toks, .after (n - (declared + 1) - (calls + 1))) :=
      congrArg (Except.mapError Canceled.generating) htokens
    rw [houtcome, htokens]
    exact ⟨iff_of_false (by simp) hd, iff_of_false (by simp) (by omega),
      iff_of_true ⟨_, rfl⟩ (by omega)⟩

-- one declaration and one call: two checks for the first pass and two for the second
example :
    let t : Text := keyword ++ [32, 102, 10, 102, 40]
    tokens t (.after 1) = .error ⟨.definitions⟩ ∧ tokens t (.after 2) = .error ⟨.calls⟩ ∧
    tokens t (.after 3) = .error ⟨.calls⟩ ∧
    tokens t (.after 4) = .ok ([⟨.function, .declaration, ⟨7, [102]⟩⟩], .after 0) := by
  decide +kernel

end Script

end CallLight
