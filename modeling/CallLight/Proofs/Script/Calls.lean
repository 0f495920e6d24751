import CallLight.Proofs.Script.Sweep
import CallLight.Script.Tokens

/-!
# The calls of a text

What the second pass finds, said without the pass: a call site is a whole word that is a name,
followed by blanks, if any, and an opening parenthesis. Sites never overlap, so the sweep has them
all, and the pass has one token for each site whose name is declared and that is not itself a
declaration (`locateCalls_sound_and_complete`).
-/

namespace CallLight.Script

/-- The name `w` stands at `o` as a whole word, and blanks and an opening parenthesis follow it. -/
def CallSite (t : Text) (o : Nat) (w : Text) : Prop :=
  ∃ before after, WholeWord t before w after ∧ before.length = o ∧ IsName w ∧
    ∃ blank rest, IsBlank blank ∧ after = blank ++ 40 :: rest

/-! ## The shape -/

theorem not_isWordByte_of_mem_blank_paren {blank : Text} (hblank : IsBlank blank) {b : UInt8}
    (hb : b ∈ blank ++ [40]) : isWordByte b = false := by
  rcases List.mem_append.mp hb with hb | hb
  · exact not_isWordByte_of_mem_blank hblank hb
  · obtain rfl := List.mem_singleton.mp hb
    decide

theorem callAt?_lawful : Lawful callAt? where
  head h := by
    rcases callAt?_eq_some_iff.mp h with ⟨w, blank, rest, rfl, hw, -⟩
    exact hw.not_endsWord_append _
  offset_lt h := by
    rcases callAt?_eq_some_iff.mp h with ⟨w, blank, rest, -, -, -, rfl⟩
    exact Nat.succ_pos _
  stop_le h := by
    rcases callAt?_eq_some_iff.mp h with ⟨w, blank, rest, rfl, -, -, rfl⟩
    simp only [List.length_append, List.length_cons]
    omega
  resumable h := by
    -- the parenthesis is behind, so a word may start
    rcases callAt?_eq_some_iff.mp h with ⟨w, blank, rest, rfl, -, -, rfl⟩
    left
    have hsplit : w ++ (blank ++ 40 :: rest) = (w ++ blank ++ [40]) ++ rest := by simp
    rw [hsplit, List.take_left' (by simp [Nat.add_assoc])]
    intro b hb
    obtain rfl : 40 = b := by simpa using hb
    decide
  eq_offset {t o q} h hpos hlt hallows hword := by
    -- up to the end of the name a word goes on, and in the blanks none starts
    rcases callAt?_eq_some_iff.mp h with ⟨w, blank, rest, rfl, hw, hblank, rfl⟩
    exfalso
    rcases Nat.lt_or_ge w.length q with hq | hq
    · have hgap : w ++ (blank ++ 40 :: rest) = w ++ ((blank ++ [40]) ++ rest) := by simp
      rw [hgap] at hword
      refine hword (endsWord_inside (fun b => not_isWordByte_of_mem_blank_paren hblank) hq.le ?_)
      simp only [List.length_append, List.length_singleton]
      omega
    · exact not_allowsWord_inside (s := []) hw.isWordByte hpos (by simpa using hq) hallows

theorem Occurs.callSite {t : Text} {p : Nat} {o : Occurrence} (h : Occurs callAt? t p o) :
    CallSite t o.offset o.name ∧ o.offset = p ∧ o.offset + o.name.length < o.stop := by
  rcases h with ⟨hallows, o, ho, rfl⟩
  have hp := callAt?_lawful.lt_length ho
  rcases callAt?_eq_some_iff.mp ho with ⟨w, blank, rest, hdrop, hw, hblank, rfl⟩
  simp only [Occurrence.shift, Nat.zero_add, true_and]
  refine ⟨⟨t.take p, blank ++ 40 :: rest, ⟨?_, hw.ne_nil, hw.isWordByte, hallows, ?_⟩, ?_, hw,
    blank, rest, hblank, rfl⟩, by omega⟩
  · rw [← hdrop, List.take_append_drop]
  · exact .of_blank hblank (endsWord_paren rest)
  · rw [List.length_take, Nat.min_eq_left hp.le]

theorem CallSite.exists_occurs {t : Text} {o : Nat} {w : Text} (h : CallSite t o w) :
    ∃ occ, Occurs callAt? t o occ ∧ occ.offset = o ∧ occ.name = w := by
  rcases h with ⟨before, _, ⟨rfl, -, -, hallows, -⟩, rfl, hw, blank, rest, hblank, rfl⟩
  have hcall := callAt?_eq_some_iff.mpr ⟨w, blank, rest, rfl, hw, hblank, rfl⟩
  refine ⟨_, ⟨by rwa [List.take_left], _, by rwa [List.drop_left], rfl⟩, ?_, rfl⟩
  exact Nat.zero_add _

/-! ## The pass -/

/-- A sweep for calls misses none: the only word that starts in a call is the called name. -/
theorem Sweep.mem_of_occurs_call {t : Text} {os : List Occurrence} (hsweep : Sweep callAt? t 0 os)
    {p : Nat} {o : Occurrence} (ho : Occurs callAt? t p o) : o ∈ os := by
  rcases hsweep.mem_or_inside callAt?_lawful (Nat.zero_le _) ho with
    hmem | ⟨o', -, q, ho', hlt, rfl⟩
  · exact hmem
  · have := ho'.callSite.2.1
    omega

theorem Sweep.pairwise_call {t : Text} {os : List Occurrence} (hsweep : Sweep callAt? t 0 os) :
    os.Pairwise (fun o o' => o.offset + o.name.length < o'.offset) := by
  refine (hsweep.pairwise callAt?_lawful).imp_of_mem fun {o o'} ho _ hle => ?_
  rcases hsweep.exists_occurs callAt?_lawful ho with ⟨p, -, hocc, -⟩
  have := hocc.callSite.2.2
  omega

theorem Definitions.isCall_iff {d : Definitions} {o : Occurrence} :
    d.isCall o = true ↔ o.name ∈ d.names ∧ o.offset ∉ d.offsets := by
  simp [isCall]

section Tokens

variable {t : Text} {os : List Occurrence} (hsweep : Sweep callAt? t 0 os) (d : Definitions)
include hsweep

/-- No token touches the one after it: at least the parenthesis stands between them. -/
theorem Sweep.pairwise_token : ((os.filter d.isCall).map Occurrence.token).Pairwise
    (fun a b : Token => a.span.offset + a.span.text.length < b.span.offset) := by
  refine List.pairwise_map.mpr ((hsweep.pairwise_call.filter _).imp fun {o o'} hlt => ?_)
  simp only [Occurrence.token]
  omega

theorem Sweep.mem_token_iff {tok : Token} : tok ∈ (os.filter d.isCall).map Occurrence.token ↔
    ∃ (o : Nat) (w : Text), tok = ⟨.function, .declaration, ⟨o, w⟩⟩ ∧ CallSite t o w ∧
      w ∈ d.names ∧ o ∉ d.offsets := by
  rw [List.mem_map]
  constructor
  · rintro ⟨o, ho, rfl⟩
    rcases List.mem_filter.mp ho with ⟨hmem, hcall⟩
    rcases hsweep.exists_occurs callAt?_lawful hmem with ⟨p, -, hocc, -⟩
    exact ⟨o.offset, o.name, rfl, hocc.callSite.1, Definitions.isCall_iff.mp hcall⟩
  · rintro ⟨_, _, rfl, hsite, hcall⟩
    rcases hsite.exists_occurs with ⟨o, hocc, rfl, rfl⟩
    have hmem := hsweep.mem_of_occurs_call hocc
    exact ⟨o, List.mem_filter.mpr ⟨hmem, Definitions.isCall_iff.mpr hcall⟩, rfl⟩

end Tokens

theorem exists_sweep_locateCalls (t : Text) (d : Definitions) : ∃ os, Sweep callAt? t 0 os ∧
    locateCalls t d .never = .ok ((os.filter d.isCall).map Occurrence.token, .never) := by
  rcases scan_never callAt?_lawful t with ⟨os, hsweep, hscan⟩
  exact ⟨os, hsweep, by rw [locateCalls, hscan]⟩

/-- The second pass has a token for each call of something declared and for nothing else, in the
order of the text. -/
theorem locateCalls_sound_and_complete (t : Text) (d : Definitions) :
    ∃ ts, locateCalls t d .never = .ok (ts, .never) ∧
      ts.Pairwise (fun a b => a.span.offset < b.span.offset) ∧
      ∀ tok, tok ∈ ts ↔ ∃ (o : Nat) (w : Text),
        tok = ⟨.function, .declaration, ⟨o, w⟩⟩ ∧ CallSite t o w ∧ w ∈ d.names ∧ o ∉ d.offsets := by
  rcases exists_sweep_locateCalls t d with ⟨os, hsweep, hlocate⟩
  refine ⟨_, hlocate, (hsweep.pairwise_token d).imp fun {a b} hlt => ?_,
    fun tok => hsweep.mem_token_iff d⟩
  omega

end CallLight.Script
