import CallLight.Proofs.Script.Sweep
import CallLight.Script.Tokens

/-!
# The declarations of a text

What the first pass collects, said without the pass. A declaration site is the keyword, blanks and a
name. Since each declaration takes its name with it, a `proc` that is itself a declared name
declares nothing: whether a site counts depends on the words before it, as far back as the chain of
`proc`s goes. `DeclaredAt` says this as an equation that has one solution (`DeclaredAt.unique`), and
the pass finds it (`collectDefinitions_declaredAt`).
-/

namespace CallLight.Script

/-- The name `w` stands at `o` as a whole word, after blanks and the keyword, which stands at
`q`. -/
def DeclarationSite (t : Text) (q o : Nat) (w : Text) : Prop :=
  ∃ before after, WholeWord t before w after ∧ before.length = o ∧ IsName w ∧
    ∃ lead blank, before = lead ++ (keyword ++ blank) ∧ lead.length = q ∧ AllowsWord lead ∧
      blank ≠ [] ∧ IsBlank blank

/-- The offsets of the declared names: where a name follows a keyword that is not itself a declared
name. -/
def DeclaredAt (t : Text) (offsets : Nat → Prop) : Prop :=
  ∀ o, offsets o ↔ ∃ q w, DeclarationSite t q o w ∧ ¬ offsets q

theorem DeclarationSite.lt {t : Text} {q o : Nat} {w : Text} (h : DeclarationSite t q o w) :
    q < o := by
  rcases h with ⟨_, _, -, rfl, -, lead, blank, rfl, rfl, -⟩
  simp [keyword]

/-- The keyword stands before the name, so the equation is a recursion. -/
theorem DeclaredAt.unique {t : Text} {s s' : Nat → Prop} (h : DeclaredAt t s)
    (h' : DeclaredAt t s') (o : Nat) : s o ↔ s' o := by
  induction o using Nat.strongRecOn with
  | ind o ih =>
    rw [h o, h' o]
    refine exists_congr fun q => exists_congr fun w => and_congr_right fun hsite => ?_
    exact not_congr (ih q hsite.lt)

/-! ## The shape -/

theorem isName_keyword : IsName keyword where
  ne_nil := by decide
  isWordByte := List.all_eq_true.mp (by decide)
  head_not_digit b hb := by
    obtain rfl : 112 = b := Option.some.inj hb
    decide

theorem declarationAt?_lawful : Lawful declarationAt? where
  head h := by
    rcases declarationAt?_eq_some_iff.mp h with ⟨blank, w, rest, rfl, -⟩
    exact isName_keyword.not_endsWord_append _
  offset_lt h := by
    rcases declarationAt?_eq_some_iff.mp h with ⟨blank, w, rest, -, -, -, hw, -, rfl⟩
    exact Nat.lt_add_of_pos_right (List.length_pos_of_ne_nil hw.ne_nil)
  stop_le h := by
    rcases declarationAt?_eq_some_iff.mp h with ⟨blank, w, rest, rfl, -, -, -, -, rfl⟩
    simp only [List.length_append]
    omega
  resumable h := by
    rcases declarationAt?_eq_some_iff.mp h with ⟨blank, w, rest, rfl, -, -, -, hrest, rfl⟩
    right
    have hsplit : keyword ++ (blank ++ (w ++ rest)) = (keyword ++ blank ++ w) ++ rest := by simp
    rwa [hsplit, List.drop_left' (by simp [Nat.add_assoc])]
  eq_offset {t o q} h hpos hlt hallows hword := by
    -- no word starts in the keyword, in the blanks, or in the name
    rcases declarationAt?_eq_some_iff.mp h with ⟨blank, w, rest, rfl, -, hblank, hw, -, rfl⟩
    simp only at hlt ⊢
    rcases Nat.lt_or_ge keyword.length q with hkey | hkey
    · rcases Nat.lt_trichotomy q (keyword.length + blank.length) with hq | hq | hq
      · have hgap : ∀ b ∈ blank, isWordByte b = false := fun b =>
          not_isWordByte_of_mem_blank hblank
        exact absurd (endsWord_inside hgap hkey.le hq) hword
      · exact hq
      · have hsplit : keyword ++ (blank ++ (w ++ rest)) = (keyword ++ blank) ++ (w ++ rest) := by
          simp
        rw [hsplit] at hallows
        refine absurd hallows (not_allowsWord_inside hw.isWordByte ?_ ?_) <;>
          rw [List.length_append] <;> omega
    · exact absurd hallows
        (not_allowsWord_inside (s := []) isName_keyword.isWordByte hpos (by simpa using hkey))

theorem allowsWord_blank {blank : Text} (hblank : IsBlank blank) : AllowsWord blank :=
  fun _ hb => not_isWordByte_of_mem_blank hblank (List.mem_of_getLast? hb)

theorem Occurs.declarationSite {t : Text} {p : Nat} {o : Occurrence}
    (h : Occurs declarationAt? t p o) : DeclarationSite t p o.offset o.name := by
  rcases h with ⟨hallows, o, ho, rfl⟩
  have hp := declarationAt?_lawful.lt_length ho
  rcases declarationAt?_eq_some_iff.mp ho with ⟨blank, w, rest, hdrop, hne, hblank, hw, hrest, rfl⟩
  have hlen : (t.take p).length = p := by rw [List.length_take, Nat.min_eq_left hp.le]
  refine ⟨t.take p ++ (keyword ++ blank), rest, ⟨?_, hw.ne_nil, hw.isWordByte, ?_, hrest⟩, ?_, hw,
    t.take p, blank, rfl, hlen, hallows, hne, hblank⟩
  · change t = t.take p ++ (keyword ++ blank) ++ (w ++ rest)
    rw [List.append_assoc, List.append_assoc, ← hdrop, List.take_append_drop]
  · rw [← List.append_assoc, allowsWord_append_of_ne_nil hne]
    exact allowsWord_blank hblank
  · simp only [Occurrence.shift, List.length_append, hlen]
    omega

theorem DeclarationSite.exists_occurs {t : Text} {q o : Nat} {w : Text}
    (h : DeclarationSite t q o w) :
    ∃ occ, Occurs declarationAt? t q occ ∧ occ.offset = o ∧ occ.name = w := by
  rcases h with
    ⟨_, rest, ⟨rfl, -, -, -, hrest⟩, rfl, hw, lead, blank, rfl, rfl, hallows, hne, hblank⟩
  have hdecl := declarationAt?_eq_some_iff.mpr ⟨blank, w, rest, rfl, hne, hblank, hw, hrest, rfl⟩
  have hsplit : lead ++ (keyword ++ blank) ++ (w ++ rest) =
      lead ++ (keyword ++ (blank ++ (w ++ rest))) := by simp
  rw [hsplit]
  refine ⟨_, ⟨by rwa [List.take_left], _, by rwa [List.drop_left], rfl⟩, ?_, rfl⟩
  simp only [Occurrence.shift, List.length_append]
  omega

/-! ## The pass -/

/-- A sweep for declarations finds the names after a keyword that is not a name it found. -/
theorem Sweep.exists_declaration_iff {t : Text} {os : List Occurrence}
    (hsweep : Sweep declarationAt? t 0 os) {o : Nat} {w : Text} :
    (∃ occ ∈ os, occ.offset = o ∧ occ.name = w) ↔
      ∃ q, DeclarationSite t q o w ∧ q ∉ os.map Occurrence.offset := by
  simp only [List.mem_map]
  constructor
  · rintro ⟨occ, hocc, rfl, rfl⟩
    rcases hsweep.exists_occurs declarationAt?_lawful hocc with ⟨q, -, hoccurs, hapart⟩
    refine ⟨q, hoccurs.declarationSite, ?_⟩
    -- a name found at the keyword would overlap this declaration
    rintro ⟨occ', hocc', rfl⟩
    rcases hsweep.exists_occurs declarationAt?_lawful hocc' with ⟨p, -, hoccurs', -⟩
    have hbounds := hoccurs'.bounds declarationAt?_lawful
    have hlt := hoccurs.declarationSite.lt
    rcases hapart occ' hocc' with hstop | hoff <;> omega
  · rintro ⟨q, hsite, hnot⟩
    rcases hsite.exists_occurs with ⟨occ, hoccurs, rfl, rfl⟩
    rcases hsweep.mem_or_inside declarationAt?_lawful (Nat.zero_le _) hoccurs with
      hmem | ⟨occ', hocc', -, -, -, rfl⟩
    · exact ⟨occ, hmem, rfl, rfl⟩
    · exact absurd ⟨occ', hocc', rfl⟩ hnot

theorem Sweep.declaredAt {t : Text} {os : List Occurrence} (hsweep : Sweep declarationAt? t 0 os) :
    DeclaredAt t (· ∈ os.map Occurrence.offset) := by
  intro o
  constructor
  · intro ho
    rcases List.mem_map.mp ho with ⟨occ, hocc, rfl⟩
    rcases hsweep.exists_declaration_iff.mp ⟨occ, hocc, rfl, rfl⟩ with ⟨q, hsite, hnot⟩
    exact ⟨q, occ.name, hsite, hnot⟩
  · rintro ⟨q, w, hsite, hnot⟩
    rcases hsweep.exists_declaration_iff.mpr ⟨q, hsite, hnot⟩ with ⟨occ, hocc, hoff, -⟩
    exact List.mem_map.mpr ⟨occ, hocc, hoff⟩

theorem exists_sweep_collectDefinitions (t : Text) : ∃ os, Sweep declarationAt? t 0 os ∧
    collectDefinitions t .never =
      .ok (⟨os.map Occurrence.name, os.map Occurrence.offset⟩, .never) := by
  rcases scan_never declarationAt?_lawful t with ⟨os, hsweep, hscan⟩
  exact ⟨os, hsweep, by rw [collectDefinitions, hscan]⟩

/-- The first pass collects the offsets of the declared names, and the names at these offsets. -/
theorem collectDefinitions_declaredAt (t : Text) :
    ∃ d, collectDefinitions t .never = .ok (d, .never) ∧
      DeclaredAt t (· ∈ d.offsets) ∧
      ∀ w, w ∈ d.names ↔ ∃ o ∈ d.offsets, ∃ before after,
        WholeWord t before w after ∧ before.length = o := by
  rcases exists_sweep_collectDefinitions t with ⟨os, hsweep, hcollect⟩
  refine ⟨_, hcollect, hsweep.declaredAt, fun w => ?_⟩
  -- each occurrence names the whole word at its offset
  have hword : ∀ occ ∈ os, ∃ before after, WholeWord t before occ.name after ∧
      before.length = occ.offset := by
    intro occ hocc
    rcases hsweep.exists_occurs declarationAt?_lawful hocc with ⟨q, -, hoccurs, -⟩
    rcases hoccurs.declarationSite with ⟨before, after, hw, hlen, -⟩
    exact ⟨before, after, hw, hlen⟩
  simp only [List.mem_map]
  constructor
  · rintro ⟨occ, hocc, rfl⟩
    exact ⟨occ.offset, ⟨occ, hocc, rfl⟩, hword occ hocc⟩
  · rintro ⟨_, ⟨occ, hocc, rfl⟩, before, after, hw, hlen⟩
    rcases hword occ hocc with ⟨before', after', hw', hlen'⟩
    exact ⟨occ, hocc, hw'.unique hw (hlen'.trans hlen.symm)⟩

-- in `proc proc a` the second `proc` is a declared name, so `a` is none
example : (collectDefinitions (keyword ++ 32 :: keyword ++ [32, 97]) .never).toOption.map
    (·.1.offsets) = some [5] := by
  decide +kernel

end CallLight.Script
