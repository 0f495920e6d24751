import CallLight.Proofs.Script.Checks

/-!
# Tokens behind a keyword

The name behind a keyword looks like a call when a parenthesis follows it, and is no token, because
the first pass has recorded it. But a declaration takes its name with it, and that name may be
`proc`: a `proc` that is declared declares nothing, and a call may stand behind it
(`token_behind_doubled_keyword`). There is no other way for a token to stand behind a `proc`: if one
does, the `proc` is itself the name that another one declares (`token_iff_keyword_declared`).

This follows from what the tokens of a text are, said without the two passes: the calls of names
that are declared somewhere, except where they are declared (`exists_tokens_iff`).
-/

namespace CallLight.Script

/-- The keyword at `q` declares the name `w` at `o`: the keyword is not itself a declared name. -/
def Declares (t : Text) (q o : Nat) (w : Text) : Prop :=
  DeclarationSite t q o w ∧ q ∉ declaredOffsets t

variable {t : Text} {q o : Nat} {w : Text}

/-! ## Declarations -/

/-- The declared offsets solve the equation that defines them. -/
theorem mem_declaredOffsets_iff : o ∈ declaredOffsets t ↔ ∃ q w, Declares t q o w := by
  rcases scan_never declarationAt?_lawful t with ⟨os, hsweep, -⟩
  simp only [Declares, hsweep.mem_declaredOffsets_iff]
  exact hsweep.declaredAt o

theorem Sweep.mem_name_iff {os : List Occurrence} (hsweep : Sweep declarationAt? t 0 os) :
    w ∈ os.map Occurrence.name ↔ ∃ q o, Declares t q o w := by
  simp only [Declares, hsweep.mem_declaredOffsets_iff, List.mem_map]
  constructor
  · rintro ⟨occ, hocc, rfl⟩
    rcases hsweep.exists_declaration_iff.mp ⟨occ, hocc, rfl, rfl⟩ with ⟨q, hsite, hnot⟩
    exact ⟨q, occ.offset, hsite, by rwa [List.mem_map] at hnot⟩
  · rintro ⟨q, o, hsite, hnot⟩
    rw [← List.mem_map] at hnot
    rcases hsweep.exists_declaration_iff.mpr ⟨q, hsite, hnot⟩ with ⟨occ, hocc, -, hname⟩
    exact ⟨occ, hocc, hname⟩

/-- The keyword of a declaration site is a whole word. -/
theorem DeclarationSite.exists_wholeWord (h : DeclarationSite t q o w) :
    ∃ before after, WholeWord t before keyword after ∧ before.length = q := by
  rcases h with ⟨_, after, hw, -, -, lead, blank, rfl, rfl, hallows, hne, hblank⟩
  refine ⟨lead, blank ++ (w ++ after), ⟨?_, ?_, ?_, hallows, ?_⟩, rfl⟩
  · rw [hw.eq_append]
    simp
  · exact isName_keyword.ne_nil
  · exact isName_keyword.isWordByte
  · -- the first of the blanks ends it
    intro b hb
    rcases List.exists_cons_of_ne_nil hne with ⟨c, blank', rfl⟩
    obtain rfl : c = b := by simpa using hb
    exact not_isWordByte_of_mem_blank hblank List.mem_cons_self

/-- A name that is declared before another name is the keyword. -/
theorem DeclarationSite.eq_keyword {q' : Nat} {w' : Text} (h : DeclarationSite t q o w)
    (h' : DeclarationSite t q' q w') : w' = keyword := by
  rcases h.exists_wholeWord with ⟨before, after, hkeyword, hlen⟩
  rcases h' with ⟨before', after', hname, hlen', -⟩
  exact hname.unique hkeyword (hlen'.trans hlen.symm)

/-- A name is not declared where it stands if and only if each keyword that it stands behind is
itself declared, by another one. -/
theorem not_exists_declares_iff : (¬ ∃ q, Declares t q o w) ↔
    ∀ q, DeclarationSite t q o w → ∃ q', Declares t q' q keyword := by
  constructor
  · intro hnot q hsite
    have hq : q ∈ declaredOffsets t := by
      by_contra hq
      exact hnot ⟨q, hsite, hq⟩
    rcases mem_declaredOffsets_iff.mp hq with ⟨q', w', hdeclares⟩
    obtain rfl := hsite.eq_keyword hdeclares.1
    exact ⟨q', hdeclares⟩
  · rintro hall ⟨q, hsite, hq⟩
    rcases hall q hsite with ⟨q', hdeclares⟩
    exact hq (mem_declaredOffsets_iff.mpr ⟨q', keyword, hdeclares⟩)

/-! ## Tokens -/

theorem CallSite.isDeclared_iff (h : CallSite t o w) :
    o ∈ declaredOffsets t ↔ ∃ q, Declares t q o w := by
  rw [mem_declaredOffsets_iff]
  constructor
  · rintro ⟨q, w', hdeclares⟩
    rcases h with ⟨before, after, hw, hlen, -⟩
    rcases hdeclares.1 with ⟨before', after', hw', hlen', -⟩
    obtain rfl : w' = w := hw'.unique hw (hlen'.trans hlen.symm)
    exact ⟨q, hdeclares⟩
  · rintro ⟨q, hdeclares⟩
    exact ⟨q, w, hdeclares⟩

/-- The tokens of a text are the calls of names that are declared, except where they are declared.
Each is apart from the next. -/
theorem exists_tokens_iff (t : Text) : ∃ toks, tokens t .never = .ok (toks, .never) ∧
    toks.Pairwise (fun a b : Token => a.span.offset + a.span.text.length < b.span.offset) ∧
    ∀ tok, tok ∈ toks ↔ ∃ (o : Nat) (w : Text), tok = ⟨.function, .declaration, ⟨o, w⟩⟩ ∧
      CallSite t o w ∧ (∃ q o', Declares t q o' w) ∧ ¬ ∃ q, Declares t q o w := by
  rcases exists_sweep_collectDefinitions t with ⟨ds, hdeclarations, hcollect⟩
  obtain ⟨os, hsweep, hlocate⟩ := exists_sweep_locateCalls t
    ⟨ds.map Occurrence.name, ds.map Occurrence.offset⟩
  refine ⟨_, by rw [tokens, hcollect]; exact hlocate, hsweep.pairwise_token _, fun tok => ?_⟩
  rw [hsweep.mem_token_iff]
  refine exists_congr fun o => exists_congr fun w => and_congr_right fun _ =>
    and_congr_right fun hsite => ?_
  rw [← hsite.isDeclared_iff, hdeclarations.mem_name_iff, hdeclarations.mem_declaredOffsets_iff]

/-- The tokens of a text are the calls of declared names, except behind the word `proc` and blanks.
There a call is a token only if that `proc` is itself a name, which another `proc` declares. -/
theorem token_iff_keyword_declared (t : Text) : ∃ toks, tokens t .never = .ok (toks, .never) ∧
    ∀ tok, tok ∈ toks ↔ ∃ (o : Nat) (w : Text), tok = ⟨.function, .declaration, ⟨o, w⟩⟩ ∧
      CallSite t o w ∧ (∃ q o', Declares t q o' w) ∧
      ∀ q, DeclarationSite t q o w → ∃ q', Declares t q' q keyword := by
  rcases exists_tokens_iff t with ⟨toks, htokens, -, hmem⟩
  refine ⟨toks, htokens, fun tok => ?_⟩
  rw [hmem]
  simp only [not_exists_declares_iff]

/-- The text `proc f() {} proc proc f()`. -/
def doubledKeyword : Text :=
  keyword ++ [32, 102, 40, 41, 32, 123, 125, 32] ++ keyword ++ [32] ++ keyword ++ [32, 102, 40, 41]

/-- The last `f` stands behind the word `proc`, and it is a token. -/
theorem token_behind_doubled_keyword :
    ∃ toks, tokens doubledKeyword .never = .ok (toks, .never) ∧
      ⟨.function, .declaration, ⟨22, [102]⟩⟩ ∈ toks ∧
      DeclarationSite doubledKeyword 17 22 [102] := by
  have htokens : tokens doubledKeyword .never =
      .ok ([⟨.function, .declaration, ⟨22, [102]⟩⟩], .never) := by decide +kernel
  have hshape : declarationAt? (doubledKeyword.drop 17) = some ⟨0, 5, [102], 6⟩ := by decide +kernel
  have hallows : AllowsWord (doubledKeyword.take 17) := by
    intro b hb
    obtain rfl : 32 = b := Option.some.inj hb
    decide
  have hoccurs : Occurs declarationAt? doubledKeyword 17 ⟨17, 22, [102], 23⟩ :=
    ⟨hallows, _, hshape, rfl⟩
  exact ⟨_, htokens, List.mem_singleton_self _, hoccurs.declarationSite⟩

end CallLight.Script
