import CallLight.Command.Tokens
import CallLight.Proofs.Script.Checks

/-!
# Reports on many files

One budget of checks is shared by all files. A file that can be read costs what a search of its
content costs, and one that cannot costs nothing and is one failure more. If the budget is enough
for all of them there is a report on each, in the order of the paths; if not, there is none
(`classifyAll_of_spend`).
-/

namespace CallLight

theorem Cancellation.spend_add (m n : Nat) (c : Cancellation) :
    c.spend (m + n) = (c.spend m).bind (spend n) := by
  induction m generalizing c with
  | zero => rw [Nat.zero_add, spend, Option.bind_some]
  | succ m ih =>
    rw [Nat.add_right_comm, spend, spend, Option.bind_assoc]
    exact congrArg _ (funext ih)

namespace Script

/-- The tokens of a text. -/
def allTokens (t : Text) : List Token :=
  match tokens t .never with
  | .ok (toks, _) => toks
  | .error _ => []

/-- The checks that a search of a text has to pass. -/
noncomputable def checks (t : Text) : Nat :=
  (declaredOffsets t).ncard + (callOffsets t).ncard + 2

/-- A search that can pay for all its checks has all tokens, and leaves the rest; any other one has
none. -/
theorem tokens_of_spend (t : Text) (c : Cancellation) :
    (c.spend (checks t) = none → ∃ e, tokens t c = .error e) ∧
    ∀ c', c.spend (checks t) = some c' → tokens t c = .ok (allTokens t, c') := by
  rcases tokens_eq t with ⟨toks, htokens⟩
  have hall : allTokens t = toks := by
    rw [allTokens, htokens, Cancellation.spend_never]
    dsimp only
    rw [Cancellation.spend_never]
  have hchecks : checks t = ((declaredOffsets t).ncard + 1) + ((callOffsets t).ncard + 1) := by
    rw [checks]
    omega
  rw [hchecks, Cancellation.spend_add, htokens, hall]
  cases c.spend ((declaredOffsets t).ncard + 1) with
  | none => exact ⟨fun _ => ⟨_, rfl⟩, by simp⟩
  | some c₁ =>
    dsimp only [Option.bind_some]
    cases c₁.spend ((callOffsets t).ncard + 1) with
    | none => exact ⟨fun _ => ⟨_, rfl⟩, by simp⟩
    | some c₂ => exact ⟨by simp, by simp⟩

end Script

namespace Command

/-! ## Files -/

/-- The paths that can be read, each with its content. -/
def readable (fs : FileSystem Id) (paths : List Text) : List (Text × Text) :=
  paths.filterMap fun path =>
    match (fs.read path).run with
    | .ok content => some (path, content)
    | .error _ => none

/-- What is wrong with the paths that cannot be read. -/
def unreadable (fs : FileSystem Id) (paths : List Text) : List Trouble :=
  paths.filterMap fun path =>
    match (fs.read path).run with
    | .ok _ => none
    | .error e => some (.unreadable path e)

/-- The report on a path with that content. -/
def FileReport.ofFile (file : Text × Text) : FileReport :=
  .ofTokens file.1 file.2 (Script.allTokens file.2)

/-- The checks that a search of all files has to pass. -/
noncomputable def totalChecks (files : List (Text × Text)) : Nat :=
  files.foldr (fun file n => Script.checks file.2 + n) 0

variable (fs : FileSystem Id) (path : Text) (rest : List Text)

theorem read_cases :
    (∃ content, fs.read path = pure (.ok content) ∧
      readable fs (path :: rest) = (path, content) :: readable fs rest ∧
      unreadable fs (path :: rest) = unreadable fs rest) ∨
    ∃ e, fs.read path = pure (.error e) ∧ readable fs (path :: rest) = readable fs rest ∧
      unreadable fs (path :: rest) = .unreadable path e :: unreadable fs rest := by
  rcases hread : (fs.read path).run with e | content
  · right
    refine ⟨e, hread, ?_, ?_⟩
    · rw [readable, List.filterMap_cons, hread, readable]
    · rw [unreadable, List.filterMap_cons, hread, unreadable]
  · left
    refine ⟨content, hread, ?_, ?_⟩
    · rw [readable, List.filterMap_cons, hread, readable]
    · rw [unreadable, List.filterMap_cons, hread, unreadable]

/-- There is at most one report for each path, in the order of the paths. -/
theorem sublist_path_reports (paths : List Text) :
    (((readable fs paths).map .ofFile).map FileReport.path).Sublist paths := by
  induction paths with
  | nil => exact .slnil
  | cons path rest ih =>
    rcases read_cases fs path rest with ⟨content, -, hreadable, -⟩ | ⟨e, -, hreadable, -⟩
    · rw [hreadable]
      exact ih.cons_cons path
    · rw [hreadable]
      exact ih.cons path

/-- A run that can pay for the checks of all files reports on all of them; any other one stops at
one of them. -/
theorem classifyAll_of_spend (paths : List Text) (c : Cancellation) :
    (c.spend (totalChecks (readable fs paths)) = none →
      ∃ file ∈ readable fs paths, ∃ stop, classifyAll fs paths c = pure (.error (file.1, stop))) ∧
    ∀ c', c.spend (totalChecks (readable fs paths)) = some c' →
      classifyAll fs paths c =
        pure (.ok ((readable fs paths).map .ofFile, unreadable fs paths)) := by
  induction paths generalizing c with
  | nil =>
    constructor
    · intro h
      cases h
    · intro c' _
      rfl
  | cons path rest ih =>
    rcases read_cases fs path rest with
      ⟨content, hread, hreadable, hunreadable⟩ | ⟨e, hread, hreadable, hunreadable⟩
    · rw [hreadable, hunreadable]
      have htotal : totalChecks ((path, content) :: readable fs rest) =
          Script.checks content + totalChecks (readable fs rest) := rfl
      rw [htotal, Cancellation.spend_add]
      rcases hspend : c.spend (Script.checks content) with _ | c₁
      · -- the budget runs out in this file
        rcases (Script.tokens_of_spend content c).1 hspend with ⟨stop, htokens⟩
        refine ⟨fun _ => ⟨_, List.mem_cons_self, stop, ?_⟩, by simp⟩
        simp only [classifyAll, hread, pure_bind, htokens]
      · have htokens := (Script.tokens_of_spend content c).2 c₁ hspend
        rw [Option.bind_some]
        constructor
        · intro hnone
          rcases (ih c₁).1 hnone with ⟨file, hfile, stop, hrest⟩
          refine ⟨file, List.mem_cons_of_mem _ hfile, stop, ?_⟩
          simp only [classifyAll, hread, pure_bind, htokens, hrest]
        · intro c' hsome
          have hrest := (ih c₁).2 c' hsome
          simp only [classifyAll, hread, pure_bind, htokens, hrest]
          rfl
    · rw [hreadable, hunreadable]
      constructor
      · intro hnone
        rcases (ih c).1 hnone with ⟨file, hfile, stop, hrest⟩
        refine ⟨file, hfile, stop, ?_⟩
        simp only [classifyAll, hread, pure_bind, hrest]
      · intro c' hsome
        have hrest := (ih c).2 c' hsome
        simp only [classifyAll, hread, pure_bind, hrest]

end Command

end CallLight
