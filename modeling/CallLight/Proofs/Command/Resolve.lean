import CallLight.Files.Tree
import CallLight.Proofs.Command.Reports
import CallLight.Proofs.Text.Order

/-!
# What arguments stand for

Each argument stands for paths of its own, and may go wrong on its own, whatever the others are
(`expandAll_run`). So the paths of a list of arguments are the union of the paths of its parts,
sorted and each once, and what goes wrong is one list after the other (`resolve_append`). The pattern
language has no part in this: it may be any three functions.
-/

namespace CallLight.Command

/-! ## Sorting -/

theorem mem_dropRepeats {path : Text} {paths : List Text} :
    path ∈ dropRepeats paths ↔ path ∈ paths := by
  fun_induction dropRepeats paths with
  | case1 => rfl
  | case2 => rfl
  | case3 first next rest heq ih =>
    rw [ih, beq_iff_eq.mp heq]
    simp
  | case4 first next rest _ ih => simp only [List.mem_cons, ih]

theorem pairwise_dropRepeats {paths : List Text} (h : paths.Pairwise (· ≤ ·)) :
    (dropRepeats paths).Pairwise (· < ·) := by
  fun_induction dropRepeats paths with
  | case1 => exact .nil
  | case2 => exact List.pairwise_singleton _ _
  | case3 first next rest _ ih => exact ih h.tail
  | case4 first next rest hne ih =>
    rcases List.pairwise_cons.mp h with ⟨hfirst, hrest⟩
    refine .cons ?_ (ih hrest)
    intro path hpath
    have hlt : first < next := by
      refine Text.lt_of_le_of_ne (hfirst next List.mem_cons_self) ?_
      exact fun heq => hne (beq_iff_eq.mpr heq)
    rcases List.mem_cons.mp (mem_dropRepeats.mp hpath) with rfl | hmem
    · exact hlt
    · exact Text.lt_of_lt_of_le hlt ((List.pairwise_cons.mp hrest).1 path hmem)

theorem pairwise_sortPaths (paths : List Text) : (sortPaths paths).Pairwise (· < ·) :=
  pairwise_dropRepeats (Text.pairwise_mergeSort paths)

theorem mem_sortPaths {path : Text} {paths : List Text} :
    path ∈ sortPaths paths ↔ path ∈ paths := by
  rw [sortPaths, mem_dropRepeats, List.mem_mergeSort]

/-! ## Arguments -/

section

variable (dialect : Glob.Dialect) (fs : FileSystem Id) (config : Config)

/-- Each argument is expanded on its own. -/
theorem expandAll_run (arguments : List Text) : (expandAll dialect fs config arguments).run =
    ⟨arguments.flatMap fun a => (expand dialect fs config a).run.paths,
      arguments.flatMap fun a => (expand dialect fs config a).run.troubles⟩ := by
  induction arguments with
  | nil => rfl
  | cons a rest ih =>
    have hstep : (expandAll dialect fs config (a :: rest)).run =
        ⟨(expand dialect fs config a).run.paths ++ (expandAll dialect fs config rest).run.paths,
          (expand dialect fs config a).run.troubles ++
            (expandAll dialect fs config rest).run.troubles⟩ := rfl
    rw [hstep, ih, List.flatMap_cons, List.flatMap_cons]

theorem resolve_run {arguments : List Text} (h : arguments ≠ []) :
    (resolve dialect fs config arguments).run =
      ⟨sortPaths (expandAll dialect fs config arguments).run.paths,
        (expandAll dialect fs config arguments).run.troubles⟩ := by
  rcases List.exists_cons_of_ne_nil h with ⟨a, rest, rfl⟩
  rfl

theorem mem_resolve_paths {arguments : List Text} (h : arguments ≠ []) {path : Text} :
    path ∈ (resolve dialect fs config arguments).run.paths ↔
      ∃ a ∈ arguments, path ∈ (expand dialect fs config a).run.paths := by
  rw [resolve_run dialect fs config h, mem_sortPaths, expandAll_run, List.mem_flatMap]

theorem pairwise_resolve_paths {arguments : List Text} (h : arguments ≠ []) :
    (resolve dialect fs config arguments).run.paths.Pairwise (· < ·) := by
  rw [resolve_run dialect fs config h]
  exact pairwise_sortPaths _

theorem resolve_troubles {arguments : List Text} (h : arguments ≠ []) :
    (resolve dialect fs config arguments).run.troubles =
      arguments.flatMap fun a => (expand dialect fs config a).run.troubles := by
  rw [resolve_run dialect fs config h, expandAll_run]

/-- The paths depend on which arguments there are, and not on their order or number. -/
theorem resolve_paths_congr {A C : List Text} (hA : A ≠ []) (h : ∀ a, a ∈ C ↔ a ∈ A) :
    (resolve dialect fs config C).run.paths = (resolve dialect fs config A).run.paths := by
  have hC : C ≠ [] := by
    rcases List.exists_mem_of_ne_nil A hA with ⟨a, ha⟩
    exact List.ne_nil_of_mem ((h a).mpr ha)
  refine Text.eq_of_pairwise_lt (pairwise_resolve_paths dialect fs config hC)
    (pairwise_resolve_paths dialect fs config hA) fun path => ?_
  rw [mem_resolve_paths dialect fs config hC, mem_resolve_paths dialect fs config hA]
  exact exists_congr fun a => and_congr_left fun _ => h a

end

/-- Arguments are independent of each other. The paths that two lists of arguments stand for
together are those of the one list and those of the other, in the order of bytes and each once, and
what goes wrong is what goes wrong with the one and then with the other. So neither the order of
arguments nor a repeated argument changes the paths, and there is one report on each of them at
most. -/
theorem resolve_append (dialect : Glob.Dialect) (fs : FileSystem Id) (config : Config)
    {A B : List Text} (hA : A ≠ []) (hB : B ≠ []) :
    let found := fun arguments => (resolve dialect fs config arguments).run
    (found (A ++ B)).paths.Pairwise (· < ·) ∧
    (∀ path, path ∈ (found (A ++ B)).paths ↔
      path ∈ (found A).paths ∨ path ∈ (found B).paths) ∧
    (found (A ++ B)).troubles = (found A).troubles ++ (found B).troubles ∧
    (∀ C, (∀ a, a ∈ C ↔ a ∈ A) → (found C).paths = (found A).paths) ∧
    ∃ reports troubles,
      classifyAll fs (found (A ++ B)).paths .never = pure (.ok (reports, troubles)) ∧
      (reports.map FileReport.path).Pairwise (· < ·) := by
  intro found
  have hAB : A ++ B ≠ [] := List.append_ne_nil_of_left_ne_nil hA B
  have hsorted := pairwise_resolve_paths dialect fs config hAB
  refine ⟨hsorted, ?_, ?_, ?_, ?_⟩
  · intro path
    simp only [found, mem_resolve_paths dialect fs config hAB,
      mem_resolve_paths dialect fs config hA, mem_resolve_paths dialect fs config hB,
      List.mem_append, or_and_right, exists_or]
  · simp only [found, resolve_troubles dialect fs config hAB,
      resolve_troubles dialect fs config hA, resolve_troubles dialect fs config hB,
      List.flatMap_append]
  · intro C hC
    exact resolve_paths_congr dialect fs config hA hC
  · have hclassify := (classifyAll_of_spend fs (found (A ++ B)).paths .never).2 _
      (Cancellation.spend_never _)
    exact ⟨_, _, hclassify, hsorted.sublist (sublist_path_reports fs _)⟩

/-- A file `a` that declares and calls `f`, and nothing else. -/
def oneScript : FileTree :=
  FileTree.empty.put [[97]] (.file (Script.keyword ++ [32, 102, 10, 102, 40]))

theorem resolve_oneScript : (resolve .standard oneScript.fileSystem .default [[97], [91]]).run =
    ⟨[[97]], [.invalidPattern [91]]⟩ := by
  have hexpand : (expandAll .standard oneScript.fileSystem .default [[97], [91]]).run =
      ⟨[[97]], [.invalidPattern [91]]⟩ := by decide +kernel
  rw [resolve_run _ _ _ (by simp), hexpand, sortPaths, List.mergeSort_singleton]
  rfl

/-- The file is named twice, with a malformed pattern in between. -/
theorem resolve_append_oneScript :
    let found := fun arguments => (resolve .standard oneScript.fileSystem .default arguments).run
    [[97], [91]] ≠ ([] : List Text) ∧ [[97]] ≠ ([] : List Text) ∧
    (found ([[97], [91]] ++ [[97]])).paths = [[97]] ∧
    (found ([[97], [91]] ++ [[97]])).troubles = [.invalidPattern [91]] := by
  intro found
  have hA : [[97], [91]] ≠ ([] : List Text) := by simp
  have hB : [[97]] ≠ ([] : List Text) := by simp
  have hsame : ∀ a : Text, a ∈ [[97], [91]] ++ [[97]] ↔ a ∈ ([[97], [91]] : List Text) := by
    intro a
    simp only [List.mem_append, List.mem_cons, List.not_mem_nil, or_false]
    tauto
  have hfirst : found [[97], [91]] = ⟨[[97]], [.invalidPattern [91]]⟩ := resolve_oneScript
  have hsecond : (found [[97]]).troubles = [] := by decide +kernel
  rcases resolve_append .standard oneScript.fileSystem .default hA hB with
    ⟨-, -, htroubles, hpaths, -⟩
  refine ⟨hA, hB, ?_, ?_⟩
  · exact (hpaths _ hsame).trans (congrArg Resolution.paths hfirst)
  · refine htroubles.trans ?_
    rw [hsecond, List.append_nil]
    exact congrArg Resolution.troubles hfirst

end CallLight.Command
