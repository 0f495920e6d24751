import Mathlib.Data.List.Basic
import Mathlib.Tactic.Common
import CallLight.Token.Data

/-!
# Reading token data back

The editor's side of token data: it adds up the numbers, the line always, the character only on the
same line. It reads back tokens that are in document order (`decode_deltas`), because no subtraction
wraps around there, and the builder puts them in that order (`Builder.build_data`).
-/

namespace CallLight

/-- A token as an editor decodes it. -/
structure Mark where
  line : Nat
  character : Nat
  length : Nat
  type : Nat
  modifiers : Nat
deriving DecidableEq, Repr

namespace Mark

/-- Reads token data that follows a token at `line` and `character`. -/
def decodeFrom (line character : Nat) : List UInt32 → List Mark
  | dline :: dcharacter :: length :: type :: modifiers :: rest =>
    let line := line + dline.toNat
    let character := if dline.toNat = 0 then character + dcharacter.toNat else dcharacter.toNat
    ⟨line, character, length.toNat, type.toNat, modifiers.toNat⟩ :: decodeFrom line character rest
  | _ => []

/-- Reads the token data of a whole text. -/
def decode (data : List UInt32) : List Mark := decodeFrom 0 0 data

end Mark

namespace Entry

def mark (e : Entry) : Mark :=
  ⟨e.line.toNat, e.character.toNat, e.length.toNat, e.type.toNat, e.modifiers.toNat⟩

/-- The entry stands at or after a place. -/
def AtOrAfter (line character : UInt32) (e : Entry) : Prop :=
  line.toNat < e.line.toNat ∨
    line.toNat = e.line.toNat ∧ character.toNat ≤ e.character.toNat

theorem notAfter_iff {a b : Entry} : a.notAfter b = true ↔ b.AtOrAfter a.line a.character :=
  notAfter_iff_toNat

theorem atOrAfter_zero (e : Entry) : e.AtOrAfter 0 0 := by
  simp only [AtOrAfter, UInt32.toNat_zero]
  omega

end Entry

/-! ## One token -/

theorem length_deltas (line character : UInt32) (es : List Entry) :
    (deltas line character es).length = 5 * es.length := by
  induction es generalizing line character with
  | nil => rfl
  | cons e es ih =>
    simp only [deltas, List.length_cons, ih]
    omega

/-- For a token at or after the last one neither subtraction wraps around. -/
theorem toNat_delta {line character : UInt32} {e : Entry} (he : e.AtOrAfter line character) :
    ((e.line - line).toNat : Int) = e.line.toNat - line.toNat ∧
    ((if e.line - line = 0 then e.character - character else e.character).toNat : Int) =
      if (e.line.toNat : Int) = line.toNat then (e.character.toNat - character.toNat : Int)
      else e.character.toNat := by
  rcases he with hlt | ⟨heq, hchar⟩
  · have hline := UInt32.toNat_sub_of_le e.line line (UInt32.le_iff_toNat_le.mpr (Nat.le_of_lt hlt))
    have hne : e.line - line ≠ 0 := by
      rw [ne_eq, ← UInt32.toNat_inj, hline, UInt32.toNat_zero]
      omega
    rw [if_neg hne, if_neg (by omega), hline]
    omega
  · obtain rfl := UInt32.toNat_inj.mp heq
    rw [UInt32.sub_self, if_pos rfl, if_pos rfl,
      UInt32.toNat_sub_of_le _ _ (UInt32.le_iff_toNat_le.mpr hchar), UInt32.toNat_zero]
    omega

/-- A token at or after the last one is read back. -/
theorem decodeFrom_deltas_cons {line character : UInt32} {e : Entry}
    (he : e.AtOrAfter line character) (es : List Entry) :
    Mark.decodeFrom line.toNat character.toNat (deltas line character (e :: es)) =
      e.mark :: Mark.decodeFrom e.line.toNat e.character.toNat (deltas e.line e.character es) := by
  rcases toNat_delta he with ⟨hline, hcharacter⟩
  have hsum : line.toNat + (e.line - line).toNat = e.line.toNat := by omega
  simp only [deltas, Mark.decodeFrom, hsum]
  generalize (if e.line - line = 0 then e.character - character else e.character) = d at *
  -- the editor adds to the last character if and only if the line is the same
  have hsum' : (if (e.line - line).toNat = 0 then character.toNat + d.toNat else d.toNat) =
      e.character.toNat := by
    split <;> split at hcharacter <;> omega
  rw [hsum']
  rfl

/-! ## A whole answer -/

theorem decodeFrom_deltas {line character : UInt32} {es : List Entry}
    (hfrom : ∀ e ∈ es, e.AtOrAfter line character) (hsorted : es.Pairwise (·.notAfter ·)) :
    Mark.decodeFrom line.toNat character.toNat (deltas line character es) = es.map Entry.mark := by
  induction hsorted generalizing line character with
  | nil => rfl
  | @cons e es he _ ih =>
    rw [decodeFrom_deltas_cons (hfrom e (by simp)), List.map_cons,
      ih fun e' he' => Entry.notAfter_iff.mp (he e' he')]

/-- The editor reads back tokens that are in document order. -/
theorem decode_deltas {es : List Entry} (hsorted : es.Pairwise (·.notAfter ·)) :
    Mark.decode (deltas 0 0 es) = es.map Entry.mark :=
  decodeFrom_deltas (fun e _ => e.atOrAfter_zero) hsorted

/-- Whether the builder sorts or knows that it need not, the tokens come out sorted. -/
theorem Builder.entries_sort (b : Builder) :
    b.sort.entries = b.entries.mergeSort Entry.notAfter := by
  unfold sort
  split
  case isTrue hsorted => rw [List.mergeSort_of_pairwise (b.ordered hsorted)]
  case isFalse => rfl

theorem Builder.build_data (b : Builder) :
    b.build.1 = deltas 0 0 (b.entries.mergeSort Entry.notAfter) := by
  rw [build, entries_sort]

theorem Builder.entries_foldl_push {α : Type} (f : α → Entry) (xs : List α) (b : Builder) :
    (xs.foldl (fun b x => b.push (f x)) b).entries = b.entries ++ xs.map f := by
  induction xs generalizing b with
  | nil => simp
  | cons x xs ih =>
    rw [List.foldl_cons, ih]
    simp [push]

theorem encode_eq (tokens : List Token) (t : Text) : encode tokens t =
    deltas 0 0 ((tokens.map (Token.entry (.ofText t))).mergeSort Entry.notAfter) := by
  rw [encode, Builder.build_data, Builder.entries_foldl_push]
  rfl

theorem length_encode (tokens : List Token) (t : Text) :
    (encode tokens t).length = 5 * tokens.length := by
  rw [encode_eq, length_deltas, List.length_mergeSort, List.length_map]

/-- Tokens in document order are read back one by one. -/
theorem decode_encode_of_pairwise {tokens : List Token} {t : Text}
    (h : (tokens.map (Token.entry (.ofText t))).Pairwise (·.notAfter ·)) :
    Mark.decode (encode tokens t) = tokens.map fun tok => (tok.entry (.ofText t)).mark := by
  rw [encode_eq, List.mergeSort_of_pairwise h, decode_deltas h, List.map_map]
  rfl

end CallLight
