import CallLight.Proofs.Script.Calls
import CallLight.Proofs.Script.Declarations

/-!
# The two shapes as patterns

The shapes of a script are two regular expressions,

* `\bproc[space]+([a-zA-Z_][a-zA-Z0-9_]*)` for a declaration, and
* `\b([a-zA-Z_][a-zA-Z0-9_]*)[space]*\(` for a call.

A `Pattern` is such an expression, and `Pattern.ways` lists all ways to match it at an offset of a
text, in the order in which a search that backtracks prefers them: repetition is greedy. The
assertion `\b` looks at the whole text, before the offset too. The ways give what the two shapes
give (`Pass.matchAt?_pattern_iff`), since both expressions are such that a shorter repetition never
matches.
-/

namespace CallLight.Script

/-! ## Patterns -/

/-- A regular expression. A class is a test of code points. -/
inductive Pattern where
  /-- The edge of a word. -/
  | boundary
  /-- A character of a class. -/
  | one (isIn : Nat → Bool)
  /-- Any number of characters of a class, as many as possible. -/
  | many (isIn : Nat → Bool)
  /-- A part whose offsets are recorded. -/
  | group (p : Pattern)
  | seq (p q : Pattern)

/-- A way to match a pattern: where the match stops, and the offsets of the groups in it, start and
stop in turn. -/
structure Way where
  stop : Nat
  groups : List Nat

/-- Whether a text starts with a character of a class. -/
def startsIn (isIn : Nat → Bool) : Text → Bool
  | [] => false
  | a :: rest => isIn (Text.decode a rest).code

/-- The lengths of the runs of characters of a class at the front of a text, the longest first. -/
def runLengths (isIn : Nat → Bool) : Text → List Nat
  | [] => [0]
  | a :: rest =>
    let r := Text.decode a rest
    if isIn r.code then (runLengths isIn (rest.drop (r.width - 1))).map (r.width + ·) ++ [0]
    else [0]
termination_by t => t.length
decreasing_by simp only [List.length_drop, List.length_cons]; omega

/-- Whether one of the characters beside an offset of a text is a word character and the other is
not. Word characters are bytes, and no byte of another character is one of them. -/
def isBoundary (t : Text) (i : Nat) : Bool :=
  (t.take i).getLast?.any isWordByte != (t.drop i).head?.any isWordByte

/-- The ways to match a pattern at an offset of a text, the preferred one first. -/
def Pattern.ways (t : Text) : Pattern → Nat → List Way
  | .boundary, i => if isBoundary t i then [⟨i, []⟩] else []
  | .one isIn, i =>
    match t.drop i with
    | [] => []
    | a :: rest =>
      let r := Text.decode a rest
      if isIn r.code then [⟨i + r.width, []⟩] else []
  | .many isIn, i => (runLengths isIn (t.drop i)).map fun n => ⟨i + n, []⟩
  | .group p, i => (p.ways t i).map fun w => ⟨w.stop, i :: w.stop :: w.groups⟩
  | .seq p q, i =>
    (p.ways t i).flatMap fun w => (q.ways t w.stop).map fun w' => ⟨w'.stop, w.groups ++ w'.groups⟩

/-- The offsets of the match at `i`: those of the whole match, and those of its groups. -/
def Pattern.matchAt? (p : Pattern) (t : Text) (i : Nat) : Option (List Nat) :=
  (p.ways t i).head?.map fun w => i :: w.stop :: w.groups

/-- The offsets of an occurrence, as a match has them. -/
def Occurrence.indices (o : Occurrence) : List Nat :=
  [o.start, o.stop, o.offset, o.offset + o.name.length]

/-! ## The two patterns -/

def isLetter (code : Nat) : Bool :=
  (97 ≤ code && code ≤ 122) || (65 ≤ code && code ≤ 90) || code == 95

def isWordChar (code : Nat) : Bool := isLetter code || (48 ≤ code && code ≤ 57)

namespace Pattern

/-- The characters of a word, one after the other. -/
def literal (cs : List Char) (rest : Pattern) : Pattern :=
  cs.foldr (fun c p => .seq (.one (· == c.toNat)) p) rest

/-- `([a-zA-Z_][a-zA-Z0-9_]*)` -/
def name : Pattern := .group (.seq (.one isLetter) (.many isWordChar))

/-- `[space]*\(` -/
def opening : Pattern := .seq (.many Text.isScriptSpace) (.one (· == '('.toNat))

/-- `\bproc[space]+([a-zA-Z_][a-zA-Z0-9_]*)` -/
def declaration : Pattern :=
  .seq .boundary (literal ['p', 'r', 'o', 'c']
    (.seq (.one Text.isScriptSpace) (.seq (.many Text.isScriptSpace) name)))

/-- `\b([a-zA-Z_][a-zA-Z0-9_]*)[space]*\(` -/
def call : Pattern := .seq .boundary (.seq name opening)

end Pattern

/-! ## Characters -/

theorem width_pos (a : UInt8) (rest : Text) : 0 < (Text.decode a rest).width := by
  rcases Text.decode_cases a rest with h | ⟨c, t, h⟩
  · rw [h]
    exact Nat.one_pos
  · rw [Text.decode_encode h]
    exact c.utf8Size_pos

/-- A byte beyond ASCII starts no ASCII character. -/
theorem le_code_decode {a : UInt8} (ha : 128 ≤ a.toNat) (rest : Text) :
    128 ≤ (Text.decode a rest).code := by
  rcases Text.decode_cases a rest with h | ⟨c, t, h⟩
  · rw [h]
    decide
  · rw [Text.decode_encode h]
    by_contra hlt
    have hc : c.toNat < 128 := Nat.lt_of_not_le hlt
    rw [Text.encode_of_lt hc, List.singleton_append, List.cons.injEq] at h
    rw [h.1, UInt8.toNat_ofNat'] at ha
    omega

/-- A class within ASCII is a class of bytes. -/
theorem isIn_decode {isIn : Nat → Bool} (hascii : ∀ n, isIn n = true → n < 128) (a : UInt8)
    (rest : Text) : isIn (Text.decode a rest).code = isIn a.toNat := by
  rcases Nat.lt_or_ge a.toNat 128 with ha | ha
  · rw [Text.decode_one ha]
  · have hbyte : ¬ isIn a.toNat = true := fun h => absurd (hascii _ h) (by omega)
    have hcode : ¬ isIn (Text.decode a rest).code = true := by
      intro h
      have := le_code_decode ha rest
      have := hascii _ h
      omega
    rw [Bool.not_eq_true] at hbyte hcode
    rw [hbyte, hcode]

theorem isLetter_ascii (n : Nat) (h : isLetter n = true) : n < 128 := by
  simp only [isLetter, Bool.or_eq_true, Bool.and_eq_true, decide_eq_true_eq, beq_iff_eq] at h
  omega

theorem isWordChar_ascii (n : Nat) (h : isWordChar n = true) : n < 128 := by
  simp only [isWordChar, isLetter, Bool.or_eq_true, Bool.and_eq_true, decide_eq_true_eq,
    beq_iff_eq] at h
  omega

theorem isWordChar_toNat (b : UInt8) : isWordChar b.toNat = isWordByte b := by
  rw [Bool.eq_iff_iff, isWordByte_iff]
  simp only [isWordChar, isLetter, Bool.or_eq_true, Bool.and_eq_true, decide_eq_true_eq,
    beq_iff_eq]
  omega

theorem isLetter_toNat (b : UInt8) : isLetter b.toNat = isNameStart b := by
  have hdigit : isDigit b = true ↔ 48 ≤ b.toNat ∧ b.toNat ≤ 57 := by
    simp [isDigit, UInt8.le_iff_toNat_le]
  rw [Bool.eq_iff_iff, isNameStart_iff, isWordByte_iff, ← Bool.not_eq_true, hdigit]
  simp only [isLetter, Bool.or_eq_true, Bool.and_eq_true, decide_eq_true_eq, beq_iff_eq]
  omega

/-! ## Runs -/

theorem drop_width (a : UInt8) (rest : Text) :
    (a :: rest).drop (Text.decode a rest).width = rest.drop ((Text.decode a rest).width - 1) := by
  rcases Nat.exists_eq_add_one.mpr (width_pos a rest) with ⟨n, hn⟩
  rw [hn, List.drop_succ_cons, Nat.add_sub_cancel]

/-- Behind a run that is not the longest another character of the class follows. -/
theorem exists_runLengths (isIn : Nat → Bool) (t : Text) : ∃ longest shorter,
    runLengths isIn t = longest :: shorter ∧
      ∀ n ∈ shorter, startsIn isIn (t.drop n) = true := by
  fun_induction runLengths isIn t with
  | case1 => exact ⟨0, [], rfl, by simp⟩
  | case2 a rest r hin ih =>
    rcases ih with ⟨longest, shorter, hrun, hstarts⟩
    refine ⟨r.width + longest, shorter.map (r.width + ·) ++ [0], by rw [hrun]; simp, ?_⟩
    intro n hn
    rcases List.mem_append.mp hn with hn | hn
    · rcases List.mem_map.mp hn with ⟨k, hk, rfl⟩
      rw [← List.drop_drop, drop_width]
      exact hstarts k hk
    · rw [List.mem_singleton.mp hn]
      exact hin
  | case3 a rest r hin => exact ⟨0, [], rfl, by simp⟩

/-- Inside a word it does not end. -/
theorem not_endsWord_of_startsIn {t : Text} (h : startsIn isWordChar t = true) : ¬ EndsWord t := by
  rcases t with _ | ⟨c, rest⟩
  · cases h
  · rw [startsIn, isIn_decode isWordChar_ascii, isWordChar_toNat] at h
    intro hends
    have hc := hends c rfl
    rw [h] at hc
    cases hc

theorem head?_runLengths_space (t : Text) :
    (runLengths Text.isScriptSpace t).head? = some (Text.scriptSpace t) := by
  fun_induction runLengths Text.isScriptSpace t with
  | case1 => rw [Text.scriptSpace, List.head?_cons]
  | case2 a rest r hin ih =>
    rw [Text.scriptSpace, if_pos hin, List.head?_append, List.head?_map, ih]
    rfl
  | case3 a rest r hin => rw [Text.scriptSpace, if_neg hin, List.head?_cons]

theorem head?_runLengths_word (t : Text) :
    (runLengths isWordChar t).head? = some (t.takeWhile isWordByte).length := by
  fun_induction runLengths isWordChar t with
  | case1 => rfl
  | case2 a rest r hin ih =>
    have ha : isWordByte a = true := by
      rwa [isIn_decode isWordChar_ascii, isWordChar_toNat] at hin
    have hwidth : r.width = 1 := by
      have hascii := isWordChar_ascii a.toNat (by rwa [isWordChar_toNat])
      simp only [r, Text.decode_one hascii]
    rw [hwidth] at ih ⊢
    rw [List.head?_append, List.head?_map, ih, List.takeWhile_cons_of_pos ha, List.length_cons,
      Nat.add_comm]
    rfl
  | case3 a rest r hin =>
    have ha : ¬ isWordByte a = true := by
      rwa [isIn_decode isWordChar_ascii, isWordChar_toNat] at hin
    rw [List.takeWhile_cons_of_neg ha]
    rfl

/-! ## Ways -/

namespace Pattern

variable {t : Text} {i : Nat}

theorem ways_seq_of_eq_nil {p : Pattern} (h : p.ways t i = []) (q : Pattern) :
    (seq p q).ways t i = [] := by
  rw [ways, h, List.flatMap_nil]

theorem ways_seq_of_eq_singleton {p : Pattern} {j : Nat} (h : p.ways t i = [⟨j, []⟩])
    (q : Pattern) : (seq p q).ways t i = q.ways t j := by
  rw [ways, h, List.flatMap_singleton]
  exact List.map_id _

/-- If what follows cannot match behind any way but the first, only that one counts. -/
theorem ways_seq_of_eq_cons {p : Pattern} {w : Way} {others : List Way}
    (h : p.ways t i = w :: others) {q : Pattern} (hq : ∀ v ∈ others, q.ways t v.stop = []) :
    (seq p q).ways t i = (q.ways t w.stop).map fun w' => ⟨w'.stop, w.groups ++ w'.groups⟩ := by
  have hothers : (others.flatMap fun v =>
      (q.ways t v.stop).map fun w' => (⟨w'.stop, v.groups ++ w'.groups⟩ : Way)) = [] := by
    rw [List.flatMap_eq_nil_iff]
    intro v hv
    rw [hq v hv, List.map_nil]
  rw [ways, h, List.flatMap_cons, hothers, List.append_nil]

/-- A repetition is as long as it can be, if what follows it does not start with its class. -/
theorem ways_many_seq {isIn : Nat → Bool} {n : Nat}
    (hn : (runLengths isIn (t.drop i)).head? = some n) {q : Pattern}
    (hq : ∀ j, startsIn isIn (t.drop j) = true → q.ways t j = []) :
    (seq (many isIn) q).ways t i = q.ways t (i + n) := by
  rcases exists_runLengths isIn (t.drop i) with ⟨longest, shorter, hrun, hstarts⟩
  have hways : (many isIn).ways t i =
      ⟨i + longest, []⟩ :: shorter.map fun n => ⟨i + n, []⟩ := by
    rw [ways, hrun, List.map_cons]
  have hshorter : ∀ v ∈ shorter.map (fun n => (⟨i + n, []⟩ : Way)), q.ways t v.stop = [] := by
    intro v hv
    rcases List.mem_map.mp hv with ⟨k, hk, rfl⟩
    refine hq (i + k) ?_
    rw [← List.drop_drop]
    exact hstarts k hk
  rw [hrun, List.head?_cons, Option.some.injEq] at hn
  rw [ways_seq_of_eq_cons hways hshorter, hn]
  exact List.map_id _

theorem drop_add_one_of_drop {b : UInt8} {rest : Text} (h : t.drop i = b :: rest) :
    t.drop (i + 1) = rest := by
  rw [← List.drop_drop, h, List.drop_one, List.tail_cons]

theorem ways_one_of_nil {isIn : Nat → Bool} (h : t.drop i = []) : (one isIn).ways t i = [] := by
  rw [ways, h]

theorem ways_one_of_cons {isIn : Nat → Bool} (hascii : ∀ n, isIn n = true → n < 128) {b : UInt8}
    {rest : Text} (h : t.drop i = b :: rest) :
    (one isIn).ways t i = if isIn b.toNat then [⟨i + 1, []⟩] else [] := by
  rw [ways, h]
  simp only [isIn_decode hascii]
  by_cases hin : isIn b.toNat = true
  · rw [if_pos hin, if_pos hin, Text.decode_one (hascii _ hin)]
  · rw [if_neg hin, if_neg hin]

/-! ### Names -/

/-- The ways to match a name: the whole word, and then parts of it, behind which the word goes
on. -/
theorem exists_ways_name {w : Text} (h : nameAt? (t.drop i) = some w) : ∃ others : List Way,
    name.ways t i = ⟨i + w.length, [i, i + w.length]⟩ :: others ∧
      ∀ v ∈ others, ¬ EndsWord (t.drop v.stop) := by
  rcases hdrop : t.drop i with _ | ⟨b, rest⟩
  · rw [hdrop] at h
    cases h
  rw [hdrop, nameAt?] at h
  split at h
  next hb =>
    obtain rfl := Option.some.inj h
    have hone : (one isLetter).ways t i = [⟨i + 1, []⟩] := by
      rw [ways_one_of_cons isLetter_ascii hdrop, isLetter_toNat, if_pos hb]
    have hrest := drop_add_one_of_drop hdrop
    rcases exists_runLengths isWordChar rest with ⟨longest, shorter, hrun, hstarts⟩
    have hlongest := head?_runLengths_word rest
    rw [hrun, List.head?_cons, Option.some.injEq] at hlongest
    have hlen : i + 1 + longest = i + (b :: rest.takeWhile isWordByte).length := by
      rw [List.length_cons, hlongest]
      omega
    refine ⟨shorter.map fun n => ⟨i + 1 + n, [i, i + 1 + n]⟩, ?_, ?_⟩
    · rw [name, ways, ways_seq_of_eq_singleton hone, ways, hrest, hrun, List.map_cons,
        List.map_cons, List.map_map, hlen]
      rfl
    · intro v hv
      rcases List.mem_map.mp hv with ⟨n, hn, rfl⟩
      have hnext := not_endsWord_of_startsIn (hstarts n hn)
      rwa [← hrest, List.drop_drop] at hnext
  next => cases h

theorem ways_name_of_eq_none (h : nameAt? (t.drop i) = none) : name.ways t i = [] := by
  have hone : (one isLetter).ways t i = [] := by
    rcases hdrop : t.drop i with _ | ⟨b, rest⟩
    · exact ways_one_of_nil hdrop
    · rw [hdrop, nameAt?] at h
      split at h
      · cases h
      next hb => rw [ways_one_of_cons isLetter_ascii hdrop, isLetter_toNat, if_neg hb]
  rw [name, ways, ways_seq_of_eq_nil hone, List.map_nil]

/-! ### Calls -/

theorem eq_code_ascii {c : Char} (hc : c.toNat < 128) (n : Nat) (h : (n == c.toNat) = true) :
    n < 128 := by
  rwa [beq_iff_eq.mp h]

theorem ways_paren (j : Nat) : (one (· == '('.toNat)).ways t j =
    match t.drop j with
    | 40 :: _ => [⟨j + 1, []⟩]
    | _ => [] := by
  rcases hdrop : t.drop j with _ | ⟨b, rest⟩
  · exact ways_one_of_nil hdrop
  · rw [ways_one_of_cons (eq_code_ascii (by decide)) hdrop]
    by_cases hb : b = 40
    · rw [hb]
      rfl
    · have hcode : ¬ (b.toNat == '('.toNat) = true := by
        rw [beq_iff_eq]
        exact fun h => hb (UInt8.toNat_inj.mp h)
      rw [if_neg hcode]
      split
      next heq => exact absurd (List.cons.inj heq).1 hb
      next => rfl

theorem ways_opening : opening.ways t i =
    match (t.drop i).drop (Text.scriptSpace (t.drop i)) with
    | 40 :: _ => [⟨i + Text.scriptSpace (t.drop i) + 1, []⟩]
    | _ => [] := by
  have hspace : ∀ j, startsIn Text.isScriptSpace (t.drop j) = true →
      (one (· == '('.toNat)).ways t j = [] := by
    intro j hstarts
    rw [ways_paren]
    split
    next rest heq =>
      rw [heq, startsIn, Text.decode_one (by decide)] at hstarts
      cases hstarts
    next => rfl
  rw [opening, ways_many_seq (head?_runLengths_space _) hspace, ways_paren, List.drop_drop]

/-- Inside a word there is no way to an opening parenthesis. -/
theorem ways_opening_of_not_endsWord (h : ¬ EndsWord (t.drop i)) : opening.ways t i = [] := by
  rcases hdrop : t.drop i with _ | ⟨b, rest⟩
  · rw [hdrop] at h
    exact absurd (by simp [EndsWord]) h
  · have hb : isWordByte b = true := by
      simpa [hdrop, EndsWord] using h
    rw [ways_opening, hdrop, scriptSpace_word_cons hb, List.drop_zero]
    split
    next heq =>
      rw [(List.cons.inj heq).1] at hb
      cases hb
    next => rfl

/-- Behind the start of a word, the pattern and the shape of a call match alike. -/
theorem matchAt?_name_opening : (seq name opening).matchAt? t i =
    (callAt? (t.drop i)).map fun o => (o.shift i).indices := by
  cases hname : nameAt? (t.drop i) with
  | none =>
    rw [matchAt?, ways_seq_of_eq_nil (ways_name_of_eq_none hname)]
    simp [callAt?, hname]
  | some w =>
    rcases exists_ways_name hname with ⟨others, hways, hothers⟩
    have hopening : ∀ v ∈ others, opening.ways t v.stop = [] := by
      intro v hv
      exact ways_opening_of_not_endsWord (hothers v hv)
    rw [matchAt?, ways_seq_of_eq_cons hways hopening, ways_opening]
    simp only [callAt?, hname, Option.bind_eq_bind, Option.bind_some, List.drop_drop]
    generalize Text.scriptSpace (t.drop (i + w.length)) = blank
    rcases t.drop (i + w.length + blank) with _ | ⟨b, rest⟩
    · rfl
    by_cases hb : b = 40
    · subst hb
      simp only [List.map_cons, List.map_nil, List.head?_cons, Option.map_some,
        Occurrence.indices, Occurrence.shift, Nat.zero_add, List.append_nil]
      congr 3
      omega
    · simp [hb]

/-! ### Declarations -/

theorem ways_literal (p : Pattern) {cs : List Char} (hcs : ∀ c ∈ cs, c.toNat < 128) :
    (literal cs p).ways t i =
      match Text.dropLead? (cs.map fun c => .ofNat c.toNat) (t.drop i) with
      | some _ => p.ways t (i + cs.length)
      | none => [] := by
  induction cs generalizing i with
  | nil => rfl
  | cons c cs ih =>
    have hc : c.toNat < 128 := hcs c List.mem_cons_self
    have hliteral : literal (c :: cs) p = seq (one (· == c.toNat)) (literal cs p) := rfl
    rcases hdrop : t.drop i with _ | ⟨b, rest⟩
    · rw [hliteral, ways_seq_of_eq_nil (ways_one_of_nil hdrop)]
      rfl
    have hone := ways_one_of_cons (eq_code_ascii hc) hdrop
    have hrest := drop_add_one_of_drop hdrop
    rw [hliteral, List.map_cons, Text.dropLead?]
    by_cases hb : b.toNat = c.toNat
    · rw [if_pos (beq_iff_eq.mpr hb)] at hone
      have hbyte : (UInt8.ofNat c.toNat == b) = true := by
        rw [beq_iff_eq, ← hb, UInt8.ofNat_toNat]
      rw [ways_seq_of_eq_singleton hone, ih fun d hd => hcs d (List.mem_cons_of_mem c hd), hrest,
        if_pos hbyte, List.length_cons, Nat.add_assoc, Nat.add_comm 1]
    · rw [if_neg (by rwa [beq_iff_eq])] at hone
      have hbyte : ¬ (UInt8.ofNat c.toNat == b) = true := by
        rw [beq_iff_eq]
        intro h
        rw [← h, UInt8.toNat_ofNat'] at hb
        omega
      rw [ways_seq_of_eq_nil hone, if_neg hbyte]

theorem scriptSpace_of_startsIn {t : Text} (h : startsIn Text.isScriptSpace t = true) :
    Text.scriptSpace t ≠ 0 := by
  rcases t with _ | ⟨a, rest⟩
  · cases h
  · have hwidth := width_pos a rest
    rw [startsIn] at h
    rw [Text.scriptSpace, if_pos h]
    omega

/-- White space before something that does not start with any. -/
theorem ways_spaces {p : Pattern}
    (hp : ∀ j, startsIn Text.isScriptSpace (t.drop j) = true → p.ways t j = []) :
    (seq (one Text.isScriptSpace) (seq (many Text.isScriptSpace) p)).ways t i =
      if Text.scriptSpace (t.drop i) = 0 then []
      else p.ways t (i + Text.scriptSpace (t.drop i)) := by
  rcases hdrop : t.drop i with _ | ⟨a, rest⟩
  · rw [ways_seq_of_eq_nil (ways_one_of_nil hdrop), Text.scriptSpace, if_pos rfl]
  by_cases ha : Text.isScriptSpace (Text.decode a rest).code = true
  · have hone : (one Text.isScriptSpace).ways t i = [⟨i + (Text.decode a rest).width, []⟩] := by
      rw [ways, hdrop]
      exact if_pos ha
    have hrest : t.drop (i + (Text.decode a rest).width) =
        rest.drop ((Text.decode a rest).width - 1) := by
      rw [← List.drop_drop, hdrop, drop_width]
    have hspace : Text.scriptSpace (a :: rest) ≠ 0 := scriptSpace_of_startsIn (by rwa [startsIn])
    rw [if_neg hspace, ways_seq_of_eq_singleton hone,
      ways_many_seq (head?_runLengths_space _) hp, hrest, Text.scriptSpace, if_pos ha,
      Nat.add_assoc]
  · have hone : (one Text.isScriptSpace).ways t i = [] := by
      rw [ways, hdrop]
      exact if_neg ha
    rw [ways_seq_of_eq_nil hone, Text.scriptSpace, if_neg ha, if_pos rfl]

theorem ways_name_of_startsIn_space (h : startsIn Text.isScriptSpace (t.drop i) = true) :
    name.ways t i = [] := by
  refine ways_name_of_eq_none ?_
  rcases hdrop : t.drop i with _ | ⟨b, rest⟩
  · rfl
  · rw [hdrop] at h
    rw [nameAt?, if_neg]
    intro hb
    exact scriptSpace_of_startsIn h (scriptSpace_word_cons (isNameStart_iff.mp hb).1 rest)

/-- Behind the start of a word, the pattern and the shape of a declaration match alike. -/
theorem matchAt?_literal_spaces_name :
    (literal ['p', 'r', 'o', 'c']
      (seq (one Text.isScriptSpace) (seq (many Text.isScriptSpace) name))).matchAt? t i =
    (declarationAt? (t.drop i)).map fun o => (o.shift i).indices := by
  have hascii : ∀ c ∈ ['p', 'r', 'o', 'c'], c.toNat < 128 := by simp
  have hkeyword : (['p', 'r', 'o', 'c'].map fun c => UInt8.ofNat c.toNat) = keyword := rfl
  rw [matchAt?, ways_literal _ hascii, hkeyword]
  cases hlead : Text.dropLead? keyword (t.drop i) with
  | none => simp [declarationAt?, hlead]
  | some after =>
    have hafter : t.drop (i + keyword.length) = after := by
      rw [← List.drop_drop, Text.dropLead?_eq_some_iff.mp hlead, List.drop_left]
    have hlength : ['p', 'r', 'o', 'c'].length = keyword.length := rfl
    simp only [declarationAt?, hlead, Option.bind_eq_bind, Option.bind_some]
    rw [ways_spaces fun j => ways_name_of_startsIn_space, hlength, hafter]
    by_cases hblank : Text.scriptSpace after = 0
    · rw [if_pos hblank, if_pos hblank]
      rfl
    rw [if_neg hblank, if_neg hblank]
    have hdrop : t.drop (i + keyword.length + Text.scriptSpace after) =
        after.drop (Text.scriptSpace after) := by
      rw [← List.drop_drop, hafter]
    cases hname : nameAt? (after.drop (Text.scriptSpace after)) with
    | none =>
      rw [ways_name_of_eq_none (by rw [hdrop, hname])]
      rfl
    | some w =>
      rcases exists_ways_name (t := t) (w := w) (by rw [hdrop, hname]) with ⟨others, hways, -⟩
      rw [hways]
      simp only [List.head?_cons, Option.map_some, Option.bind_some, Occurrence.indices,
        Occurrence.shift, Nat.zero_add, Option.some.injEq, List.cons.injEq, and_true, true_and]
      omega

end Pattern

/-! ## The passes -/

/-- The shape that a pass looks for. -/
def Pass.shape : Pass → Text → Option Occurrence
  | .definitions => declarationAt?
  | .calls => callAt?

/-- The pattern of what a pass looks for. -/
def Pass.pattern : Pass → Pattern
  | .definitions => .declaration
  | .calls => .call

theorem Pass.shape_lawful (pass : Pass) : Lawful pass.shape := by
  cases pass with
  | definitions => exact declarationAt?_lawful
  | calls => exact callAt?_lawful

theorem matchAt?_boundary_seq (p : Pattern) (t : Text) (i : Nat) :
    (Pattern.seq .boundary p).matchAt? t i =
      if isBoundary t i then p.matchAt? t i else none := by
  unfold Pattern.matchAt?
  split
  next hb => rw [Pattern.ways_seq_of_eq_singleton (by rw [Pattern.ways, if_pos hb])]
  next hb =>
    rw [Pattern.ways_seq_of_eq_nil (by rw [Pattern.ways, if_neg hb])]
    rfl

theorem Pass.matchAt?_pattern (pass : Pass) (t : Text) (i : Nat) : pass.pattern.matchAt? t i =
    if isBoundary t i then (pass.shape (t.drop i)).map fun o => (o.shift i).indices else none := by
  cases pass with
  | definitions =>
    rw [Pass.pattern, Pattern.declaration, matchAt?_boundary_seq,
      Pattern.matchAt?_literal_spaces_name]
    rfl
  | calls =>
    rw [Pass.pattern, Pattern.call, matchAt?_boundary_seq, Pattern.matchAt?_name_opening]
    rfl

/-- Before a word, the edge of a word is where no word goes on. -/
theorem isBoundary_iff {t : Text} {i : Nat} (h : ¬ EndsWord (t.drop i)) :
    isBoundary t i = true ↔ AllowsWord (t.take i) := by
  have hafter : (t.drop i).head?.any isWordByte = true := by
    rw [← Bool.not_eq_false, Option.any_eq_false]
    exact h
  rw [isBoundary, hafter, bne_iff_ne, ne_eq, Bool.not_eq_true, Option.any_eq_false]
  rfl

/-- A pattern matches at an offset of the whole text if and only if the shape occurs there, with the
same offsets. -/
theorem Pass.matchAt?_pattern_iff {pass : Pass} {t : Text} {i : Nat} {m : List Nat} :
    pass.pattern.matchAt? t i = some m ↔ ∃ o, Occurs pass.shape t i o ∧ m = o.indices := by
  rw [Pass.matchAt?_pattern]
  constructor
  · intro h
    split at h
    next hb =>
      rcases Option.map_eq_some_iff.mp h with ⟨o, ho, rfl⟩
      exact ⟨o.shift i, ⟨(isBoundary_iff (pass.shape_lawful.head ho)).mp hb, o, ho, rfl⟩, rfl⟩
    next => cases h
  · rintro ⟨_, ⟨hallows, o, ho, rfl⟩, rfl⟩
    rw [if_pos ((isBoundary_iff (pass.shape_lawful.head ho)).mpr hallows), ho, Option.map_some]

end CallLight.Script
