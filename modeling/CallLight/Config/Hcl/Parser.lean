import CallLight.Config.Hcl.Template
import CallLight.Config.Hcl.Token

/-!
# Parser of HCL

From words to the tree of a file. Line breaks end an attribute, but mean nothing inside of
parentheses, brackets, template sequences and `for` expressions; the flag `lines` says whether they
count. Every function takes fuel, which bounds the depth of its calls; the number of words gives
enough of it.
-/

namespace CallLight.Hcl

/-- The words as they are seen: line breaks are passed over where they do not count. -/
def seen (lines : Bool) (ts : List Token) : List Token :=
  if lines then ts else ts.dropWhile (· == .newline)

/-- Takes a certain mark. -/
def expect (mark : Mark) (lines : Bool) (ts : List Token) : Option (List Token) :=
  match seen lines ts with
  | .mark m :: rest => if m = mark then some rest else none
  | _ => none

/-- Takes a certain keyword. -/
def expectName (word : String) (lines : Bool) (ts : List Token) : Option (List Token) :=
  match seen lines ts with
  | .name n :: rest => if n = word then some rest else none
  | _ => none

/-- Takes a name. -/
def takeName (lines : Bool) (ts : List Token) : Option (String × List Token) :=
  match seen lines ts with
  | .name n :: rest => some (n, rest)
  | _ => none

/-- The operators of a level; a higher level binds tighter. -/
def operatorAt (level : Nat) (mark : Mark) : Option Operator :=
  match level, mark with
  | 0, .or => some .or
  | 1, .and => some .and
  | 2, .equal => some .equal
  | 2, .notEqual => some .notEqual
  | 3, .greater => some .greater
  | 3, .greaterEqual => some .greaterEqual
  | 3, .less => some .less
  | 3, .lessEqual => some .lessEqual
  | 4, .plus => some .add
  | 4, .minus => some .subtract
  | 5, .star => some .multiply
  | 5, .slash => some .divide
  | 5, .percent => some .remainder
  | _, _ => none

/-- The number of levels of operators. -/
def operatorLevels : Nat := 6

/-- The variables of a loop, `value` or `key, value`, and the `in` behind them. -/
def loopVariables (ts : List Token) : Option ((Option String × String) × List Token) := do
  let (first, ts) ← takeName false ts
  match expect .comma false ts with
  | none => return ((none, first), ← expectName "in" false ts)
  | some ts =>
    let (second, ts) ← takeName false ts
    return ((some first, second), ← expectName "in" false ts)

/-- The value of a number. -/
def numberLiteral (text : String) : Option Expr :=
  (Number.parse? text).map fun n => .literal (.number n)

/-- The index after a dot, which is a whole number. -/
def dotIndex (text : String) : Option Expr :=
  if text.toList.contains '.' then none else numberLiteral text

/-- The steps of a splat after a dot: names and indices, each after a dot of its own. -/
def dotSteps (lines : Bool) : (fuel : Nat) → Expr → List Token → Option (Expr × List Token)
  | 0, _, _ => none
  | fuel + 1, e, ts =>
    match expect .dot lines ts with
    | none => some (e, ts)
    | some ts =>
      match seen lines ts with
      | .name n :: ts => dotSteps lines fuel (.member e n) ts
      | .number text :: ts => (dotIndex text).bind fun i => dotSteps lines fuel (.index e i) ts
      | _ => none

/-- The rest of a name in parts, up to an opening parenthesis. -/
def qualifiedName (lines : Bool) : (fuel : Nat) → List Token → Option (List Token)
  | 0, _ => none
  | fuel + 1, ts => do
    let (_, ts) ← takeName lines ts
    match seen lines ts with
    | .mark .openParen :: ts => return ts
    | .mark .doubleColon :: ts => qualifiedName lines fuel ts
    | _ => none

mutual

/-- An expression. -/
def expression : (fuel : Nat) → (lines : Bool) → List Token → Option (Expr × List Token)
  | 0, _, _ => none
  | fuel + 1, lines, ts => do
    let (condition, ts) ← binary fuel 0 lines ts
    match expect .question lines ts with
    | none => return (condition, ts)
    | some ts =>
      let (onTrue, ts) ← expression fuel lines ts
      let ts ← expect .colon lines ts
      let (onFalse, ts) ← expression fuel lines ts
      return (.conditional condition onTrue onFalse, ts)

/-- Operands joined by operators of a level or of a higher one. -/
def binary : (fuel level : Nat) → (lines : Bool) → List Token → Option (Expr × List Token)
  | 0, _, _, _ => none
  | fuel + 1, level, lines, ts => do
    if level = operatorLevels then
      let (e, ts) ← term fuel lines ts
      steps fuel lines e ts
    else
      let (left, ts) ← binary fuel (level + 1) lines ts
      binaryRest fuel level lines left ts

/-- Further operands of a level, which group to the left. -/
def binaryRest :
    (fuel level : Nat) → (lines : Bool) → Expr → List Token → Option (Expr × List Token)
  | 0, _, _, _, _ => none
  | fuel + 1, level, lines, left, ts =>
    match seen lines ts with
    | .mark m :: rest =>
      match operatorAt level m with
      | none => some (left, ts)
      | some op => do
        let (right, ts) ← binary fuel (level + 1) lines rest
        binaryRest fuel level lines (.binary op left right) ts
    | _ => some (left, ts)

/-- The steps behind a term: attributes, indices and splats. -/
def steps : (fuel : Nat) → (lines : Bool) → Expr → List Token → Option (Expr × List Token)
  | 0, _, _, _ => none
  | fuel + 1, lines, e, ts =>
    match seen lines ts with
    | .mark .dot :: ts =>
      match seen lines ts with
      | .name n :: ts => steps fuel lines (.member e n) ts
      | .number text :: ts => (dotIndex text).bind fun i => steps fuel lines (.index e i) ts
      | .mark .star :: ts => do
        let (each, ts) ← dotSteps lines fuel .item ts
        steps fuel lines (.splat e each) ts
      | _ => none
    | .mark .openBracket :: ts =>
      match seen lines ts with
      | .mark .star :: ts => do
        let ts ← expect .closeBracket lines ts
        let (each, ts) ← steps fuel lines .item ts
        steps fuel lines (.splat e each) ts
      | _ => do
        let (key, ts) ← expression fuel false ts
        let ts ← expect .closeBracket false ts
        steps fuel lines (.index e key) ts
    | _ => some (e, ts)

/-- A term. -/
def term : (fuel : Nat) → (lines : Bool) → List Token → Option (Expr × List Token)
  | 0, _, _ => none
  | fuel + 1, lines, ts =>
    match seen lines ts with
    | .mark .openParen :: ts => do
      let (e, ts) ← expression fuel false ts
      return (.paren e, ← expect .closeParen false ts)
    | .number text :: ts => (numberLiteral text).map fun e => (e, ts)
    | .name n :: ts =>
      match seen lines ts with
      | .mark .openParen :: ts => do
        return (.unresolvable, ← arguments fuel ts)
      | .mark .doubleColon :: ts => do
        let ts ← qualifiedName lines ts.length ts
        return (.unresolvable, ← arguments fuel ts)
      | _ =>
        match n with
        | "true" => some (.literal (.bool true), ts)
        | "false" => some (.literal (.bool false), ts)
        | "null" => some (.literal (.null .dynamic), ts)
        | _ => some (.variable n, ts)
    | .openQuote :: ts => do
      let (parts, ts) ← templateParts fuel .closeQuote false [] ts
      return (← Part.toExpr false parts.reverse, ts)
    | .openHeredoc indented :: ts => do
      let (parts, ts) ← templateParts fuel .closeHeredoc false [] ts
      return (← Part.toExpr indented parts.reverse, ts)
    | .mark .minus :: ts => do
      let (e, ts) ← term fuel lines ts
      let (e, ts) ← steps fuel lines e ts
      return (.negate e, ts)
    | .mark .bang :: ts => do
      let (e, ts) ← term fuel lines ts
      let (e, ts) ← steps fuel lines e ts
      return (.not e, ts)
    | .mark .openBracket :: ts =>
      match expectName "for" false ts with
      | some ts => do
        let ((key, value), ts) ← loopVariables ts
        forExpr fuel false key value ts
      | none => do
        let (items, ts) ← tupleItems fuel ts
        return (.tuple items, ts)
    | .mark .openBrace :: ts =>
      match expectName "for" false ts with
      | some ts => do
        let ((key, value), ts) ← loopVariables ts
        forExpr fuel true key value ts
      | none => do
        let (entries, ts) ← objectEntries fuel ts
        return (.object entries, ts)
    | _ => none

/-- The arguments of a call and the parenthesis that ends them. -/
def arguments : (fuel : Nat) → List Token → Option (List Token)
  | 0, _ => none
  | fuel + 1, ts =>
    match seen false ts with
    | .mark .closeParen :: ts => some ts
    | _ => do
      let (_, ts) ← expression fuel false ts
      match seen false ts with
      | .mark .closeParen :: ts => return ts
      | .mark .ellipsis :: ts => expect .closeParen false ts
      | .mark .comma :: ts => arguments fuel ts
      | _ => none

/-- The items of a tuple and the bracket that ends them. -/
def tupleItems : (fuel : Nat) → List Token → Option (List Expr × List Token)
  | 0, _ => none
  | fuel + 1, ts =>
    match seen false ts with
    | .mark .closeBracket :: ts => some ([], ts)
    | _ => do
      let (e, ts) ← expression fuel false ts
      match seen false ts with
      | .mark .closeBracket :: ts => return ([e], ts)
      | .mark .comma :: ts =>
        let (es, ts) ← tupleItems fuel ts
        return (e :: es, ts)
      | _ => none

/-- The entries of an object, each on a line of its own or ended by a comma, and the brace that ends
them. -/
def objectEntries : (fuel : Nat) → List Token → Option (List Entry × List Token)
  | 0, _ => none
  | fuel + 1, ts =>
    match ts with
    | .newline :: ts => objectEntries fuel ts
    | .mark .closeBrace :: ts => some ([], ts)
    | _ => do
      let forced := ts.head? == some (.mark .openParen)
      let (key, ts) ← expression fuel true ts
      let key := if forced then key else key.asKey
      let ts ← match ts with
        | .mark .assign :: ts => some ts
        | .mark .colon :: ts => some ts
        | _ => none
      let (value, ts) ← expression fuel true ts
      match ts with
      | .mark .closeBrace :: ts => return ([.mk key value], ts)
      | .mark .comma :: ts =>
        let (entries, ts) ← objectEntries fuel ts
        return (.mk key value :: entries, ts)
      | .newline :: ts =>
        let (entries, ts) ← objectEntries fuel ts
        return (.mk key value :: entries, ts)
      | _ => none

/-- The rest of a `for` expression behind its variables. An object needs a key, and only its values
can be grouped. -/
def forExpr :
    (fuel : Nat) → (object : Bool) → Option String → String → List Token →
      Option (Expr × List Token)
  | 0, _, _, _, _ => none
  | fuel + 1, object, key, value, ts => do
    let (source, ts) ← expression fuel false ts
    let ts ← expect .colon false ts
    let (first, ts) ← expression fuel false ts
    let (second, ts) ← match expect .arrow false ts with
      | none => some (none, ts)
      | some ts => (expression fuel false ts).map fun (e, ts) => (some e, ts)
    let (grouped, ts) := match expect .ellipsis false ts with
      | none => (false, ts)
      | some ts => (true, ts)
    let (condition, ts) ← match expectName "if" false ts with
      | none => some (.literal (.bool true), ts)
      | some ts => expression fuel false ts
    let ts ← expect (if object then .closeBrace else .closeBracket) false ts
    match object, second with
    | true, some body =>
      return (.forObject key value source first body condition grouped, ts)
    | false, none =>
      if grouped then none else return (.forTuple key value source first condition, ts)
    | _, _ => none

/-- A control sequence behind its keyword. -/
def controlPart : (fuel : Nat) → (word : String) → List Token → Option (Part × List Token)
  | 0, _, _ => none
  | fuel + 1, word, ts =>
    match word with
    | "if" => (expression fuel false ts).map fun (e, ts) => (.ifStart e, ts)
    | "else" => some (.ifElse, ts)
    | "endif" => some (.ifEnd, ts)
    | "for" => do
      let ((key, value), ts) ← loopVariables ts
      let (source, ts) ← expression fuel false ts
      return (.forStart key value source, ts)
    | "endfor" => some (.forEnd, ts)
    | _ => none

/-- The parts of a template, in reverse, up to its closing. `trims` says whether blanks at the front
of the next literal are to be cut. -/
def templateParts :
    (fuel : Nat) → Token → (trims : Bool) → List Part → List Token →
      Option (List Part × List Token)
  | 0, _, _, _, _ => none
  | fuel + 1, closing, trims, parts, ts =>
    match ts with
    | .literal s :: ts =>
      let s := if trims then Part.trimLeft s else s
      templateParts fuel closing false (.literal s :: parts) ts
    | .interpolation eats :: ts => do
      let parts := if eats then Part.trimLast parts else parts
      let (e, ts) ← expression fuel false ts
      match seen false ts with
      | .sequenceEnd trims :: ts =>
        templateParts fuel closing trims (.interpolation e :: parts) ts
      | _ => none
    | .control eats :: ts => do
      let parts := if eats then Part.trimLast parts else parts
      let (word, ts) ← takeName false ts
      let (part, ts) ← controlPart fuel word ts
      match seen false ts with
      | .sequenceEnd trims :: ts => templateParts fuel closing trims (part :: parts) ts
      | _ => none
    | t :: ts => if t = closing then some (parts, ts) else none
    | [] => none

end

/-- The label of a block that is written as a string. It may not hold template sequences. -/
def quotedLabel : List Token → Option (List Token)
  | .literal _ :: ts => quotedLabel ts
  | .closeQuote :: ts => some ts
  | _ => none

/-- Enough fuel for any expression of a number of words: between two words lie no more calls than
there are levels of operators and a few more. -/
def enoughFuel (ts : List Token) : Nat := 16 * (ts.length + 2)

/-- Takes the line break that ends an item; the end of the file does as well. -/
def lineEnd : List Token → Option (List Token)
  | .newline :: ts => some ts
  | [] => some []
  | _ => none

mutual

/-- The items of a file or of a block, up to the closing brace of a block. -/
def body : (fuel : Nat) → (nested : Bool) → Body → List Token → Option (Body × List Token)
  | 0, _, _, _ => none
  | _ + 1, nested, done, [] => if nested then none else some (done, [])
  | fuel + 1, nested, done, t :: ts =>
    match t with
    | .newline => body fuel nested done ts
    | .mark .closeBrace => if nested then some (done, ts) else none
    | .name n =>
      match ts with
      | .mark .assign :: ts => do
        let (e, ts) ← expression (enoughFuel ts) true ts
        let ts ← lineEnd ts
        if done.attributes.any fun (m, _) => m == n then none
        else body fuel nested ⟨done.attributes ++ [(n, e)], done.hasBlocks⟩ ts
      | _ => do
        let ts ← block fuel ts
        body fuel nested ⟨done.attributes, true⟩ ts
    | _ => none

/-- The rest of a block behind its first name: labels, and a body in braces. A body on the line of
the opening brace has one attribute at most. -/
def block : (fuel : Nat) → List Token → Option (List Token)
  | 0, _ => none
  | fuel + 1, ts =>
    match ts with
    | .name _ :: ts => block fuel ts
    | .openQuote :: ts => (quotedLabel ts).bind fun ts => block fuel ts
    | .mark .openBrace :: ts =>
      match ts with
      | .name _ :: .mark .assign :: ts => do
        let (_, ts) ← expression (enoughFuel ts) true ts
        let ts ← expect .closeBrace true ts
        lineEnd ts
      | .newline :: ts => do
        let (_, ts) ← body fuel true ⟨[], false⟩ ts
        lineEnd ts
      | .mark .closeBrace :: ts => lineEnd ts
      | _ => none
    | _ => none

end

/-- The tree of a file. -/
def parse (t : Text) : Option Body := do
  let ts ← tokens t
  let (b, _) ← body (2 * ts.length + 2) false ⟨[], false⟩ ts
  return b

end CallLight.Hcl
