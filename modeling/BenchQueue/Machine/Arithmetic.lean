import BenchQueue.Number.Reader
/-!
# Arithmetic of shell scripts

The expressions between double brackets: integers, variables, the operators of one and two operands
with their precedences, and the choice between two values. An expression that is malformed or
divides by zero has no value.
-/

namespace BenchQueue.Machine.Arithmetic

/-- A token of an expression. -/
inductive Token
  | number (n : Int)
  | name (s : String)
  | operator (s : String)
  deriving DecidableEq, Repr

/-- The operators, the longer ones first. -/
def operators : List String :=
  ["<<", ">>", "<=", ">=", "==", "!=", "&&", "||", "+", "-", "*", "/", "%", "<", ">", "!", "~", "&",
    "|", "^", "?", ":", "(", ")"]

/-- The tokens of a text. -/
def tokens : Nat → List Char → Option (List Token)
  | 0, _ => none
  | _ + 1, [] => some []
  | fuel + 1, c :: rest =>
    let text := c :: rest
    if c.isWhitespace then tokens fuel rest
    else if c.isDigit then do
      let digits := text.takeWhile Char.isDigit
      pure (.number (digitsValue digits) :: (← tokens fuel (text.drop digits.length)))
    else if c.isAlpha || c == '_' then do
      let name := text.takeWhile fun c => c.isAlphanum || c == '_'
      pure (.name (String.ofList name) :: (← tokens fuel (text.drop name.length)))
    else do
      let o ← operators.find? fun o => o.toList.isPrefixOf text
      pure (.operator o :: (← tokens fuel (text.drop o.length)))

/-- The operators of two operands, those that bind less first. -/
def levels : List (List String) :=
  [["||"], ["&&"], ["|"], ["^"], ["&"], ["==", "!="], ["<=", ">=", "<", ">"], ["<<", ">>"],
    ["+", "-"], ["*", "/", "%"]]

/-- The number that stands for a truth value. -/
def ofBool (b : Bool) : Int := if b then 1 else 0

/-- An operation on the bits of two integers of 64 bits. -/
def onBits (f : Int64 → Int64 → Int64) (a b : Int) : Int :=
  (f (Int64.ofInt a) (Int64.ofInt b)).toInt

/-- The value of an operation on two operands. -/
def apply (o : String) (a b : Int) : Option Int :=
  match o with
  | "+" => some (a + b)
  | "-" => some (a - b)
  | "*" => some (a * b)
  | "/" => if b = 0 then none else some (a.tdiv b)
  | "%" => if b = 0 then none else some (a.tmod b)
  | "<" => some (ofBool (a < b))
  | ">" => some (ofBool (b < a))
  | "<=" => some (ofBool (a ≤ b))
  | ">=" => some (ofBool (b ≤ a))
  | "==" => some (ofBool (a = b))
  | "!=" => some (ofBool (a ≠ b))
  | "&&" => some (ofBool (a ≠ 0 && b ≠ 0))
  | "||" => some (ofBool (a ≠ 0 || b ≠ 0))
  | "&" => some (onBits (· &&& ·) a b)
  | "|" => some (onBits (· ||| ·) a b)
  | "^" => some (onBits (· ^^^ ·) a b)
  | "<<" => some (onBits (· <<< ·) a b)
  | ">>" => some (onBits (· >>> ·) a b)
  | _ => none

mutual

/-- The value at the start of some tokens, with a choice if there is one, and the tokens behind it.
-/
def whole : Nat → (String → Int) → List Token → Option (Int × List Token)
  | 0, _, _ => none
  | fuel + 1, env, tokens => do
    let (a, rest) ← level fuel env levels tokens
    match rest with
    | .operator "?" :: rest =>
      let (b, rest) ← whole fuel env rest
      match rest with
      | .operator ":" :: rest =>
        let (c, rest) ← whole fuel env rest
        pure (if a ≠ 0 then b else c, rest)
      | _ => none
    | rest => pure (a, rest)

/-- The value of operations that bind at least as much as some. -/
def level : Nat → (String → Int) → List (List String) → List Token → Option (Int × List Token)
  | 0, _, _, _ => none
  | fuel + 1, env, [], tokens => operand fuel env tokens
  | fuel + 1, env, ops :: tighter, tokens => do
    let (a, rest) ← level fuel env tighter tokens
    more fuel env ops tighter a rest

/-- The value with the operations of one precedence behind it. -/
def more : Nat → (String → Int) → List String → List (List String) → Int → List Token →
    Option (Int × List Token)
  | 0, _, _, _, _, _ => none
  | fuel + 1, env, ops, tighter, a, tokens =>
    match tokens with
    | .operator o :: rest =>
      if ops.contains o then do
        let (b, rest) ← level fuel env tighter rest
        more fuel env ops tighter (← apply o a b) rest
      else some (a, tokens)
    | tokens => some (a, tokens)

/-- The value of an operand. -/
def operand : Nat → (String → Int) → List Token → Option (Int × List Token)
  | 0, _, _ => none
  | fuel + 1, env, tokens =>
    match tokens with
    | .number n :: rest => some (n, rest)
    | .name s :: rest => some (env s, rest)
    | .operator "-" :: rest => do let (a, rest) ← operand fuel env rest; pure (-a, rest)
    | .operator "+" :: rest => operand fuel env rest
    | .operator "!" :: rest => do let (a, rest) ← operand fuel env rest; pure (ofBool (a = 0), rest)
    | .operator "~" :: rest => do let (a, rest) ← operand fuel env rest; pure (-a - 1, rest)
    | .operator "(" :: rest => do
      let (a, rest) ← whole fuel env rest
      match rest with
      | .operator ")" :: rest => pure (a, rest)
      | _ => none
    | _ => none

end

/-- The value of an expression. -/
def value? (env : String → Int) (text : String) : Option Int := do
  let found ← tokens (text.length + 1) text.toList
  if found.isEmpty then pure 0
  else
    let (a, rest) ← whole (16 * found.length + 16) env found
    if rest.isEmpty then pure a else none

/-- The variables in an expression. -/
def names (text : String) : List String :=
  ((tokens (text.length + 1) text.toList).getD []).filterMap fun
    | .name s => some s
    | _ => none

end BenchQueue.Machine.Arithmetic
