import LintBench.Host.Shell.State

/-!
# Arithmetic of the shell

Expressions over whole numbers of 64 bits, whose value is found while they are read.
Signs that bind less strongly are read first. An expression can set variables.
-/

namespace LintBench.Host.Shell

/-- Why an expression has no value. -/
inductive SumFault where
  /-- A number or a variable should stand where the expression goes on otherwise. -/
  | noOperand
  /-- Something is left of the expression. -/
  | rest
  /-- Something is divided by zero. -/
  | byZero

/-- What is told about a fault. -/
def SumFault.text : SumFault → String
  | .noOperand => "expecting primary"
  | .rest => "expecting EOF"
  | .byZero => "division by zero"

/-- How far an expression has been read. -/
structure SumState where
  /-- What is not read yet. -/
  rest : Octets
  /-- The values that variables were given, the last one first. -/
  assigned : List (String × Int) := []

/-- A step of reading an expression. -/
abbrev SumReader := StateT SumState (Except SumFault)

/-- How many numbers 64 bits can hold. -/
def wordSize : Nat := 18446744073709551616

/-- A number as 64 bits hold it. -/
def wrapped (n : Int) : Int := n.bmod wordSize

/-- The signs between operands by how strongly they bind, the weakest first. -/
def binarySigns : List (List String) :=
  [["||"], ["&&"], ["|"], ["^"], ["&"], ["==", "!="], ["<=", ">=", "<", ">"], ["<<", ">>"],
    ["+", "-"], ["*", "/", "%"]]

/-- The signs that give a variable a value; the sign before the last character says which. -/
def settingSigns : List String := ["=", "+=", "-=", "*=", "/=", "%="]

/-- The longest of all signs with which a text starts. -/
def signAt? (text : Octets) : Option String :=
  let long := ["||", "&&", "==", "!=", "<=", ">=", "<<", ">>", "+=", "-=", "*=", "/=", "%="]
  (long ++ ["|", "^", "&", "<", ">", "+", "-", "*", "/", "%", "="]).find? fun sign =>
    sign.toList.isPrefixOf text

/-- The value of bits made of those of two numbers. -/
def combineBits (combine : Nat → Nat → Nat) (left right : Int) : Int :=
  let bits (n : Int) : Nat := (n % wordSize).toNat
  wrapped (combine (bits left) (bits right))

/-- The value of a sign between two numbers. -/
def combine (sign : String) (left right : Int) : Except SumFault Int :=
  let truth (holds : Bool) : Except SumFault Int := .ok (if holds then 1 else 0)
  match sign with
  | "+" => .ok (wrapped (left + right))
  | "-" => .ok (wrapped (left - right))
  | "*" => .ok (wrapped (left * right))
  | "/" => if right = 0 then .error .byZero else .ok (wrapped (left.tdiv right))
  | "%" => if right = 0 then .error .byZero else .ok (left.tmod right)
  | "|" => .ok (combineBits Nat.lor left right)
  | "^" => .ok (combineBits Nat.xor left right)
  | "&" => .ok (combineBits Nat.land left right)
  | "<<" => .ok (wrapped (left * Nat.shiftLeft 1 right.toNat))
  | ">>" => .ok (Int.shiftRight left right.toNat)
  | "<" => truth (left < right)
  | ">" => truth (left > right)
  | "<=" => truth (left ≤ right)
  | ">=" => truth (left ≥ right)
  | "==" => truth (left = right)
  | "!=" => truth (left ≠ right)
  | "&&" => truth (left ≠ 0 && right ≠ 0)
  | "||" => truth (left ≠ 0 || right ≠ 0)
  | _ => .ok right

/-- Take the blanks that come next. -/
def skipSumBlanks : SumReader Unit :=
  modify fun state => { state with
    rest := state.rest.dropWhile fun c => c = ' ' || c = '\t' || c = '\n' }

/-- Take a sign if it comes next. -/
def acceptSign (sign : Char) : SumReader Bool := do
  skipSumBlanks
  let state ← get
  if state.rest.head? = some sign then
    set { state with rest := state.rest.drop 1 }
    return true
  else return false

/-- Take a number: in digits of ten, of sixteen after a zero and a letter, or of eight after a
zero. -/
def takeNumber? : SumReader (Option Int) := do
  let state ← get
  let digits := state.rest.takeWhile Char.isAlphanum
  let value := match digits with
    | '0' :: 'x' :: digits => numberOf? 16 digits
    | '0' :: digit :: digits => numberOf? 8 (digit :: digits)
    | digits => numberOf? 10 digits
  if value.isSome then set { state with rest := state.rest.drop digits.length }
  return value.map (wrapped ∘ Int.ofNat)

section

variable (values : String → Int)

mutual

/-- Read an expression: a choice by a condition, or operands. Each call takes one from `fuel`, here
and below. -/
def readSum : Nat → SumReader Int
  | 0 => throw .noOperand
  | fuel + 1 => do
    let condition ← readOperands fuel binarySigns
    if ← acceptSign '?' then
      let yes ← readSum fuel
      if !(← acceptSign ':') then throw .noOperand
      let no ← readSum fuel
      return if condition ≠ 0 then yes else no
    else return condition

/-- Read operands joined by signs that bind at least as strongly as those of a level. -/
def readOperands : Nat → List (List String) → SumReader Int
  | 0, _ => throw .noOperand
  | fuel + 1, [] => readOperand fuel
  | fuel + 1, signs :: levels => do readMore fuel signs levels (← readOperands fuel levels)

/-- Read the signs of a level and the operands after them. -/
def readMore : Nat → List String → List (List String) → Int → SumReader Int
  | 0, _, _, _ => throw .noOperand
  | fuel + 1, signs, levels, left => do
    skipSumBlanks
    let state ← get
    match (signAt? state.rest).filter signs.contains with
    | none => return left
    | some sign =>
      set { state with rest := state.rest.drop sign.length }
      let right ← readOperands fuel levels
      readMore fuel signs levels (← combine sign left right)

/-- Read an operand with the signs before it. -/
def readOperand : Nat → SumReader Int
  | 0 => throw .noOperand
  | fuel + 1 => do
    if ← acceptSign '-' then return wrapped (-(← readOperand fuel))
    else if ← acceptSign '+' then readOperand fuel
    else if ← acceptSign '!' then return if (← readOperand fuel) = 0 then 1 else 0
    else if ← acceptSign '~' then return wrapped (-(← readOperand fuel) - 1)
    else if ← acceptSign '(' then
      let value ← readSum fuel
      if ← acceptSign ')' then return value else throw .noOperand
    else match ← takeNumber? with
      | some value => return value
      | none => readVariable fuel

/-- Read a variable, which may be given a value. -/
def readVariable : Nat → SumReader Int
  | 0 => throw .noOperand
  | fuel + 1 => do
    let state ← get
    let written := state.rest.takeWhile isNameChar
    let name := String.ofList written
    if written.isEmpty then throw .noOperand
    set { state with rest := state.rest.drop written.length }
    skipSumBlanks
    let state ← get
    let value := (state.assigned.lookup name).getD (values name)
    match (signAt? state.rest).filter settingSigns.contains with
    | none => return value
    | some sign =>
      set { state with rest := state.rest.drop sign.length }
      let value ← combine (sign.dropEnd 1).toString value (← readSum fuel)
      modify fun state => { state with assigned := (name, value) :: state.assigned }
      return value

end

/-- The value of an expression, and the values that it gives variables. -/
def sumOf (text : Octets) : Except SumFault (Int × List (String × Int)) := do
  let (n, state) ← (readSum values (30 * text.length + 30) <* skipSumBlanks).run { rest := text }
  if state.rest.isEmpty then return (n, state.assigned.reverse) else throw .rest

end

/-- The value of the expression in a text; a variable without a number in it counts as zero. -/
def valueOfSum (text : Octets) : Shell Int := do
  let bindings := (← get).bindings
  let values (name : String) : Int :=
    ((Keyed.get? bindings name).bind fun held => integerOf? held.text).getD 0
  match sumOf values text with
  | .ok (n, assigned) =>
    assigned.forM fun (name, value) => setVariable name (decimal value)
    return n
  | .error fault =>
    giveUp (octets ("arithmetic expression: " ++ fault.text ++ ": \"") ++ text ++ ['"'])

end LintBench.Host.Shell
