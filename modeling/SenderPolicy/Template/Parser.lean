import SenderPolicy.Template.Basic

/-!
# Reading a template

A percent sign starts an escape: `%%` is a percent sign, `%_` a space, `%-` an encoded space, and an expression
stands between `%{` and the next `}`. An expression is a letter, a number of labels to keep, a sign for reversal
and delimiters, each but the first perhaps absent.
-/

namespace SenderPolicy

namespace Expression

def delimiters : List Char :=
  ['.', '-', '+', ',', '/', '_', '=']

/-- The number of labels to keep: a positive number that fits a word, or none if there are no digits. -/
def keep? (digits : Text) : Option (Option Nat) :=
  if digits.isEmpty then some none
  else
    match Text.numeral? digits with
    | some n => if 0 < n ∧ n ≤ Text.maxWord then some (some n) else none
    | none => none

/-- What follows the letter of an expression. -/
def transformer? (t : Text) : Option Transformer := do
  let keep ← keep? (t.takeWhile Char.isDigit)
  let (reverse, rest) :=
    match t.dropWhile Char.isDigit with
    | 'r' :: rest => (true, rest)
    | 'R' :: rest => (true, rest)
    | rest => (false, rest)
  if rest.all (delimiters.contains ·) then some ⟨keep, reverse, rest⟩ else none

/-- The expression between two braces. -/
def parse (scope : Scope) : Text → Except Template.Error Expression
  | [] => .error .empty
  | c :: rest =>
    match Letter.ofChar? c with
    | none => .error (.unknownLetter c)
    | some letter =>
      if letter.isReserved && scope != .explanation then .error (.explanationOnly c)
      else
        match transformer? rest with
        | none => .error (.invalidTransformer (c :: rest))
        | some transformer => .ok ⟨letter, c.isUpper, transformer⟩

end Expression

namespace Template

mutual

def parse (scope : Scope) : Text → Except Error Template
  | [] => .ok []
  | ['%'] => .error .trailingPercent
  | '%' :: '%' :: rest => do return .copy '%' :: (← parse scope rest)
  | '%' :: '_' :: rest => do return .copy ' ' :: (← parse scope rest)
  | '%' :: '-' :: rest => do return .copy '%' :: .copy '2' :: .copy '0' :: (← parse scope rest)
  | '%' :: '{' :: rest => parseBody scope [] rest
  | '%' :: c :: _ => .error (.invalidEscape c)
  | c :: rest => do return .copy c :: (← parse scope rest)

/-- The pieces of a text that starts inside braces; `body` is what stands there so far. -/
def parseBody (scope : Scope) (body : Text) : Text → Except Error Template
  | [] => .error .unterminated
  | '}' :: rest => do
    let e ← Expression.parse scope body
    return .expand e :: (← parse scope rest)
  | c :: rest => parseBody scope (body ++ [c]) rest

end

/-- What keeps a text from being a template, if anything does. -/
def check (scope : Scope) (t : Text) : Except Error Unit :=
  (parse scope t).map fun _ => ()

/-- A text that is a template of an explanation and has the property. -/
def holds (p : Template → Bool) (t : Text) : Bool :=
  -- the scope in which every letter is allowed
  match parse .explanation t with
  | .ok template => p template
  | .error _ => false

end Template

end SenderPolicy
