import SenderPolicy.Policy.Error
import SenderPolicy.Policy.Printer
import SenderPolicy.Template.Parser

/-!
# Reading a policy

A policy is a version and terms between ASCII blanks. A term whose first colon, slash or equals sign is an equals
sign is a modifier, any other a directive. One malformed term makes the whole text no policy, and so does a second
redirection or explanation.
-/

namespace SenderPolicy

namespace Policy

/-- A top label: letters and digits with at least one letter, or letters, digits and hyphens with at least one
hyphen, neither first nor last. -/
def isTopLabel (t : Text) : Bool :=
  (t.all Char.isAlphanum && t.any Char.isAlpha) ||
    (t.all (fun c => c.isAlphanum || c == '-') && t.contains '-' && t.head? != some '-' &&
      t.getLast? != some '-')

/-- Checks a target. Unless it ends in an expression, it has two labels at least, the last a top label. -/
def checkTarget (owner target : Text) : Except PolicyError Unit := do
  if target.isEmpty then throw (.missingTarget owner)
  match Template.check .domain target with
  | .error e => throw (.template e)
  | .ok _ => pure ()
  -- the last label is what the expression expands to, which only a request tells
  if Template.holds Template.endsInExpression target then return
  match Text.cutLast '.' (Text.dropDot target) with
  | none => throw (.invalidTarget target "expected at least two labels".toList)
  | some (_, top) =>
    if !isTopLabel top then throw (.invalidTarget target "invalid top label".toList)

/-- The target after a colon, if anything follows the name of a mechanism. -/
def optionalTarget (kind : MechanismKind) : Text → Except PolicyError (Option Text)
  | [] => .ok none
  | ':' :: target => (checkTarget kind.word target).map fun _ => some target
  | _ => .error (.unexpectedArgument kind.word)

/-- The target of a mechanism that needs one. -/
def requiredTarget (kind : MechanismKind) (rest : Text) : Except PolicyError Text := do
  let some target ← optionalTarget kind rest | throw (.missingTarget kind.word)
  return target

/-- A prefix length of at most `most`, without leading zeros. -/
def readLength (most : Nat) (t : Text) : Except PolicyError Nat :=
  if 1 < t.length ∧ t.head? = some '0' then .error (.invalidLength t)
  else
    match Text.boundedNumeral? most t with
    | some n => .ok n
    | none => .error (.invalidLength t)

/-- The digits at the end of a text, and what stands before them. -/
def cutDigits (t : Text) : Text × Text :=
  ((t.reverse.dropWhile Char.isDigit).reverse, (t.reverse.takeWhile Char.isDigit).reverse)

/-- The numeral after one slash at the end of a text, and what stands before the slash. -/
def cutLength (t : Text) : Option (Text × Text) :=
  match cutDigits t with
  | (_, []) => none
  | (before, digits) => if before.getLast? = some '/' then some (before.dropLast, digits) else none

/-- The numerals of the two lengths at the end of a text, and what stands before them. The numeral after two
slashes is the length for IPv6; the one after a single slash, before it or alone, is the length for IPv4. -/
def cutLengths (t : Text) : Text × Option Text × Option Text :=
  match cutLength t with
  | none => (t, none, none)
  | some (before, digits) =>
    -- one slash is gone already, so this one makes it two
    if before.getLast? = some '/' then
      match cutLength before.dropLast with
      | none => (before.dropLast, none, some digits)
      | some (before', digits') => (before', some digits', some digits)
    else
      (before, some digits, none)

/-- The lengths at the end of a text, and what stands before them. -/
def readLengths (t : Text) : Except PolicyError (Text × Lengths) := do
  let (head, v4, v6) := cutLengths t
  let v4 ← v4.mapM (readLength Network.width4)
  let v6 ← v6.mapM (readLength Network.width6)
  return (head, ⟨v4, v6⟩)

/-- The value of a network term: an address and, after a slash, a length. -/
def readNetwork {α : Type} (ofText? : Text → Option α) (most : Nat) (invalid : Text → PolicyError) :
    Text → Except PolicyError (α × Option Nat)
  | ':' :: value => do
    let (address, length) :=
      match Text.cutFirst '/' value with
      | some (address, length) => (address, some length)
      | none => (value, none)
    let some network := ofText? address | throw (invalid value)
    let length ← length.mapM (readLength most)
    return (network, length)
  | rest => .error (invalid rest)

/-- The mechanism of a kind with what follows its name. -/
def readMechanism (kind : MechanismKind) (rest : Text) : Except PolicyError Mechanism :=
  match kind with
  | .all => if rest.isEmpty then .ok .all else .error (.unexpectedArgument kind.word)
  | .includes => (requiredTarget kind rest).map .includes
  | .existing => (requiredTarget kind rest).map .existing
  -- lengths are cut off first, since a target may hold slashes in its expressions
  | .a => do
    let (head, lengths) ← readLengths rest
    return .a (← optionalTarget kind head) lengths
  | .mx => do
    let (head, lengths) ← readLengths rest
    return .mx (← optionalTarget kind head) lengths
  | .ptr => (optionalTarget kind rest).map .ptr
  | .ip4 => do
    let (network, length) ← readNetwork V4.ofText? Network.width4 .invalidIp4 rest
    return .ip4 network length
  | .ip6 => do
    let (network, length) ← readNetwork V6.ofText? Network.width6 .invalidIp6 rest
    return .ip6 network length

/-- A letter, then letters, digits and the marks `.`, `_` and `-`. -/
def isModifierName : Text → Bool
  | [] => false
  | c :: rest =>
    c.isAlpha && rest.all fun c => c.isAlphanum || c == '.' || c == '_' || c == '-'

def readModifier (name value : Text) : Except PolicyError Modifier := do
  if !isModifierName name then throw (.invalidModifierName name)
  if Text.sameLetters name "redirect".toList then
    checkTarget "redirect".toList value
    return .redirect value
  else if Text.sameLetters name "exp".toList then
    checkTarget "exp".toList value
    return .explanation value
  else
    match Template.check .explanation value with
    | .ok _ => return .unknown name value
    | .error e => throw (.template e)

def endsName (c : Char) : Bool :=
  c == ':' || c == '/' || c == '='

/-- The qualifier that a term shows, and the rest of the term. -/
def cutQualifier : Text → Option Qualifier × Text
  | [] => (none, [])
  | c :: rest =>
    match Qualifier.ofSign? c with
    | some q => (some q, rest)
    | none => (none, c :: rest)

def readTerm (word : Text) : Except PolicyError Term := do
  let (qualifier, body) := cutQualifier word
  let (name, rest) := Text.cut endsName body
  match rest with
  | '=' :: value =>
    -- only directives have a qualifier
    if qualifier.isSome then throw (.qualifiedModifier name)
    return .modifier (← readModifier name value)
  | _ =>
    let some kind := MechanismKind.ofWord? name | throw (.unknownMechanism word)
    return .directive ⟨qualifier.getD .pass, ← readMechanism kind rest⟩

/-- The name of a modifier that a policy may have only once. -/
def uniqueName? : Term → Option Text
  | .modifier (.redirect _) => some "redirect".toList
  | .modifier (.explanation _) => some "exp".toList
  | _ => none

/-- The terms that words spell. `seen` holds the names of the unique modifiers met so far. -/
def readTerms (seen : List Text) : List Text → Except PolicyError (List Term)
  | [] => .ok []
  | word :: words => do
    let term ← readTerm word
    match uniqueName? term with
    | some name =>
      if seen.contains name then throw (.duplicateModifier name)
      return term :: (← readTerms (name :: seen) words)
    | none => return term :: (← readTerms seen words)

def parse (t : Text) : Except PolicyError Policy :=
  match Text.words Text.isAsciiBlank t with
  | first :: words =>
    if Text.sameLetters first version then (readTerms [] words).map Policy.mk else .error .invalidVersion
  | [] => .error .invalidVersion

end Policy

end SenderPolicy
