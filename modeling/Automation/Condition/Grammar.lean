import Automation.Condition.Comparison

/-!
The grammar of conditions.

    disjunction := conjunction ( "||" conjunction )*
    conjunction := comparison ( "&&" comparison )*
    comparison  := "!" comparison | "(" disjunction ")" | value [ comparator value ]

`Formula` holds the trees of the grammar and `denote` what they mean: both sides of an operator are
always evaluated. `verdict` reads tokens and evaluates them in one pass. A `Reading` gives the
value of a token, so that words may stand for literals or for variables.
-/

namespace Automation.Condition

/-- The value that a token stands for. -/
abbrev Reading := Lexeme → Except Failure Value

/-- A condition as a tree. -/
inductive Formula where
  | value (operand : Lexeme)
  | compare (left : Lexeme) (comparison : Comparison) (right : Lexeme)
  | negation (formula : Formula)
  | both (left right : Formula)
  | either (left right : Formula)
  deriving DecidableEq, Repr, Inhabited

namespace Formula

/-- The truth of a condition. -/
def denote (reading : Reading) : Formula → Except Failure Bool
  | .value operand => Value.truthy <$> reading operand
  | .compare left comparison right => do
      let leftValue ← reading left
      let rightValue ← reading right
      comparison.holds leftValue rightValue
  | .negation formula => (!·) <$> formula.denote reading
  | .both left right => do
      let leftTruth ← left.denote reading
      let rightTruth ← right.denote reading
      .ok (leftTruth && rightTruth)
  | .either left right => do
      let leftTruth ← left.denote reading
      let rightTruth ← right.denote reading
      .ok (leftTruth || rightTruth)

end Formula

mutual

/-- A list of lexemes is a disjunction with the given tree. -/
inductive Disjunction : List Lexeme → Formula → Prop where
  | single {lexemes formula} : Conjunction lexemes formula → Disjunction lexemes formula
  | either {left right leftFormula rightFormula} :
      Disjunction left leftFormula → Conjunction right rightFormula →
      Disjunction (left ++ .operator .either :: right) (.either leftFormula rightFormula)

/-- A list of lexemes is a conjunction with the given tree. -/
inductive Conjunction : List Lexeme → Formula → Prop where
  | single {lexemes formula} : Comparand lexemes formula → Conjunction lexemes formula
  | both {left right leftFormula rightFormula} :
      Conjunction left leftFormula → Comparand right rightFormula →
      Conjunction (left ++ .operator .both :: right) (.both leftFormula rightFormula)

/-- A list of lexemes is a comparison, a negation or a condition in parentheses. -/
inductive Comparand : List Lexeme → Formula → Prop where
  | value {operand} : operand.isValue = true → Comparand [operand] (.value operand)
  | compare {left right comparison} : left.isValue = true → right.isValue = true →
      Comparand [left, .operator (.comparison comparison), right] (.compare left comparison right)
  | negation {lexemes formula} : Comparand lexemes formula →
      Comparand (.operator .negation :: lexemes) (.negation formula)
  | parentheses {lexemes formula} : Disjunction lexemes formula →
      Comparand (.opening :: lexemes ++ [.closing]) formula

end

/-- A refusal as a failure. -/
def Refusal.failure (refusal : Refusal) : Failure :=
  .engine (.expressionParse refusal.message [])

/-- Refuse a condition. -/
def refuse {α : Type} (refusal : Refusal) : Except Failure α := .error refusal.failure

/-- A value, or two values and a comparison, at the front of the tokens after the first value. -/
def readOperands (reading : Reading) (left : Lexeme) (tokens : List Token) :
    Except Failure (Bool × List Token) := do
  let leftValue ← reading left
  match tokens with
  | ⟨.operator (.comparison comparison), position⟩ :: rest =>
      match rest with
      | [] => refuse .unexpectedEnd
      | right :: after =>
          if right.lexeme.isValue then do
            let rightValue ← reading right.lexeme
            .ok (← comparison.holds leftValue rightValue, after)
          else refuse (.missingValue (.comparison comparison) position)
  | _ => .ok (leftValue.truthy, tokens)

mutual

/-- A disjunction at the front of the tokens. -/
def readDisjunction (reading : Reading) :
    (fuel : Nat) → List Token → Except Failure (Bool × List Token)
  | 0, _ => refuse .unexpectedEnd
  | fuel + 1, tokens => do
      let (truth, rest) ← readConjunction reading fuel tokens
      readAlternatives reading fuel truth rest

/-- The further alternatives of a disjunction. -/
def readAlternatives (reading : Reading) :
    (fuel : Nat) → Bool → List Token → Except Failure (Bool × List Token)
  | fuel + 1, truth, ⟨.operator .either, _⟩ :: tokens => do
      let (next, rest) ← readConjunction reading fuel tokens
      readAlternatives reading fuel (truth || next) rest
  | _, truth, tokens => .ok (truth, tokens)

/-- A conjunction at the front of the tokens. -/
def readConjunction (reading : Reading) :
    (fuel : Nat) → List Token → Except Failure (Bool × List Token)
  | 0, _ => refuse .unexpectedEnd
  | fuel + 1, tokens => do
      let (truth, rest) ← readComparand reading fuel tokens
      readFurther reading fuel truth rest

/-- The further parts of a conjunction. -/
def readFurther (reading : Reading) :
    (fuel : Nat) → Bool → List Token → Except Failure (Bool × List Token)
  | fuel + 1, truth, ⟨.operator .both, _⟩ :: tokens => do
      let (next, rest) ← readComparand reading fuel tokens
      readFurther reading fuel (truth && next) rest
  | _, truth, tokens => .ok (truth, tokens)

/-- A comparison, a negation or a condition in parentheses at the front of the tokens. -/
def readComparand (reading : Reading) :
    (fuel : Nat) → List Token → Except Failure (Bool × List Token)
  | 0, _ | _, [] => refuse .unexpectedEnd
  | fuel + 1, token :: tokens =>
      match token.lexeme with
      | .operator .negation => do
          let (truth, rest) ← readComparand reading fuel tokens
          .ok (!truth, rest)
      | .opening => do
          let (truth, rest) ← readDisjunction reading fuel tokens
          match rest with
          | ⟨.closing, _⟩ :: after => .ok (truth, after)
          | _ => refuse .missingClosing
      | lexeme =>
          if lexeme.isValue then readOperands reading lexeme tokens
          else refuse (.unexpectedToken token)

end

/-- The truth of a whole list of tokens. Every third call at least takes a token. -/
def verdict (reading : Reading) (tokens : List Token) : Except Failure Bool :=
  if tokens.isEmpty then refuse .empty
  else do
    let (truth, rest) ← readDisjunction reading (3 * tokens.length + 3) tokens
    match rest with
    | [] => .ok truth
    | token :: _ => refuse (.unexpectedToken token)

end Automation.Condition
