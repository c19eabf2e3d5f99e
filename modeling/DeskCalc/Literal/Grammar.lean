import DeskCalc.Literal.Node

namespace DeskCalc.Literal

/-- The rules of written values and expressions. A rule is a list of productions, of which the first
that fits counts. Productions that begin with `strict` fit no value: they stand for mistakes, and
are tried only when a text that fits no others is read again. Square brackets have no place in the
texts that are read by these rules. -/
inductive Rule
  | whole | embedded
  | expressions | expression | lenientExpression | legacyMistake | expressionMistake
  | yieldExpression | starExpressions | starExpression | starNamedExpressions | starNamedExpression
  | assignmentExpression | namedExpression | namedMistake
  | disjunction | conjunction | inversion | comparison | comparisonPair
  | bitOr | bitXor | bitAnd | shift | sum | term | factor | power | awaited | primary | atom
  | group | groupMistake | tuple | set | dict | entries | entry | keyValue
  | entriesMistake | entryMistake
  | texts | genexp | setComprehension | dictComprehension
  | comprehensionMistake | dictComprehensionMistake
  | forClauses | forClause | forMistake
  | arguments | argumentsMistake | args | namedArguments | starArgument
  | namedOrStarred | namedOrDoubleStarred | argumentMistake
  | starTargets | starTarget | starAtomTarget | starAtom | targetTuple | targetPrimary
  | targetLookahead
  | lambda | lambdaParameters | slashNoDefault | slashDefault | starEtc | doubleStarParameter
  | parameterNoDefault | parameterDefault | parameterMaybe | defaultValue
  | defaultMistake | parametersMistake | defaultedMistake | starEtcMistake | doubleStarMistake
  deriving DecidableEq

/-- What a production makes of what it has read. A refusal ends its rule without a result. -/
inductive Action
  | make (n : Node)
  | refuse
  | mistake (message : String)

mutual

inductive Item
  /-- A sign or keyword. -/
  | word (spelling : String)
  | name
  | softKeyword
  | number
  | text
  | newline
  | finish
  | rule (r : Rule)
  /-- The first of some productions that fits. -/
  | choice (productions : List Production)
  | maybe (i : Item)
  | many (i : Item)
  | several (i : Item)
  /-- One or more, with a word between any two. -/
  | separated (i : Item) (word : String)
  /-- Whether something follows, which is not read. -/
  | ahead (i : Item)
  | notAhead (i : Item)
  /-- No later production is tried once this is reached. -/
  | cut
  /-- Whether mistakes are sought. -/
  | strict
  /-- An item read without seeking mistakes. -/
  | lenient (i : Item)
  /-- Whether the last token read stands in brackets. -/
  | inBrackets

/-- Parts to be read in turn, and what comes of them. -/
inductive Production
  | mk (items : List Item) (action : List Node → Action)

end

namespace Grammar

def nth (k : Nat) (parts : List Node) : Action := .make (parts.getD k .nothing)

def always (n : Node) : List Node → Action := fun _ => .make n

def wrong (message : String) : List Node → Action := fun _ => .mistake message

def other (description : String) : List Node → Action := always (.other description)

def binary : List Node → Action
  | [l, .word sign, r] => .make (.binary sign l r)
  | _ => .refuse

def unary : List Node → Action
  | [.word sign, operand] => .make (.unary sign operand)
  | _ => .refuse

def consed (make : List Node → Node) (parts : List Node) : Action :=
  .make (make (parts.getD 0 .nothing :: (parts.getD 1 .nothing).items))

def words (spellings : List String) : Item :=
  .choice (spellings.map fun s => ⟨[.word s], nth 0⟩)

def oneOf (items : List Item) : Item := .choice (items.map fun i => ⟨[i], nth 0⟩)

/-- A sequence of items, of which one counts. -/
def inTurn (items : List Item) (k : Nat) : Item := .choice [⟨items, nth k⟩]

def rules (rs : List Rule) : Item := oneOf (rs.map .rule)

/-- A chain of one operator, from the left. -/
def chain (r next : Rule) (signs : List String) : List Production :=
  signs.map (fun s => ⟨[.rule r, .word s, .rule next], binary⟩) ++ [⟨[.rule next], nth 0⟩]

/-- Names the part that cannot be assigned to, if there is one. -/
def assignedTo (target : Node) : Action :=
  match target.unassignable? with
  | some n => .mistake ("cannot assign to " ++ n.description)
  | none => .refuse

/-- The arguments of a call from those by position and a mixed list. -/
def collected (positional mixed : List Node) : Node :=
  let isNamed : Node → Bool
    | .argument _ => true
    | _ => false
  .arguments (positional ++ mixed.filter (!isNamed ·)) (mixed.filter isNamed)

def commaForgotten : String := "invalid syntax. Perhaps you forgot a comma?"

def equalsForgotten : String := "invalid syntax. Maybe you meant '==' or ':=' instead of '='?"

def bareGenerator : String := "Generator expression must be parenthesized"

def forgottenParentheses : String :=
  "did you forget parentheses around the comprehension target?"

def starredEntry : String := "cannot use a starred expression in a dictionary value"

def missingEntry : String := "expression expected after dictionary key and ':'"

/-- An expression that is not the name in front of an assignment. -/
def plainExpression : Item :=
  oneOf [.rule .assignmentExpression, inTurn [.rule .expression, .notAhead (.word ":=")] 0]

/-- One or more items with commas between and perhaps after them, as a tuple unless there is just
one without a comma. -/
def listing (one : Rule) : List Production :=
  [⟨[.rule one, .several (inTurn [.word ",", .rule one] 1), .maybe (.word ",")], consed .tuple⟩,
    ⟨[.rule one, .word ","], fun parts => .make (.tuple [parts.getD 0 .nothing])⟩,
    ⟨[.rule one], nth 0⟩]

/-- The `if` conditions of a comprehension's clause. -/
def conditions : Item := .many (inTurn [.word "if", .rule .disjunction] 1)

/-- A parameter and what must follow it: a comma, or the colon that ends the parameters. -/
def parameter (items : List Item) : List Production :=
  [⟨items ++ [.word ","], always .nothing⟩, ⟨items ++ [.ahead (.word ":")], always .nothing⟩]

/-- Parameters up to a slash, after which a comma or the end must follow. -/
def slash (items : List Item) : List Production :=
  [⟨items ++ [.word "/", .word ","], always .nothing⟩,
    ⟨items ++ [.word "/", .ahead (.word ":")], always .nothing⟩]

def expressionRules : Rule → List Production
  | .whole => [⟨[.rule .expressions, .many .newline, .finish], nth 0⟩]
  | .embedded => [⟨[.rule .starExpressions], nth 0⟩]
  | .expressions => listing .expression
  | .expression =>
    [⟨[.strict, .rule .expressionMistake], nth 0⟩,
      ⟨[.strict, .rule .legacyMistake], nth 0⟩,
      ⟨[.rule .disjunction, .word "if", .rule .disjunction, .word "else", .rule .expression],
        other "conditional expression"⟩,
      ⟨[.rule .disjunction], nth 0⟩,
      ⟨[.rule .lambda], nth 0⟩]
  | .lenientExpression =>
    [⟨[.lenient (.choice
      [⟨[.rule .disjunction, .word "if", .rule .disjunction, .word "else", .rule .expression],
          other "conditional expression"⟩,
        ⟨[.rule .disjunction], nth 0⟩,
        ⟨[.rule .lambda], nth 0⟩])], nth 0⟩]
  | .expressionMistake =>
    [⟨[.notAhead (oneOf [inTurn [.name, .text] 0, .softKeyword]), .rule .disjunction,
        .rule .lenientExpression, .maybe .inBrackets],
        fun parts => match parts with
          | [first, _, .word _] =>
            if first.isStatement then .refuse else .mistake commaForgotten
          | _ => .refuse⟩,
      ⟨[.rule .disjunction, .word "if", .rule .disjunction, .notAhead (words ["else", ":"])],
        wrong "expected 'else' after 'if' expression"⟩]
  | .legacyMistake =>
    [⟨[.name, .notAhead (.word "("), .rule .starExpressions],
        fun parts => match parts with
          | .name s :: _ =>
            if (Node.name s).isStatement then
              .mistake ("Missing parentheses in call to '" ++ s ++ "'. Did you mean " ++ s ++ "(...)?")
            else .refuse
          | _ => .refuse⟩]
  | .yieldExpression =>
    [⟨[.word "yield", .word "from", .rule .expression], other "yield expression"⟩,
      ⟨[.word "yield", .maybe (.rule .starExpressions)], other "yield expression"⟩]
  | .starExpressions => listing .starExpression
  | .starExpression =>
    [⟨[.word "*", .rule .bitOr], fun parts => .make (.starred (parts.getD 1 .nothing))⟩,
      ⟨[.rule .expression], nth 0⟩]
  | .starNamedExpressions =>
    [⟨[.separated (.rule .starNamedExpression) ",", .maybe (.word ",")], nth 0⟩]
  | .starNamedExpression =>
    [⟨[.word "*", .rule .bitOr], fun parts => .make (.starred (parts.getD 1 .nothing))⟩,
      ⟨[.rule .namedExpression], nth 0⟩]
  | .assignmentExpression =>
    [⟨[.name, .word ":=", .cut, .rule .expression], other "named expression"⟩]
  | .namedExpression =>
    [⟨[.rule .assignmentExpression], nth 0⟩,
      ⟨[.strict, .rule .namedMistake], nth 0⟩,
      ⟨[.rule .expression, .notAhead (.word ":=")], nth 0⟩]
  | .namedMistake =>
    [⟨[.rule .expression, .word ":=", .rule .expression],
        fun parts => .mistake ("cannot use assignment expressions with " ++
          (parts.getD 0 .nothing).description)⟩,
      ⟨[.name, .word "=", .rule .bitOr, .notAhead (words ["=", ":="])], wrong equalsForgotten⟩,
      ⟨[.notAhead (oneOf [.rule .tuple, .rule .genexp, .word "True", .word "None", .word "False"]),
        .rule .bitOr, .word "=", .rule .bitOr, .notAhead (words ["=", ":="])],
        fun parts => .mistake ("cannot assign to " ++ (parts.getD 0 .nothing).description ++
          " here. Maybe you meant '==' instead of '='?")⟩]
  | .disjunction =>
    [⟨[.rule .conjunction, .several (inTurn [.word "or", .rule .conjunction] 1)],
        other "expression"⟩,
      ⟨[.rule .conjunction], nth 0⟩]
  | .conjunction =>
    [⟨[.rule .inversion, .several (inTurn [.word "and", .rule .inversion] 1)], other "expression"⟩,
      ⟨[.rule .inversion], nth 0⟩]
  | .inversion =>
    [⟨[.word "not", .rule .inversion], unary⟩, ⟨[.rule .comparison], nth 0⟩]
  | .comparison =>
    [⟨[.rule .bitOr, .several (.rule .comparisonPair)],
        fun parts => match parts with
          | [left, .list (.word sign :: _)] => .make (.comparison left sign)
          | _ => .refuse⟩,
      ⟨[.rule .bitOr], nth 0⟩]
  | .comparisonPair =>
    ["==", "!=", "<=", "<", ">=", ">"].map (fun s => ⟨[.word s, .rule .bitOr], nth 0⟩) ++
      [⟨[.word "not", .word "in", .rule .bitOr], nth 0⟩, ⟨[.word "in", .rule .bitOr], nth 0⟩,
        ⟨[.word "is", .word "not", .rule .bitOr], nth 0⟩, ⟨[.word "is", .rule .bitOr], nth 0⟩]
  | .bitOr => chain .bitOr .bitXor ["|"]
  | .bitXor => chain .bitXor .bitAnd ["^"]
  | .bitAnd => chain .bitAnd .shift ["&"]
  | .shift => chain .shift .sum ["<<", ">>"]
  | .sum => chain .sum .term ["+", "-"]
  | .term => chain .term .factor ["*", "/", "//", "%", "@"]
  | .factor =>
    ["+", "-", "~"].map (fun s => ⟨[.word s, .rule .factor], unary⟩) ++ [⟨[.rule .power], nth 0⟩]
  | .power => [⟨[.rule .awaited, .word "**", .rule .factor], binary⟩, ⟨[.rule .awaited], nth 0⟩]
  | .awaited =>
    [⟨[.word "await", .rule .primary], other "await expression"⟩, ⟨[.rule .primary], nth 0⟩]
  | .primary =>
    [⟨[.rule .primary, .word ".", .name], fun parts => .make (.member (parts.getD 0 .nothing))⟩,
      ⟨[.rule .primary, .rule .genexp], other "function call"⟩,
      ⟨[.rule .primary, .word "(", .maybe (.rule .arguments), .word ")"],
        fun parts => .make (.call (parts.getD 0 .nothing) (parts.getD 2 .nothing))⟩,
      ⟨[.rule .atom], nth 0⟩]
  | .atom =>
    [⟨[.name], nth 0⟩] ++
      ["True", "False", "None"].map (fun s => ⟨[.word s], always (.constant s)⟩) ++
      [⟨[.ahead .text, .rule .texts], nth 0⟩,
        ⟨[.number], nth 0⟩,
        ⟨[.ahead (.word "("), rules [.tuple, .group, .genexp]], nth 0⟩,
        ⟨[.ahead (.word "\x7b"), rules [.dict, .set, .dictComprehension, .setComprehension]], nth 0⟩,
        ⟨[.word "..."], always (.constant "...")⟩]
  | _ => []

def displayRules : Rule → List Production
  | .group =>
    [⟨[.word "(", rules [.yieldExpression, .namedExpression], .word ")"], nth 1⟩,
      ⟨[.strict, .rule .groupMistake], nth 0⟩]
  | .groupMistake =>
    [⟨[.word "(", .rule .starArgument, .word ")"], wrong "cannot use starred expression here"⟩,
      ⟨[.word "(", .word "**", .rule .expression, .word ")"],
        wrong "cannot use double starred expression here"⟩]
  | .tuple =>
    [⟨[.word "(", .maybe (.choice
        [⟨[.rule .starNamedExpression, .word ",", .maybe (.rule .starNamedExpressions)],
          fun parts => .make (.list (parts.getD 0 .nothing :: (parts.getD 2 .nothing).items))⟩]),
        .word ")"], fun parts => .make (.tuple (parts.getD 1 .nothing).items)⟩]
  | .set =>
    [⟨[.word "\x7b", .rule .starNamedExpressions, .word "\x7d"],
      fun parts => .make (.set (parts.getD 1 .nothing).items)⟩]
  | .dict =>
    [⟨[.word "\x7b", .maybe (.rule .entries), .word "\x7d"],
        fun parts => .make (.dict (parts.getD 1 .nothing).items)⟩,
      -- A mistake among entries is sought whether or not others are.
      ⟨[.word "\x7b", .rule .entriesMistake, .word "\x7d"], nth 0⟩]
  | .entries => [⟨[.separated (.rule .entry) ",", .maybe (.word ",")], nth 0⟩]
  | .entry =>
    [⟨[.word "**", .rule .bitOr], fun parts => .make (.entry none (parts.getD 1 .nothing))⟩,
      ⟨[.rule .keyValue], nth 0⟩]
  | .keyValue =>
    [⟨[.rule .expression, .word ":", .rule .expression],
      fun parts => .make (.entry (some (parts.getD 0 .nothing)) (parts.getD 2 .nothing))⟩]
  | .entriesMistake =>
    [⟨[.separated (.rule .entry) ",", .word ",", .rule .entryMistake], nth 0⟩,
      ⟨[.rule .expression, .word ":", .word "*", .rule .bitOr], wrong starredEntry⟩,
      ⟨[.rule .expression, .word ":", .ahead (words ["\x7d", ","])], wrong missingEntry⟩]
  | .entryMistake =>
    [⟨[.rule .expression, .notAhead (.word ":")], wrong "':' expected after dictionary key"⟩,
      ⟨[.rule .expression, .word ":", .word "*", .rule .bitOr], wrong starredEntry⟩,
      ⟨[.rule .expression, .word ":", .ahead (words ["\x7d", ","])], wrong missingEntry⟩]
  | .genexp =>
    [⟨[.word "(", plainExpression, .rule .forClauses, .word ")"], other "generator expression"⟩,
      ⟨[.strict, .rule .comprehensionMistake], nth 0⟩]
  | .setComprehension =>
    [⟨[.word "\x7b", .rule .namedExpression, .rule .forClauses, .word "\x7d"],
        other "set comprehension"⟩,
      ⟨[.strict, .rule .comprehensionMistake], nth 0⟩]
  | .dictComprehension =>
    [⟨[.word "\x7b", .rule .keyValue, .rule .forClauses, .word "\x7d"], other "dict comprehension"⟩,
      ⟨[.strict, .rule .dictComprehensionMistake], nth 0⟩]
  | .comprehensionMistake =>
    [⟨[words ["(", "\x7b"], .rule .starArgument, .rule .forClauses],
        wrong "iterable unpacking cannot be used in comprehension"⟩,
      ⟨[.word "\x7b", .rule .starNamedExpression, .word ",", .rule .starNamedExpressions,
        .rule .forClauses], wrong forgottenParentheses⟩,
      ⟨[.word "\x7b", .rule .starNamedExpression, .word ",", .rule .forClauses],
        wrong forgottenParentheses⟩]
  | .dictComprehensionMistake =>
    [⟨[.word "\x7b", .word "**", .rule .bitOr, .rule .forClauses, .word "\x7d"],
      wrong "dict unpacking cannot be used in dict comprehension"⟩]
  | .forClauses => [⟨[.several (.rule .forClause)], nth 0⟩]
  | .forClause =>
    [⟨[.word "async", .word "for", .rule .starTargets, .word "in", .cut, .rule .disjunction,
        conditions], always .nothing⟩,
      ⟨[.word "for", .rule .starTargets, .word "in", .cut, .rule .disjunction, conditions],
        always .nothing⟩,
      ⟨[.strict, .rule .forMistake], nth 0⟩]
  | .forMistake =>
    [⟨[.maybe (.word "async"), .word "for", .rule .starExpressions],
      fun parts => assignedTo (parts.getD 2 .nothing)⟩]
  | .starTargets =>
    [⟨[.rule .starTarget, .notAhead (.word ",")], always .nothing⟩,
      ⟨[.rule .starTarget, .many (inTurn [.word ",", .rule .starTarget] 1), .maybe (.word ",")],
        always .nothing⟩]
  | .starTarget =>
    [⟨[.word "*", inTurn [.notAhead (.word "*"), .rule .starTarget] 0], always .nothing⟩,
      ⟨[.rule .starAtomTarget], always .nothing⟩]
  | .starAtomTarget =>
    [⟨[.rule .targetPrimary, .word ".", .name, .notAhead (.rule .targetLookahead)],
        always .nothing⟩,
      ⟨[.rule .starAtom], always .nothing⟩]
  | .starAtom =>
    [⟨[.name], always .nothing⟩,
      ⟨[.word "(", .rule .starAtomTarget, .word ")"], always .nothing⟩,
      ⟨[.word "(", .maybe (.rule .targetTuple), .word ")"], always .nothing⟩]
  | .targetTuple =>
    [⟨[.rule .starTarget, .several (inTurn [.word ",", .rule .starTarget] 1), .maybe (.word ",")],
        always .nothing⟩,
      ⟨[.rule .starTarget, .word ","], always .nothing⟩]
  | .targetPrimary =>
    [⟨[.rule .targetPrimary, .word ".", .name, .ahead (.rule .targetLookahead)], always .nothing⟩,
      ⟨[.rule .targetPrimary, .rule .genexp, .ahead (.rule .targetLookahead)], always .nothing⟩,
      ⟨[.rule .targetPrimary, .word "(", .maybe (.rule .arguments), .word ")",
        .ahead (.rule .targetLookahead)], always .nothing⟩,
      ⟨[.rule .atom, .ahead (.rule .targetLookahead)], always .nothing⟩]
  | .targetLookahead => [⟨[.word "("], nth 0⟩, ⟨[.word "."], nth 0⟩]
  | _ => []

def argumentRules : Rule → List Production
  | .arguments =>
    [⟨[.rule .args, .maybe (.word ","), .ahead (.word ")")], nth 0⟩,
      ⟨[.strict, .rule .argumentsMistake], nth 0⟩]
  | .argumentsMistake =>
    [⟨[.rule .args, .word ",", .word "*"],
        wrong "iterable argument unpacking follows keyword argument unpacking"⟩,
      ⟨[.rule .expression, .rule .forClauses, .word ",",
        .maybe (oneOf [.rule .args, inTurn [.rule .expression, .rule .forClauses] 0])],
        wrong bareGenerator⟩,
      ⟨[.name, .word "=", .rule .expression, .rule .forClauses], wrong equalsForgotten⟩,
      ⟨[.rule .args, .rule .forClauses],
        fun parts => match parts with
          | .arguments positional _ :: _ =>
            if positional.length ≤ 1 then .refuse else .mistake bareGenerator
          | _ => .refuse⟩,
      ⟨[.rule .args, .word ",", .rule .expression, .rule .forClauses], wrong bareGenerator⟩,
      ⟨[.rule .args, .word ",", .rule .args],
        fun parts => match parts with
          | .arguments _ named :: _ =>
            let isUnpacked : Node → Bool
              | .argument isNamed => !isNamed
              | _ => false
            .mistake (if named.any isUnpacked then
              "positional argument follows keyword argument unpacking"
            else "positional argument follows keyword argument")
          | _ => .refuse⟩]
  | .args =>
    [⟨[.separated (oneOf [.rule .starArgument,
          inTurn [plainExpression, .notAhead (.word "=")] 0]) ",",
        .maybe (inTurn [.word ",", .rule .namedArguments] 1)],
        fun parts => .make (collected (parts.getD 0 .nothing).items (parts.getD 1 .nothing).items)⟩,
      ⟨[.rule .namedArguments], fun parts => .make (collected [] (parts.getD 0 .nothing).items)⟩]
  | .namedArguments =>
    [⟨[.separated (.rule .namedOrStarred) ",", .word ",", .separated (.rule .namedOrDoubleStarred) ","],
        fun parts => .make (.list ((parts.getD 0 .nothing).items ++ (parts.getD 2 .nothing).items))⟩,
      ⟨[.separated (.rule .namedOrStarred) ","], nth 0⟩,
      ⟨[.separated (.rule .namedOrDoubleStarred) ","], nth 0⟩]
  | .starArgument =>
    [⟨[.word "*", .rule .expression], fun parts => .make (.starred (parts.getD 1 .nothing))⟩]
  | .namedOrStarred =>
    [⟨[.strict, .rule .argumentMistake], nth 0⟩,
      ⟨[.name, .word "=", .rule .expression], always (.argument true)⟩,
      ⟨[.rule .starArgument], nth 0⟩]
  | .namedOrDoubleStarred =>
    [⟨[.strict, .rule .argumentMistake], nth 0⟩,
      ⟨[.name, .word "=", .rule .expression], always (.argument true)⟩,
      ⟨[.word "**", .rule .expression], always (.argument false)⟩]
  | .argumentMistake =>
    [⟨[words ["True", "False", "None"], .word "="],
        fun parts => match parts with
          | .word s :: _ => .mistake ("cannot assign to " ++ s)
          | _ => .refuse⟩,
      ⟨[.name, .word "=", .rule .expression, .rule .forClauses], wrong equalsForgotten⟩,
      ⟨[.notAhead (inTurn [.name, .word "="] 0), .rule .expression, .word "="],
        wrong "expression cannot contain assignment, perhaps you meant \"==\"?"⟩]
  | .lambda =>
    [⟨[.word "lambda", .maybe (.rule .lambdaParameters), .word ":", .rule .expression],
      other "lambda"⟩]
  | .lambdaParameters =>
    [⟨[.strict, .rule .parametersMistake], nth 0⟩,
      ⟨[.rule .slashNoDefault, .many (.rule .parameterNoDefault), .many (.rule .parameterDefault),
        .maybe (.rule .starEtc)], always .nothing⟩,
      ⟨[.rule .slashDefault, .many (.rule .parameterDefault), .maybe (.rule .starEtc)],
        always .nothing⟩,
      ⟨[.several (.rule .parameterNoDefault), .many (.rule .parameterDefault),
        .maybe (.rule .starEtc)], always .nothing⟩,
      ⟨[.several (.rule .parameterDefault), .maybe (.rule .starEtc)], always .nothing⟩,
      ⟨[.rule .starEtc], always .nothing⟩]
  | .slashNoDefault => slash [.several (.rule .parameterNoDefault)]
  | .slashDefault => slash [.many (.rule .parameterNoDefault), .several (.rule .parameterDefault)]
  | .starEtc =>
    [⟨[.strict, .rule .starEtcMistake], nth 0⟩,
      ⟨[.word "*", .rule .parameterNoDefault, .many (.rule .parameterMaybe),
        .maybe (.rule .doubleStarParameter)], always .nothing⟩,
      ⟨[.word "*", .word ",", .several (.rule .parameterMaybe),
        .maybe (.rule .doubleStarParameter)], always .nothing⟩,
      ⟨[.rule .doubleStarParameter], always .nothing⟩]
  | .doubleStarParameter =>
    [⟨[.strict, .rule .doubleStarMistake], nth 0⟩,
      ⟨[.word "**", .rule .parameterNoDefault], always .nothing⟩]
  | .parameterNoDefault => parameter [.name]
  | .parameterDefault => parameter [.name, .rule .defaultValue]
  | .parameterMaybe => parameter [.name, .maybe (.rule .defaultValue)]
  | .defaultValue =>
    [⟨[.word "=", .rule .expression], always .nothing⟩, ⟨[.strict, .rule .defaultMistake], nth 0⟩]
  | .defaultMistake =>
    [⟨[.word "=", .ahead (words [")", ","])], wrong "expected default value expression"⟩]
  | .parametersMistake =>
    [⟨[.many (.rule .parameterNoDefault), .rule .defaultedMistake, .rule .parameterNoDefault],
        wrong "non-default argument follows default argument"⟩,
      ⟨[.many (.rule .parameterNoDefault), .word "(", .separated .name ",", .maybe (.word ","),
        .word ")"], wrong "Lambda expression parameters cannot be parenthesized"⟩,
      ⟨[.word "/", .word ","], wrong "at least one argument must precede /"⟩,
      ⟨[rules [.slashNoDefault, .slashDefault], .many (.rule .parameterMaybe), .word "/"],
        wrong "/ may appear only once"⟩,
      ⟨[.maybe (rules [.slashNoDefault, .slashDefault]), .many (.rule .parameterMaybe), .word "*",
        oneOf [.word ",", .rule .parameterNoDefault], .many (.rule .parameterMaybe), .word "/"],
        wrong "/ must be ahead of *"⟩,
      ⟨[.several (.rule .parameterMaybe), .word "/", .word "*"],
        wrong "expected comma between / and *"⟩]
  | .defaultedMistake =>
    [⟨[.rule .slashDefault], always .nothing⟩,
      ⟨[.several (.rule .parameterDefault)], always .nothing⟩]
  | .starEtcMistake =>
    [⟨[.word "*", oneOf [.word ":", inTurn [.word ",", words [":", "**"]] 0]],
        wrong "named arguments must follow bare *"⟩,
      ⟨[.word "*", .name, .word "="], wrong "var-positional argument cannot have default value"⟩,
      ⟨[.word "*", oneOf [.rule .parameterNoDefault, .word ","], .many (.rule .parameterMaybe),
        .word "*", oneOf [.rule .parameterNoDefault, .word ","]],
        wrong "* argument may appear only once"⟩]
  | .doubleStarMistake =>
    [⟨[.word "**", .name, .word "="], wrong "var-keyword argument cannot have default value"⟩,
      ⟨[.word "**", .name, .word ",", .name], wrong "arguments cannot follow var-keyword argument"⟩,
      ⟨[.word "**", .name, .word ",", words ["*", "**", "/"]],
        wrong "arguments cannot follow var-keyword argument"⟩]
  | _ => []

/-- The productions of a rule. Reading texts in quotes is not a matter of tokens alone, so `texts`
takes the run of them as it stands. -/
def productions (r : Rule) : List Production :=
  match r with
  | .texts => [⟨[.several .text], nth 0⟩]
  | r => expressionRules r ++ displayRules r ++ argumentRules r

/-- The rules that begin with themselves, so that chains grow from the left. -/
def isLeftRecursive : Rule → Bool
  | .bitOr | .bitXor | .bitAnd | .shift | .sum | .term | .primary | .targetPrimary => true
  | _ => false

/-- The rules whose results are kept for each place. -/
def isKept : Rule → Bool
  | .expression | .starExpression | .namedMistake | .disjunction | .conjunction | .inversion
  | .factor | .awaited | .texts | .arguments | .starTarget | .starAtomTarget => true
  | r => isLeftRecursive r

end Grammar

end DeskCalc.Literal
