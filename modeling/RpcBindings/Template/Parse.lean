import RpcBindings.Template.Piece

namespace RpcBindings.Template

def expect (s : String) : List Token → Except Error (List Token)
  | .symbol t :: rest => if t = s then .ok rest else .error .malformed
  | _ => .error .malformed

def comparison? : List Token → Option (Comparison × List Token)
  | .symbol "==" :: rest => some (.equal, rest)
  | .symbol "!=" :: rest => some (.notEqual, rest)
  | .symbol "<" :: rest => some (.less, rest)
  | .symbol "<=" :: rest => some (.lessOrEqual, rest)
  | .symbol ">" :: rest => some (.greater, rest)
  | .symbol ">=" :: rest => some (.greaterOrEqual, rest)
  | .name "in" :: rest => some (.member, rest)
  | .name "not" :: .name "in" :: rest => some (.notMember, rest)
  | _ => none

def constant? : String → Option Expr
  | "true" | "True" => some (.bool true)
  | "false" | "False" => some (.bool false)
  | "none" | "None" => some .none
  | _ => none

def isKeyword (n : String) : Bool := ["and", "or", "not", "in", "is", "if", "else"].contains n

mutual

/-- A choice `a if test else b`, or anything that binds tighter. -/
def readExpr : Nat → List Token → Except Error (Expr × List Token)
  | 0, _ => .error .malformed
  | fuel + 1, ts => do
    let (e, ts) ← readOr fuel ts
    match ts with
    | .name "if" :: rest => do
      let (test, rest) ← readOr fuel rest
      match rest with
      | .name "else" :: rest => do
        let (no, rest) ← readExpr fuel rest
        return (.choice test e no, rest)
      | _ => throw .malformed
    | ts => return (e, ts)

def readOr : Nat → List Token → Except Error (Expr × List Token)
  | 0, _ => .error .malformed
  | fuel + 1, ts => do
    let (a, ts) ← readAnd fuel ts
    readOrRest fuel a ts

def readOrRest : Nat → Expr → List Token → Except Error (Expr × List Token)
  | 0, _, _ => .error .malformed
  | fuel + 1, a, ts =>
    match ts with
    | .name "or" :: rest => do
      let (b, rest) ← readAnd fuel rest
      readOrRest fuel (.or a b) rest
    | ts => .ok (a, ts)

def readAnd : Nat → List Token → Except Error (Expr × List Token)
  | 0, _ => .error .malformed
  | fuel + 1, ts => do
    let (a, ts) ← readNot fuel ts
    readAndRest fuel a ts

def readAndRest : Nat → Expr → List Token → Except Error (Expr × List Token)
  | 0, _, _ => .error .malformed
  | fuel + 1, a, ts =>
    match ts with
    | .name "and" :: rest => do
      let (b, rest) ← readNot fuel rest
      readAndRest fuel (.and a b) rest
    | ts => .ok (a, ts)

def readNot : Nat → List Token → Except Error (Expr × List Token)
  | 0, _ => .error .malformed
  | fuel + 1, ts =>
    match ts with
    | .name "not" :: rest => do
      let (e, rest) ← readNot fuel rest
      return (.not e, rest)
    | ts => do
      let (a, ts) ← readSum fuel ts
      match comparison? ts with
      | some (op, rest) => readChain fuel a op rest
      | none => return (a, ts)

def readChain : Nat → Expr → Comparison → List Token → Except Error (Expr × List Token)
  | 0, _, _, _ => .error .malformed
  | fuel + 1, a, op, ts => do
    let (b, ts) ← readSum fuel ts
    match comparison? ts with
    | some (next, rest) => do
      let (more, rest) ← readChain fuel b next rest
      return (.and (.compare op a b) more, rest)
    | none => return (.compare op a b, ts)

def readSum : Nat → List Token → Except Error (Expr × List Token)
  | 0, _ => .error .malformed
  | fuel + 1, ts => do
    let (a, ts) ← readConcat fuel ts
    readSumRest fuel a ts

def readSumRest : Nat → Expr → List Token → Except Error (Expr × List Token)
  | 0, _, _ => .error .malformed
  | fuel + 1, a, ts =>
    match ts with
    | .symbol "+" :: rest => do
      let (b, rest) ← readConcat fuel rest
      readSumRest fuel (.add a b) rest
    | .symbol "-" :: rest => do
      let (b, rest) ← readConcat fuel rest
      readSumRest fuel (.subtract a b) rest
    | ts => .ok (a, ts)

def readConcat : Nat → List Token → Except Error (Expr × List Token)
  | 0, _ => .error .malformed
  | fuel + 1, ts => do
    let (a, ts) ← readUnary fuel ts
    readConcatRest fuel a ts

def readConcatRest : Nat → Expr → List Token → Except Error (Expr × List Token)
  | 0, _, _ => .error .malformed
  | fuel + 1, a, ts =>
    match ts with
    | .symbol "~" :: rest => do
      let (b, rest) ← readUnary fuel rest
      readConcatRest fuel (.concat a b) rest
    | ts => .ok (a, ts)

def readUnary : Nat → List Token → Except Error (Expr × List Token)
  | 0, _ => .error .malformed
  | fuel + 1, ts =>
    match ts with
    | .symbol "-" :: rest => do
      let (e, rest) ← readUnary fuel rest
      return (.subtract (.int 0) e, rest)
    | ts => do
      let (e, ts) ← readPrimary fuel ts
      readSuffixes fuel e ts

def readSuffixes : Nat → Expr → List Token → Except Error (Expr × List Token)
  | 0, _, _ => .error .malformed
  | fuel + 1, e, ts =>
    match ts with
    | .symbol "." :: .name n :: rest => readSuffixes fuel (.property e n) rest
    | .symbol "." :: .int n :: rest => readSuffixes fuel (.item e (.int n)) rest
    | .symbol "[" :: rest => do
      let (index, rest) ← readExpr fuel rest
      let rest ← expect "]" rest
      readSuffixes fuel (.item e index) rest
    | .symbol "|" :: .name n :: .symbol "(" :: rest => do
      let (args, rest) ← readItems fuel ")" rest
      readSuffixes fuel (.filter n e args) rest
    | .symbol "|" :: .name n :: rest => readSuffixes fuel (.filter n e .nil) rest
    | .name "is" :: .name "not" :: .name "defined" :: rest =>
      readSuffixes fuel (.not (.isDefined e)) rest
    | .name "is" :: .name "not" :: .name "undefined" :: rest => readSuffixes fuel (.isDefined e) rest
    | .name "is" :: .name "defined" :: rest => readSuffixes fuel (.isDefined e) rest
    | .name "is" :: .name "undefined" :: rest => readSuffixes fuel (.not (.isDefined e)) rest
    | .symbol "." :: _ | .symbol "|" :: _ | .symbol "(" :: _ | .name "is" :: _ => .error .malformed
    | ts => .ok (e, ts)

def readPrimary : Nat → List Token → Except Error (Expr × List Token)
  | 0, _ => .error .malformed
  | fuel + 1, ts =>
    match ts with
    | .int n :: rest => .ok (.int n, rest)
    | .text s :: .text t :: rest => readPrimary fuel (.text (s ++ t) :: rest)
    | .text s :: rest => .ok (.text s, rest)
    | .name n :: rest =>
      match constant? n with
      | some e => .ok (e, rest)
      | none => if isKeyword n then .error .malformed else .ok (.name n, rest)
    | .symbol "(" :: rest => do
      let (e, rest) ← readExpr fuel rest
      let rest ← expect ")" rest
      return (e, rest)
    | .symbol "[" :: rest => do
      let (items, rest) ← readItems fuel "]" rest
      return (.list items, rest)
    | _ => .error .malformed

/-- Expressions with commas between them, up to `close`; a comma may follow the last one. -/
def readItems : Nat → String → List Token → Except Error (Exprs × List Token)
  | 0, _, _ => .error .malformed
  | fuel + 1, close, ts =>
    match expect close ts with
    | .ok rest => .ok (.nil, rest)
    | .error _ => do
      let (e, rest) ← readExpr fuel ts
      match rest with
      | .symbol "," :: rest => do
        let (more, rest) ← readItems fuel close rest
        return (.cons e more, rest)
      | rest => do
        let rest ← expect close rest
        return (.cons e .nil, rest)

end

def exprOf (ts : List Token) : Except Error Expr := do
  match ← readExpr (16 * ts.length + 16) ts with
  | (e, []) => return e
  | _ => throw .malformed

mutual

def Expr.mentions (n : String) : Expr → Bool
  | .name m => m == n
  | .none | .bool _ | .int _ | .text _ => false
  | .list items => items.mentions n
  | .property e _ | .not e | .isDefined e => e.mentions n
  | .item a b | .and a b | .or a b | .compare _ a b | .add a b | .subtract a b | .concat a b =>
    a.mentions n || b.mentions n
  | .filter _ e args => e.mentions n || args.mentions n
  | .choice a b c => a.mentions n || b.mentions n || c.mentions n

def Exprs.mentions (n : String) : Exprs → Bool
  | .nil => false
  | .cons e rest => e.mentions n || rest.mentions n

end

def mentions (n : String) : Template → Bool
  | .done => false
  | .text _ next => mentions n next
  | .output e next | .assign _ e next | .embed e next => e.mentions n || mentions n next
  | .branch e yes no next => e.mentions n || mentions n yes || mentions n no || mentions n next
  | .each _ e _ body otherwise next =>
    e.mentions n || mentions n body || mentions n otherwise || mentions n next

abbrev Body := Template × Option (String × List Token × List Piece)

def isClosing (n : String) : Bool := ["elif", "else", "endif", "endfor"].contains n

mutual

def readBody : Nat → List Piece → Except Error Body
  | 0, _ => .error .malformed
  | _ + 1, [] => .ok (.done, none)
  | fuel + 1, piece :: rest =>
    match piece with
    | .text s => do
      let (next, close) ← readBody fuel rest
      return (.text s next, close)
    | .output ts => do
      let e ← exprOf ts
      let (next, close) ← readBody fuel rest
      return (.output e next, close)
    | .statement (.name "if" :: test) => do
      let (whole, rest) ← readIf fuel test rest
      let (next, close) ← readBody fuel rest
      return (whole next, close)
    | .statement (.name "for" :: .name n :: .name "in" :: list) => do
      if (constant? n).isSome || isKeyword n || n == "loop" then throw .malformed
      let list ← exprOf list
      match ← readBody fuel rest with
      | (body, some ("endfor", [], rest)) => do
        let (next, close) ← readBody fuel rest
        return (.each n list (mentions "loop" body) body .done next, close)
      | (body, some ("else", [], rest)) =>
        match ← readBody fuel rest with
        | (otherwise, some ("endfor", [], rest)) => do
          let (next, close) ← readBody fuel rest
          return (.each n list (mentions "loop" body) body otherwise next, close)
        | _ => throw .malformed
      | _ => throw .malformed
    | .statement (.name "set" :: .name n :: .symbol "=" :: value) => do
      if (constant? n).isSome || isKeyword n then throw .malformed
      let e ← exprOf value
      let (next, close) ← readBody fuel rest
      return (.assign n e next, close)
    | .statement (.name "include" :: source) => do
      let e ← exprOf source
      let (next, close) ← readBody fuel rest
      return (.embed e next, close)
    | .statement (.name n :: ts) =>
      if isClosing n then .ok (.done, some (n, ts, rest)) else .error .malformed
    | .statement _ => .error .malformed

def readIf : Nat → List Token → List Piece → Except Error ((Template → Template) × List Piece)
  | 0, _, _ => .error .malformed
  | fuel + 1, test, pieces => do
    let e ← exprOf test
    match ← readBody fuel pieces with
    | (yes, some ("endif", [], rest)) => return (.branch e yes .done, rest)
    | (yes, some ("elif", test, rest)) => do
      let (no, rest) ← readIf fuel test rest
      return (.branch e yes (no .done), rest)
    | (yes, some ("else", [], rest)) =>
      match ← readBody fuel rest with
      | (no, some ("endif", [], rest)) => return (.branch e yes no, rest)
      | _ => throw .malformed
    | _ => throw .malformed

end

def filters : List String :=
  ["join", "tojson", "upper", "lower", "length", "count", "list", "selectattr", "default", "d"]

mutual

/-- The first filter in an expression that is not known; alternatives are not looked at. -/
def Expr.unknownFilter? : Expr → Option String
  | .name _ | .none | .bool _ | .int _ | .text _ | .choice .. => Option.none
  | .list items => items.unknownFilter?
  | .property e _ | .not e | .isDefined e => e.unknownFilter?
  | .item a b | .and a b | .or a b | .compare _ a b | .add a b | .subtract a b | .concat a b =>
    a.unknownFilter? <|> b.unknownFilter?
  | .filter n e args =>
    if filters.contains n then e.unknownFilter? <|> args.unknownFilter? else some n

def Exprs.unknownFilter? : Exprs → Option String
  | .nil => Option.none
  | .cons e rest => e.unknownFilter? <|> rest.unknownFilter?

end

/-- The first filter that is not known, in the parts that are always reached. -/
def unknownFilter? : Template → Option String
  | .done => none
  | .text _ next => unknownFilter? next
  | .output e next | .assign _ e next | .embed e next => e.unknownFilter? <|> unknownFilter? next
  | .branch _ _ _ next => unknownFilter? next
  | .each _ e _ body otherwise next =>
    e.unknownFilter? <|> unknownFilter? body <|> unknownFilter? otherwise <|> unknownFilter? next

def parse (source : String) : Except Error Template := do
  let ps ← piecesOf source
  match ← readBody (2 * ps.length + 1) ps with
  | (t, none) =>
    match unknownFilter? t with
    | some n => throw (.unknownFilter n)
    | none => return t
  | _ => throw .malformed

end RpcBindings.Template
