import RpcBindings.Template.Parse
import RpcBindings.Template.Value

namespace RpcBindings.Template

/-- Values by name; the first binding of a name counts. -/
abbrev Env := List (String × Value)

def Env.get (env : Env) (name : String) : Value :=
  (env.lookup name).getD (.undefined (Text.quoted name ++ " is undefined"))

mutual

def Expr.eval (env : Env) : Expr → Except Error Value
  | .name n => .ok (env.get n)
  | .none => .ok .none
  | .bool b => .ok (.bool b)
  | .int n => .ok (.int n)
  | .text s => .ok (.text s)
  | .list items => (items.eval env).map .list
  | .property e name => do (← e.eval env).property name
  | .item e index => do
    let v ← e.eval env
    let i ← index.eval env
    v.item i
  | .not e => do return .bool !(← (← e.eval env).truth)
  | .and a b => do
    let v ← a.eval env
    if ← v.truth then b.eval env else return v
  | .or a b => do
    let v ← a.eval env
    if ← v.truth then return v else b.eval env
  | .compare op a b => do
    let v ← a.eval env
    let w ← b.eval env
    return .bool (← Value.compare op v w)
  | .add a b => do
    let v ← a.eval env
    let w ← b.eval env
    v.add w
  | .subtract a b => do
    let v ← a.eval env
    let w ← b.eval env
    v.subtract w
  | .concat a b => do
    let v ← a.eval env
    let w ← b.eval env
    return .text ((← v.print) ++ (← w.print))
  | .isDefined e => do
    match ← e.eval env with
    | .undefined _ => return .bool false
    | _ => return .bool true
  | .filter name e args => do
    let v ← e.eval env
    let vs ← args.eval env
    Value.filter name v vs
  | .choice test yes no => do
    if ← (← test.eval env).truth then yes.eval env else no.eval env

def Exprs.eval (env : Env) : Exprs → Except Error (List Value)
  | .nil => .ok []
  | .cons e rest => do
    let v ← e.eval env
    let vs ← rest.eval env
    return v :: vs

end

def bindTurn (name : String) (showsLoop : Bool) (count : Nat) (turn : Value × Nat) (env : Env) : Env :=
  (name, turn.1) :: (if showsLoop then ("loop", .loop turn.2 count) :: env else env)

def renderWith (embedded : Env → Value → Except Error String) (env : Env) :
    Template → Except Error (String × Env)
  | .done => .ok ("", env)
  | .text s next => do
    let (rest, env) ← renderWith embedded env next
    return (String.ofList s ++ rest, env)
  | .output e next => do
    let s ← (← e.eval env).print
    let (rest, env) ← renderWith embedded env next
    return (s ++ rest, env)
  | .assign name e next => do
    let v ← e.eval env
    renderWith embedded ((name, v) :: env) next
  | .embed e next => do
    let s ← embedded env (← e.eval env)
    let (rest, env) ← renderWith embedded env next
    return (s ++ rest, env)
  | .branch test yes no next => do
    let chosen ← (← test.eval env).truth
    let (s, env) ← if chosen then renderWith embedded env yes else renderWith embedded env no
    let (rest, env) ← renderWith embedded env next
    return (s ++ rest, env)
  | .each name list showsLoop body otherwise next => do
    let items ← (← list.eval env).items
    let turns ← items.zipIdx.mapM fun turn =>
      (renderWith embedded (bindTurn name showsLoop items.length turn env) body).map (·.1)
    let empty ← if items.isEmpty then (renderWith embedded env otherwise).map (·.1) else pure ""
    let (rest, env) ← renderWith embedded env next
    return (String.join turns ++ empty ++ rest, env)

abbrev Sources := List (String × String)

def renderKey (sources : Sources) : Nat → Env → String → Except Error String
  | 0, _, _ => .error .tooDeep
  | depth + 1, env, key =>
    match sources.lookup key with
    | none => .error (.notFound key)
    | some source => do
      let t ← parse source
      let embedded (env : Env) (key : Value) : Except Error String := do
        let key ← key.print
        renderKey sources depth env key
      return (← renderWith embedded env t).1

def render (sources : Sources) (env : Env) (key : String) : Except Error String :=
  renderKey sources 100 env key

end RpcBindings.Template
