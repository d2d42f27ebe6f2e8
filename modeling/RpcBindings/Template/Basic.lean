namespace RpcBindings

namespace Template

inductive Comparison where
  | equal
  | notEqual
  | less
  | lessOrEqual
  | greater
  | greaterOrEqual
  | member
  | notMember
deriving DecidableEq, Repr

mutual

inductive Expr where
  | name (n : String)
  | none
  | bool (b : Bool)
  | int (n : Int)
  | text (s : String)
  | list (items : Exprs)
  | property (e : Expr) (name : String)
  | item (e index : Expr)
  | not (e : Expr)
  | and (a b : Expr)
  | or (a b : Expr)
  | compare (op : Comparison) (a b : Expr)
  | add (a b : Expr)
  | subtract (a b : Expr)
  | concat (a b : Expr)
  | isDefined (e : Expr)
  | filter (name : String) (e : Expr) (args : Exprs)
  | choice (test yes no : Expr)

/-- Expressions in a row: the items of a list or the arguments of a filter. -/
inductive Exprs where
  | nil
  | cons (e : Expr) (rest : Exprs)

end

deriving instance DecidableEq, Repr, Inhabited for Expr, Exprs

inductive Error where
  | malformed
  | unknownFilter (name : String)
  | missingFilter (name : String)
  | undefined (reason : String)
  | notFound (name : String)
  | wrongType (reason : String)
  | tooManyDigits
  | tooDeep
deriving DecidableEq, Repr

/-- The text of an error; faults in the text of a template are not told apart. -/
def Error.message : Error → String
  | malformed | unknownFilter _ => "<template syntax error>"
  | missingFilter name => "No filter named '" ++ name ++ "' found."
  | undefined reason | wrongType reason => reason
  | notFound name => name
  | tooManyDigits => "Exceeds the limit (4300 digits) for integer string conversion; use sys.set_int_max_str_digits() "
      ++ "to increase the limit"
  | tooDeep => "maximum recursion depth exceeded"

def Error.label : Error → String
  | malformed => "TemplateSyntaxError"
  | unknownFilter _ => "TemplateAssertionError"
  | missingFilter _ => "TemplateRuntimeError"
  | undefined _ => "UndefinedError"
  | notFound _ => "TemplateNotFound"
  | wrongType _ => "TypeError"
  | tooManyDigits => "ValueError"
  | tooDeep => "RecursionError"

end Template

open Template in
/-- A template: text, printed expressions, and the statements that set, include, choose and repeat. -/
inductive Template where
  | done
  | text (s : List Char) (next : Template)
  | output (e : Expr) (next : Template)
  | assign (name : String) (e : Expr) (next : Template)
  | embed (e : Expr) (next : Template)
  | branch (test : Expr) (yes no next : Template)
  | each (name : String) (list : Expr) (showsLoop : Bool) (body otherwise next : Template)
deriving DecidableEq, Repr, Inhabited

end RpcBindings
