namespace RpcBindings.Text

/-- The number of lines; a last line counts whether or not a line feed ends it. -/
def lineCount (text : String) : Nat :=
  let cs := text.toList
  if cs = [] then 0
  else cs.count '\n' + if cs.getLast? = some '\n' then 0 else 1

def unifyLineEnds : List Char → List Char
  | [] => []
  | '\r' :: '\n' :: rest => '\n' :: unifyLineEnds rest
  | '\r' :: rest => '\n' :: unifyLineEnds rest
  | c :: rest => c :: unifyLineEnds rest

theorem not_mem_unifyLineEnds (s : List Char) : '\r' ∉ unifyLineEnds s := by
  fun_induction unifyLineEnds s with
  | case1 => simp
  | case2 rest ih => simpa using ih
  | case3 rest _ ih => simpa using ih
  | case4 c rest _ hc ih =>
    have : c ≠ '\r' := fun h => hc h
    simp [ih, this.symm]

end RpcBindings.Text
