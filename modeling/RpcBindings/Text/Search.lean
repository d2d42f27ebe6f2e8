namespace RpcBindings.Text

def startsWith (text head : String) : Bool := head.toList.isPrefixOf text.toList

def endsWith (text tail : String) : Bool := tail.toList.isSuffixOf text.toList

/-- Cuts `tail` off the end of `text` if it is there. -/
def dropSuffix (text tail : String) : String :=
  if endsWith text tail then String.ofList (text.toList.take (text.length - tail.length)) else text

/-- Deletes the occurrences of `needle`, found from left to right without overlap.
`skip` characters of the last occurrence are still to be dropped. -/
def eraseFrom (needle : List Char) : Nat → List Char → List Char
  | _, [] => []
  | skip + 1, _ :: rest => eraseFrom needle skip rest
  | 0, c :: rest =>
    if needle.isPrefixOf (c :: rest) then eraseFrom needle (needle.length - 1) rest
    else c :: eraseFrom needle 0 rest

def eraseAll (text needle : String) : String :=
  String.ofList (eraseFrom needle.toList 0 text.toList)

/-- The pieces of `text` between the occurrences of `sep`; always at least one. -/
def splitOn (sep : Char) (text : String) : List String :=
  (text.toList.splitOn sep).map String.ofList

/-- The text before the first `sep` and, if there is one, the text after it. -/
def cut (sep : Char) (text : String) : String × Option String :=
  match text.toList.span (· ≠ sep) with
  | (front, []) => (String.ofList front, none)
  | (front, _ :: rest) => (String.ofList front, some (String.ofList rest))

def dropLeading (c : Char) (text : String) : String :=
  String.ofList (text.toList.dropWhile (· = c))

def dropTrailing (c : Char) (text : String) : String :=
  String.ofList (text.toList.reverse.dropWhile (· = c)).reverse

end RpcBindings.Text
