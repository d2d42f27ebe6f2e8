import RpcBindings.Text.Ranges
import RpcBindings.Text.CaseTable

namespace RpcBindings.Text

def shifted (rows : List (Nat × Nat × Nat × Int)) (n : Nat) : Option Nat :=
  (rows.find? fun (low, high, stride, _) =>
    decide (low ≤ n) && decide (n ≤ high) && (n - low) % stride == 0).map
    fun (_, _, _, shift) => (n + shift).toNat

def mapCase (ascii : Char → Char) (rows : List (Nat × Nat × Nat × Int)) (long : List (Nat × List Nat))
    (c : Char) : List Char :=
  if c.toNat < 128 then [ascii c]
  else match long.lookup c.toNat with
    | some image => image.map Char.ofNat
    | none => [(shifted rows c.toNat).elim c Char.ofNat]

def lowerChar : Char → List Char := mapCase Char.toLower CaseTable.lowerRows CaseTable.lowerLong

def upperChar : Char → List Char := mapCase Char.toUpper CaseTable.upperRows CaseTable.upperLong

/-- A context shows a cased letter if the first character that counts is one. -/
def showsCased (context : List Char) : Bool :=
  match context.dropWhile (inRanges CaseTable.ignorable) with
  | [] => false
  | c :: _ => inRanges CaseTable.cased c

def lowerAfter : List Char → List Char → List Char
  | _, [] => []
  | before, c :: rest =>
    let image :=
      if c = 'Σ' then [if showsCased before && !showsCased rest then 'ς' else 'σ'] else lowerChar c
    image ++ lowerAfter (c :: before) rest

def lower (s : String) : String := String.ofList (lowerAfter [] s.toList)

def upper (s : String) : String := String.ofList (s.toList.flatMap upperChar)

def lowerFirst (s : String) : String :=
  match s.toList with
  | [] => ""
  | c :: rest => String.ofList (lowerChar c ++ rest)

theorem lowerChar_ascii {c : Char} (h : c.toNat < 128) : lowerChar c = [c.toLower] := by
  simp [lowerChar, mapCase, h]

theorem upperChar_ascii {c : Char} (h : c.toNat < 128) : upperChar c = [c.toUpper] := by
  simp [upperChar, mapCase, h]

end RpcBindings.Text
