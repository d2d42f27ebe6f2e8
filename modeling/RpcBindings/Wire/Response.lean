import RpcBindings.Wire.Field

namespace RpcBindings

/-- Either an error and no file, or the generated files. -/
structure Response where
  error : Option String := none
  supportedFeatures : Nat := 1
  files : List (String × String) := []
deriving DecidableEq, Repr

namespace Response

open RpcBindings.Wire

def fileBytes (file : String × String) : List UInt8 := textField 1 file.1 ++ textField 15 file.2

def toBytes (r : Response) : List UInt8 :=
  r.error.elim [] (textField 1) ++ numberField 2 r.supportedFeatures ++
    r.files.flatMap fun f => bytesField 15 (fileBytes f)

/-- A file of a response; a part that is not given is empty. -/
def readFile? (s : List UInt8) : Option (String × String) :=
  (fields? s).bind fun fields => fields.foldlM (fun file w => match w.number, w.payload with
    | 1, .bytes b => (text? b).map fun t => (t, file.2)
    | 15, .bytes b => (text? b).map fun t => (file.1, t)
    | _, _ => some file) ("", "")

def readStep (r : Response) (w : Wire.Field) : Option Response :=
  match w.number, w.payload with
  | 1, .bytes b => (text? b).map fun s => { r with error := some s }
  | 2, .varint n => some { r with supportedFeatures := n }
  | 15, .bytes b => (readFile? b).map fun f => { r with files := r.files ++ [f] }
  | _, _ => some r

def ofBytes? (s : List UInt8) : Option Response :=
  (fields? s).bind fun fields => fields.foldlM readStep { supportedFeatures := 0 }

end Response

end RpcBindings
