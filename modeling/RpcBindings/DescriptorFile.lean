import RpcBindings.Document.Descriptors
import RpcBindings.Files.Write
import RpcBindings.Json.Reader
import RpcBindings.Request.Descriptors
import RpcBindings.Wire.Request
import RpcBindings.Yaml.Reader

namespace RpcBindings.DescriptorFile

open RpcBindings.Data
open RpcBindings.Files
open RpcBindings.Path

inductive Format where
  | request
  | json
  | yaml
deriving DecidableEq, Repr

def Format.ofLocation (l : Location) : Format :=
  let extension := Text.lower l.extension
  if extension = ".bin" ∨ extension = ".pb" then request
  else if extension = ".json" then json
  else yaml

inductive Error where
  | notFound (path : String)
  | notFile (path : String)
  | unreadable (e : Files.Error)
  | malformedRequest (path : String)
  | malformedJson (path text : String) (fault : Json.Fault)
  | malformedYaml (path : String) (fault : Yaml.Fault)
  | notMapping (path kind : String)
  | document (e : Document.Error)
  | request (e : Request.Error)
deriving DecidableEq, Repr

namespace Error

def invalid (path reason : String) : String := "Invalid descriptor document " ++ path ++ ": " ++ reason

/-- Faults of numbers and dates in a document do not name the file. -/
def message : Error → String
  | notFound path => "Descriptor file not found: " ++ path
  | notFile path => "Descriptor path is not a file: " ++ path
  | unreadable e => e.message
  | malformedRequest path => "Invalid CodeGeneratorRequest in " ++ path
      ++ ": Error parsing message with type 'google.protobuf.compiler.CodeGeneratorRequest'"
  | malformedJson path text fault =>
    match fault.reason with
    | .tooManyDigits _ => fault.message text
    | _ => invalid path (fault.message text)
  | malformedYaml path fault =>
    if fault = .malformed then invalid path fault.message else fault.message
  | notMapping path kind => "Expected a mapping at top level of " ++ path ++ ", got " ++ kind ++ "."
  | document e => e.message
  | request e => e.message

def label : Error → String
  | notFound _ => "FileNotFoundError"
  | unreadable e => e.label
  | malformedYaml _ fault => fault.label
  | notFile _ | malformedRequest _ | malformedJson .. | notMapping .. | document _ | request _ =>
    "ValueError"

end Error

/-- What a descriptor file may hold: a request, or the value of a document. -/
inductive Content where
  | request (r : Request)
  | document (entries : List (Value × Value))

def readValue (format : Format) (path text : String) : Except Error Value :=
  match format with
  | .json => (Json.read text).mapError (.malformedJson path text)
  | _ => (Yaml.read text).mapError (.malformedYaml path)

def read (place : Place) (t : Tree) (l : Location) : Except Error Content := do
  if !(← (place.exists? t l).mapError .unreadable) then throw (.notFound l.text)
  if !(← (place.isFile? t l).mapError .unreadable) then throw (.notFile l.text)
  match Format.ofLocation l with
  | .request =>
    let bytes ← (place.readBytes t l).mapError .unreadable
    match Request.ofBytes? bytes.data.toList with
    | some r => return .request r
    | none => throw (.malformedRequest l.text)
  | format =>
    let text ← (place.readText t l).mapError .unreadable
    match ← readValue format l.text text with
    | .map entries => return .document entries
    | v => throw (.notMapping l.text v.kindName)

def Content.descriptors : Content → Except Error (DescriptorSet × Overrides)
  | request r => (r.descriptors.map fun s => (s, [])).mapError .request
  | document entries => (Document.parse (.map entries)).mapError .document

def Content.events : Content → List Log.Event
  | request r => match r.descriptors with
    | .ok _ => [r.loadedEvent]
    | .error _ => []
  | document entries => Document.events (.map entries)

def load (place : Place) (l : Location) : Action Error (DescriptorSet × Overrides) := do
  let content ← Action.look fun t => read place t l
  Action.reportAll content.events
  match content.descriptors with
  | .ok found => return found
  | .error e => throw e

end RpcBindings.DescriptorFile
