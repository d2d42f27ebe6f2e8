import RpcBindings.DescriptorFile
import RpcBindings.Rendering

namespace RpcBindings

inductive Failure where
  | settings (issues : List Schema.Issue)
  | descriptorFile (e : DescriptorFile.Error)
  | document (e : Document.Error)
  | request (e : Request.Error)
  | undecodable
  | imports (e : ImportError)
  | rendering (e : Rendering.Error)
  | file (e : Files.Error)
  | unencodable (h : Text.Utf8.Halves)
deriving DecidableEq, Repr

namespace Failure

inductive Kind where
  | invalid
  | missing
  | refused
  | template
  | broken
deriving DecidableEq, Repr

def Kind.ofFile : Files.Error → Kind
  | .refused .notFound .. => missing
  | .refused .. => refused
  | .nullByte | .undecodable _ => invalid

def Kind.ofYaml : Yaml.Fault → Kind
  | .badTruth _ | .emptyNumber | .badTimestamp => broken
  | .badCharacter code => if code < Nat.pow 2 31 then invalid else broken
  | _ => invalid

def Kind.ofDescriptorFile : DescriptorFile.Error → Kind
  | .notFound _ => missing
  | .unreadable e => ofFile e
  | .malformedYaml _ fault => ofYaml fault
  | _ => invalid

def Kind.ofRendering : Rendering.Error → Kind
  | .missingSources _ => invalid
  | .template (.wrongType _) | .template .tooDeep => broken
  | .template .tooManyDigits => invalid
  | .template _ => template

def kind : Failure → Kind
  | settings _ | document _ | request _ | unencodable _ => .invalid
  | descriptorFile e => .ofDescriptorFile e
  | undecodable | imports _ => .broken
  | rendering e => .ofRendering e
  | file e => .ofFile e

def message : Failure → String
  | settings issues => Config.errorMessage issues
  | descriptorFile e => e.message
  | document e => e.message
  | request e => e.message
  | undecodable => "Error parsing message with type 'google.protobuf.compiler.CodeGeneratorRequest'"
  | imports e => e.message
  | rendering e => e.message
  | file e => e.message
  | unencodable h => h.message

def label : Failure → String
  | settings _ | document _ | request _ => "ValueError"
  | descriptorFile e => e.label
  | undecodable => "DecodeError"
  | imports _ => "TypeError"
  | rendering e => e.label
  | file e => e.label
  | unencodable _ => "UnicodeEncodeError"

def text (f : Failure) : String := f.label ++ ": " ++ f.message

/-- The halves of surrogate pairs in a text that tells of the failure. Only a template can have put them there. -/
def halves? (text : String) : Failure → Option Text.Utf8.Halves
  | rendering (.template _) => Text.Utf8.halves? text
  | _ => none

def isLoadError (f : Failure) : Bool := f.kind == .invalid || f.kind == .missing

def isRenderError (f : Failure) : Bool := f.kind != .broken

end Failure

end RpcBindings
