import RpcBindings.Generation.Run
import RpcBindings.Request.Parameter
import RpcBindings.Wire.Request
import RpcBindings.Wire.Response

namespace RpcBindings

open RpcBindings.Files

namespace Request

def programName : String := "protoc-gen-connect-vue"

def overrides (r : Request) : Overrides :=
  (Parameter.parse (r.parameter.getD "")).map fun (k, v) => (k, .text v)

def render (place : Place) (r : Request) : Action Failure RenderedFiles := do
  match Config.build [some r.overrides] with
  | .error issues => throw (.settings issues)
  | .ok config =>
    match r.descriptors with
    | .error e => throw (.request e)
    | .ok set =>
      Action.report r.loadedEvent
      Generation.renderFirst place set config

def errorText (f : Failure) : String := programName ++ ": " ++ f.text

def answer (place : Place) (r : Request) : Action Failure Response := do
  match ← Action.attempt (r.render place) with
  | .ok files =>
    Action.report (.requestAnswered files.length)
    return { files }
  | .error f =>
    if !f.isRenderError then throw f
    Action.report (.requestFailed f.message)
    match f.halves? (errorText f) with
    | some h => throw (.unencodable h)
    | none => return { error := some (errorText f) }

def answerBytes (place : Place) (bytes : List UInt8) : Action Failure (List UInt8) := do
  match Request.ofBytes? bytes with
  | none => throw .undecodable
  | some r => return (← r.answer place).toBytes

end Request

end RpcBindings
