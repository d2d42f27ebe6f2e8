import RpcBindings.Proofs.Generation.Drivers
import RpcBindings.Proofs.Request.Encoded
import RpcBindings.Proofs.Wire.Padded

namespace RpcBindings

open RpcBindings.Files
open RpcBindings.Files.Action (Ends finish)
open RpcBindings.Wire

namespace Response

def fileStep (file : String × String) (w : Wire.Field) : Option (String × String) :=
  match w.number, w.payload with
  | 1, .bytes b => (text? b).map fun t => (t, file.2)
  | 15, .bytes b => (text? b).map fun t => (file.1, t)
  | _, _ => some file

theorem readFile?_of_written {fs : List Wire.Field} {s : List UInt8} (h : Written fs s) :
    readFile? s = fs.foldlM fileStep ("", "") := by
  rw [readFile?, fields?_eq_some.2 h]
  rfl

theorem ofBytes?_of_written {fs : List Wire.Field} {s : List UInt8} (h : Written fs s) :
    ofBytes? s = fs.foldlM readStep { supportedFeatures := 0 } := by
  rw [ofBytes?, fields?_eq_some.2 h, Option.bind_some]

-- Readers of responses check no form within, as with a shape that holds no other one.
theorem file_encodes (file : String × String) : Encodes .version readFile? (fileBytes file) file := by
  obtain ⟨name, text⟩ := file
  have hname : Takes .version fileStep (textField 1 name) ("", "") (name, "") := by
    refine .text (by omega) (by omega) rfl ?_
    simp only [fileStep, text?_toUTF8, Option.map_some]
  have htext : Takes .version fileStep (textField 15 text) (name, "") (name, text) := by
    refine .text (by omega) (by omega) rfl ?_
    simp only [fileStep, text?_toUTF8, Option.map_some]
  exact (hname.append htext).encodes (by decide) fun _ => readFile?_of_written

theorem ofBytes?_toBytes {a : Response} (hfeatures : a.supportedFeatures < 2 ^ 64) (hsize : a.toBytes.length < 2 ^ 31) :
    ofBytes? a.toBytes = some a := by
  obtain ⟨error, supportedFeatures, files⟩ := a
  have herror : Takes .version readStep (error.elim [] (textField 1)) { supportedFeatures := 0 }
      { error, supportedFeatures := 0 } := by
    refine .optionalText (fun error => ({ error, supportedFeatures := 0 } : Response)) (by omega) (by omega) rfl
      fun b t h => ?_
    simp only [readStep, h, Option.map_some]
  have hnumber : Takes .version readStep (numberField 2 supportedFeatures) { error, supportedFeatures := 0 }
      { error, supportedFeatures } := .varint (by omega) (by omega) hfeatures rfl
  have hfiles : Takes .version readStep (files.flatMap fun f => bytesField 15 (fileBytes f))
      { error, supportedFeatures } { error, supportedFeatures, files } := by
    refine .repeated (fun files => ({ error, supportedFeatures, files } : Response)) (fun f _ fs => ?_) []
    refine .bytes (by omega) (by omega) fun hsize => ⟨rfl, ?_⟩
    simp only [readStep, (file_encodes f hsize).2, Option.map_some]
  have htakes : Takes .version readStep (toBytes { error, supportedFeatures, files }) { supportedFeatures := 0 }
      { error, supportedFeatures, files } := (herror.append hnumber).append hfiles
  obtain ⟨fs, hfs, -, hfold⟩ := htakes hsize
  rw [ofBytes?_of_written hfs, hfold]

end Response

namespace Request

variable {place : Place} {r : Request} {input : List UInt8}

/-- The bytes are those of the request, with well-formed fields added at any depth that are not read. -/
def Interspersed (r : Request) (input : List UInt8) : Prop :=
  ∃ fs fs', Written fs r.toBytes ∧ Written fs' input ∧ Padded .request fs fs'

theorem ofBytes?_interspersed (h : r.Interspersed input) : ofBytes? input = ofBytes? r.toBytes := by
  obtain ⟨fs, fs', hfs, hfs', hpadded⟩ := h
  exact ofBytes?_padded hfs hfs' hpadded

theorem answerBytes_of_ofBytes? (h : ofBytes? input = some r) (place : Place) :
    answerBytes place input = do return (← r.answer place).toBytes := by
  rw [answerBytes, h]

/-- An answer says that the generator knows of optional fields, and of nothing else. -/
theorem supportedFeatures_of_answer {w w' : World} {a : Response} (h : r.answer place w = .ok a w') :
    a.supportedFeatures = 1 := by
  obtain ⟨t, log⟩ := w
  have hres := response_of_answer h
  cases hfiles : r.filesIn place t with
  | ok files =>
    rw [hfiles] at hres
    cases hres
    rfl
  | error f =>
    rw [hfiles] at hres
    rw [eq_of_response_error hres]

/-- Where the answer to a request is a response, the answer to its bytes are the bytes of the response, and that is
what they are read as; fields added at any depth change nothing. No bytes at all are the request without any part.
Requests and responses are less than 2³¹ bytes long, as all messages are. -/
theorem answerBytes_toBytes {w w' : World} {a : Response} (hr : r.Standard) (hsize : r.toBytes.length < 2 ^ 31)
    (h : r.answer place w = .ok a w') (ha : a.toBytes.length < 2 ^ 31) :
    answerBytes place r.toBytes w = .ok a.toBytes w' ∧ Response.ofBytes? a.toBytes = some a ∧
      (∀ input, r.Interspersed input → answerBytes place input w = .ok a.toBytes w') ∧
      answerBytes place [] = do return (← ({} : Request).answer place).toBytes := by
  obtain ⟨-, hread⟩ := encodes hr hsize
  have hanswer {input : List UInt8} (hinput : ofBytes? input = some r) :
      answerBytes place input w = .ok a.toBytes w' := by
    rw [answerBytes_of_ofBytes? hinput, Action.bind_of_ok h]
    rfl
  have hfeatures : a.supportedFeatures < 2 ^ 64 := by
    rw [supportedFeatures_of_answer h]
    decide
  refine ⟨hanswer hread, Response.ofBytes?_toBytes hfeatures ha, fun input hinput => ?_, ?_⟩
  · exact hanswer ((ofBytes?_interspersed hinput).trans hread)
  · exact answerBytes_of_ofBytes? (by decide) place

def nestedRequest : Request :=
  { files := [
      { name := some "a"
        messages := .cons (some "M") none [⟨some "f", some 1, some 11, some "M.N"⟩]
          (.cons (some "N") (some false) [] .nil .nil) .nil }] }

/-- The request with a group at its front, four bytes at the front of its file, and a number in the inner message. -/
def nestedBytes : List UInt8 :=
  [155, 6, 8, 1, 156, 6, 122, 40, 173, 6, 1, 2, 3, 4, 10, 1, 97, 34, 29, 10, 1, 77, 18, 12, 10, 1, 102, 32, 1, 40,
    11, 50, 3, 77, 46, 78, 26, 10, 10, 1, 78, 160, 6, 7, 58, 2, 56, 0]

theorem nestedRequest_interspersed : nestedRequest.Interspersed nestedBytes := by
  have hinner : Padded .message [⟨1, .bytes [78]⟩, ⟨7, .bytes [56, 0]⟩]
      [⟨1, .bytes [78]⟩, ⟨100, .varint 7⟩, ⟨7, .bytes [56, 0]⟩] := .same _ (.added rfl rfl (.refl _))
  let field : Wire.Field := ⟨2, .bytes [10, 1, 102, 32, 1, 40, 11, 50, 3, 77, 46, 78]⟩
  have houter : Padded .message [⟨1, .bytes [77]⟩, field, ⟨3, .bytes [10, 1, 78, 58, 2, 56, 0]⟩]
      [⟨1, .bytes [77]⟩, field, ⟨3, .bytes [10, 1, 78, 160, 6, 7, 58, 2, 56, 0]⟩] :=
    .same _ (.same _ (.within rfl (by decide) (fields?_eq_some.1 (by decide)) (fields?_eq_some.1 (by decide))
      hinner .nil))
  have hfile : Padded .file [⟨1, .bytes [97]⟩, ⟨4, .bytes (nestedRequest.toBytes.drop 7)⟩]
      [⟨101, .fixed32 [1, 2, 3, 4]⟩, ⟨1, .bytes [97]⟩, ⟨4, .bytes (nestedBytes.drop 19)⟩] :=
    .added rfl rfl (.same _ (.within rfl (by decide) (fields?_eq_some.1 (by decide +kernel))
      (fields?_eq_some.1 (by decide)) houter .nil))
  have hrequest : Padded .request [⟨15, .bytes (nestedRequest.toBytes.drop 2)⟩]
      [⟨99, .group⟩, ⟨15, .bytes (nestedBytes.drop 8)⟩] :=
    .added rfl rfl (.within rfl (by decide) (fields?_eq_some.1 (by decide +kernel))
      (fields?_eq_some.1 (by decide)) hfile .nil)
  exact ⟨_, _, fields?_eq_some.1 (by decide +kernel), fields?_eq_some.1 (by decide), hrequest⟩

theorem answerBytes_toBytes_nested : ∃ w, answerBytes {} nestedBytes ⟨⟨[]⟩, []⟩ = .ok [16, 1] w := by
  have hr : nestedRequest.Standard := by decide
  have hsize : nestedRequest.toBytes.length < 2 ^ 31 := by decide +kernel
  obtain ⟨log, h⟩ := nestedRequest.answer_ends {} ⟨[]⟩ []
  have hfiles : nestedRequest.filesIn {} ⟨[]⟩ = .ok [] := rfl
  rw [hfiles] at h
  have ha : ({} : Response).toBytes = [16, 1] := by decide +kernel
  have hlength : ({} : Response).toBytes.length < 2 ^ 31 := by
    rw [ha]
    decide
  have hsame := (answerBytes_toBytes hr hsize h hlength).2.2.1 nestedBytes nestedRequest_interspersed
  rw [ha] at hsame
  exact ⟨_, hsame⟩

end Request

end RpcBindings
