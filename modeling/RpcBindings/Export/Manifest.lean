import RpcBindings.Digest.Sha256
import RpcBindings.Json.Writer
import RpcBindings.Path.Location
import RpcBindings.Text.Lines

namespace RpcBindings.Export

open RpcBindings.Data

/-- A file that was written: its name, its place, and what it holds. -/
structure FileRecord where
  name : String
  path : String
  bytes : Nat
  lines : Nat
  digest : String
deriving DecidableEq, Repr

def FileRecord.ofText (name path text : String) : FileRecord :=
  ⟨name, path, text.utf8ByteSize, Text.lineCount text, Digest.sha256 text.toUTF8⟩

structure Manifest where
  service : String
  version : String
  timestamp : String
  directory : String
  files : List FileRecord := []
deriving DecidableEq, Repr

namespace Manifest

def totalFiles (m : Manifest) : Nat := m.files.length

def totalBytes (m : Manifest) : Nat := (m.files.map (·.bytes)).foldl (· + ·) 0

def totalLines (m : Manifest) : Nat := (m.files.map (·.lines)).foldl (· + ·) 0

def recordValue (r : FileRecord) : Value :=
  .record [("relative_path", .text r.name), ("size_bytes", .int r.bytes), ("line_count", .int r.lines),
    ("sha256", .text r.digest)]

def toValue (m : Manifest) : Value :=
  .record [("service_name", .text m.service), ("generator_version", .text m.version),
    ("export_timestamp", .text m.timestamp), ("output_directory", .text m.directory),
    ("total_files", .int m.totalFiles), ("total_bytes", .int m.totalBytes),
    ("total_lines", .int m.totalLines), ("files", .list (m.files.map recordValue))]

/-- The manifest with the time of another reading of the clock. -/
def stamped (m : Manifest) (time : String) : Manifest := { m with timestamp := time }

def text (m : Manifest) : String := Json.write ⟨.unicode, some 2⟩ 0 m.toValue

end Manifest

end RpcBindings.Export
