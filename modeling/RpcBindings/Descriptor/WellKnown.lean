import RpcBindings.Descriptor.Basic

namespace RpcBindings

def wellKnownPackage : String := "google.protobuf"

def wellKnownTypes : List TypeRef :=
  [⟨"google.protobuf.Empty", "Empty", "google/protobuf/empty.proto"⟩,
    ⟨"google.protobuf.Timestamp", "Timestamp", "google/protobuf/timestamp.proto"⟩,
    ⟨"google.protobuf.Duration", "Duration", "google/protobuf/duration.proto"⟩]

def wellKnown? (typeName : String) : Option TypeRef :=
  wellKnownTypes.find? (·.typeName == typeName)

end RpcBindings
