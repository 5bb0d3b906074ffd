/-! # The artifacts

Twelve files are generated for a protocol: what both sides share, what the client
has, and what the service has.
-/

namespace CommandBuffer

inductive ArtifactKind where
  /-- The table of command ids. -/
  | commandTable
  /-- The command structs. -/
  | commandFormat
  | formatTests
  /-- The interface of the client. -/
  | interface
  /-- Its implementation, which forwards to the marshaling functions. -/
  | implementation
  | marshaling
  | clientTests
  /-- The functions that write commands into the buffer. -/
  | writers
  /-- Dispatch and handlers of the service. -/
  | handlers
  | handlerTests
  /-- The validator container and the validator types. -/
  | validators
  | validatorBodies
  deriving DecidableEq, Repr

namespace ArtifactKind

/-- Every artifact, in the order of emission. -/
def all : List ArtifactKind :=
  [commandTable, commandFormat, formatTests, interface, implementation, marshaling, clientTests,
    writers, handlers, handlerTests, validators, validatorBodies]

def directory : ArtifactKind → String
  | commandTable | commandFormat | formatTests => "common"
  | interface | implementation | marshaling | clientTests | writers => "client"
  | handlers | handlerTests | validators | validatorBodies => "service"

/-- What tells the file apart from the others of its protocol. -/
def stem : ArtifactKind → String
  | commandTable => "cmd_ids"
  | commandFormat => "cmd_format"
  | formatTests => "cmd_format_test"
  | interface => "interface"
  | implementation => "implementation"
  | marshaling => "implementation_impl"
  | clientTests => "implementation_unittest"
  | writers => "cmd_helper"
  | handlers => "decoder"
  | handlerTests => "decoder_unittest"
  | validators => "cmd_validation"
  | validatorBodies => "cmd_validation_implementation"

def fileName (kind : ArtifactKind) (filePrefix : String) : String :=
  s!"{filePrefix}_{kind.stem}_autogen.rs"

/-- The path below the output directory. A prefix that starts at the root stays there. -/
def relativePath (kind : ArtifactKind) (filePrefix : String) : String :=
  let file := kind.fileName filePrefix
  if file.startsWith "/" then file else s!"{kind.directory}/{file}"

end ArtifactKind
end CommandBuffer
