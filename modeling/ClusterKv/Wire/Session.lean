import ClusterKv.Cluster.Node
import ClusterKv.Wire.Frame

/-! The node's end of a connection over a stream of octets: the greeting, and the frames after it. -/

namespace ClusterKv.Node

/-- Executes requests one after another and writes the responses. A greeting after the first
changes nothing. The clock gives the time of each message. An end that is cut off by a response
too long for a frame has nothing after it. -/
def answerAll (clock : Nat → Instant) (node : Node) : Nat → List ClientMessage → Node × Bytes
  | _, [] => (node, [])
  | count, .hello _ _ :: rest => answerAll clock node (count + 1) rest
  | count, .request request :: rest =>
    let (node, response) := node.execute request (clock count)
    match Wire.frame? (ServerMessage.response response).write with
    | none => (node, [])
    | some frame =>
      let (node, more) := answerAll clock node (count + 1) rest
      (node, frame ++ more)

/-- What a node makes of the stream of a client, and the octets that it writes back. The first
message has to be a greeting that it accepts; it ends at the first frame that it cannot read. -/
def serve (clock : Nat → Instant) (node : Node) (stream : Bytes) : Node × Bytes :=
  let reject (rejection : Rejection) : Node × Bytes :=
    (node, (Wire.frame? (ServerMessage.rejected rejection.message).write).getD [])
  match Wire.readFrame ClientMessage.read stream with
  | .ended | .failed .. => (node, [])
  | .message (.request _) _ => reject .noGreeting
  | .message (.hello bucket password) rest =>
    match node.authenticate ⟨bucket, password⟩ with
    | .error rejection => reject rejection
    | .ok () =>
      match Wire.frame? (ServerMessage.welcome node.id.address).write with
      | none => (node, [])
      | some welcome =>
        let (messages, _, _) := Wire.readFrames ClientMessage.read rest
        let (node, answers) := node.answerAll clock 0 messages
        (node, welcome ++ answers)

end ClusterKv.Node
