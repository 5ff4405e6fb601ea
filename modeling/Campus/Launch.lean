import Campus.CommandLine
import Campus.Server

/-! # Launches

What the program does with its settings: it checks the configuration, opens the metrics, builds the service, binds a place to
listen at and serves until it is told to end. What goes wrong on the way ends the program.
-/
namespace Campus

/-- A launch: the log lines so far, and the server that runs or what went wrong. -/
structure Launch where
  notices : List Notice
  result : Except String Server

namespace Launch

def run (s : Settings) : Launch :=
  match s.config.validate with
  | .error e => ⟨[], .error e.message⟩
  | .ok _ =>
    let metrics := (s.metrics.map fun a => Notice.exporterListening a.text).toList
    match Node.build s.config s.network.requestTimeout 0 with
    | .error f => ⟨metrics, .error f.message⟩
    | .ok node =>
      let ready := Notice.routerReady s.config.service.name (s.config.peerUrl.getD "-") node.desk.methods.length
      match (Server.create node s.network).start false with
      | .error f => ⟨metrics ++ [ready], .error f.message⟩
      | .ok server => ⟨metrics ++ [ready] ++ server.node.desk.stage.journal.notices, .ok server.serve⟩

/-- The end of a server that is told to stop, with the log lines of the end. -/
def interrupt (s : Server) : List Notice × Server :=
  let ended := (s.note .shutdownSignal).shutDown.join
  (ended.node.desk.stage.journal.notices.drop s.node.desk.stage.journal.notices.length, ended)

/-- The code with which the program ends: zero when it served, or told about itself. -/
def exitCode : Except Stop Launch → Nat
  | .error (.usage _) => 2
  | .error _ => 0
  | .ok launch => match launch.result with
    | .ok _ => 0
    | .error _ => 1

end Launch

end Campus
