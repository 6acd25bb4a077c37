import ChatProject.Cluster.Stores
import ChatProject.Server.ChatServer

namespace ChatModel

/-- A call of a handler while nothing else happens: the server itself answers, or a store with this outcome. -/
def execAlone (externals : Externals) (outcome : Op → Outcome) (addr : Addr) (op : Op)
    (state : ChatServer × Stores) : op.Res × ChatServer × Stores :=
  match ChatServer.execLocal addr op state.1 with
  | some (answer, server) => (answer, server, state.2)
  | none =>
    let (answer, stores) := state.2.exec externals (outcome op) op
    (answer, state.1, stores)

/-- A frame that is handled while nothing else happens. -/
def serve (externals : Externals) (outcome : Op → Outcome) (addr : Addr) (msg : MsgNode)
    (state : ChatServer × Stores) : Except Failure ChannelMessage × ChatServer × Stores :=
  (handleMessage externals.lib msg).run (execAlone externals outcome addr) state

/-- A server, its peer, and the stores that they share. -/
structure Scene where
  server : ChatServer
  peer : ChatServer
  stores : Stores

/-- The same with the peer, which is free and runs the task of a call at once, unless the call fails before. -/
def execPeered (externals : Externals) (outcome : Op → Outcome) (addr : Addr) (op : Op) (scene : Scene) : op.Res × Scene :=
  match op with
  | .notify request =>
    let (answer, peer) := (outcome (.notify request)).settle (some 0, scene.peer.serveNotify request) none scene.peer
    (answer, { scene with peer })
  | op =>
    let (answer, server, stores) := execAlone externals outcome addr op (scene.server, scene.stores)
    (answer, { scene with server, stores })

def servePeered (externals : Externals) (outcome : Op → Outcome) (addr : Addr) (msg : MsgNode) (scene : Scene) :
    Except Failure ChannelMessage × Scene :=
  (handleMessage externals.lib msg).run (execPeered externals outcome addr) scene

end ChatModel
