import ChatProject.Server.ChatServer

namespace ChatModel

/-- One thing that happens at a server. What the stores answer is any function of what was asked. -/
inductive Act where
  | accept (addr : Addr) (uid : Int64)
  | send (addr : Addr) (bytes : Bytes)
  | startReader (addr : Addr)
  | readDone (addr : Addr)
  | readFailed (addr : Addr)
  | resumeReader (addr : Addr)
  | answer (addr : Addr) (oracle : (op : Op) → op.Res)
  | returned (answer : Option Int32)
  | startWriter (addr : Addr)
  | writeDone (addr : Addr)
  | writeFailed (addr : Addr)
  | resumeWriter (addr : Addr)
  | startDeadline (addr : Addr)
  | expire (addr : Addr)
  | resumeDeadline (addr : Addr)
  | arrive (request : NotifyRequest)
  | runTask

namespace ChatServer

/-- Where `async_read` waits, whether it can complete with the bytes at hand, and with what. -/
def readDone (session : Session) : Option Session :=
  match session.reader with
  | .readingHeader =>
    if session.stopped = false ∧ prefixLen ≤ session.incoming.length then
      some { session with
        reader := .headerRead (({} : MsgNode).write 0 (session.incoming.take prefixLen))
        incoming := session.incoming.drop prefixLen }
    else none
  | .readingBody readMsg =>
    let size := readMsg.bodyLength.toInt.toNat
    -- a read of no bytes completes on a closed socket, too
    if (session.stopped = false ∨ size = 0) ∧ size ≤ session.incoming.length then
      some { session with
        reader := .bodyRead (readMsg.write prefixLen (session.incoming.take size))
        incoming := session.incoming.drop size }
    else none
  | _ => none

theorem readDone_login {session after : Session} (done : readDone session = some after) :
    after.started = session.started ∧ after.stopped = session.stopped ∧ after.uid = session.uid ∧
      after.isAuthenticated = session.isAuthenticated := by
  unfold readDone at done
  split at done
  · split at done <;> cases done
    exact ⟨rfl, rfl, rfl, rfl⟩
  · dsimp only at done
    split at done <;> cases done
    exact ⟨rfl, rfl, rfl, rfl⟩
  · cases done

def canFail : Reader → Bool
  | .readingHeader => true
  | .readingBody readMsg => readMsg.bodyLength.toInt.toNat ≠ 0
  | _ => false

theorem canFail_reading {reader : Reader} (fails : canFail reader = true) : reader.isReading := by
  unfold canFail at fails
  split at fails
  · rfl
  · rfl
  · cases fails

def resumeReader (lib : JsonLib) (addr : Addr) (server : ChatServer) : Option ChatServer :=
  match (server.session addr).reader with
  | .headerRead readMsg =>
    match readMsg.decodeHeader with
    | (true, readMsg) => some (server.setReader addr (.readingBody readMsg))
    | (false, _) => some ((server.stop addr).setReader addr .finished)
  | .bodyRead readMsg =>
    some ((server.record (.handed addr readMsg)).runHandler addr readMsg [] (handleMessage lib readMsg))
  | .resuming readMsg ledger rest => some (server.runHandler addr readMsg ledger rest)
  | _ => none

def resumeWriter (addr : Addr) (server : ChatServer) : Option ChatServer :=
  match (server.session addr).writer with
  | .received out => some (server.setWriter addr (.writing out))
  | .written out =>
    if out.closeAfterSend then some ((server.stop addr).setWriter addr .finished)
    else some (server.modify addr Session.receive)
  | _ => none

def resumeDeadline (addr : Addr) (server : ChatServer) : Option ChatServer :=
  match (server.session addr).loginDeadline with
  | .aborted => some (server.setDeadline addr .finished)
  | .expired =>
    if (server.session addr).isAuthenticated then some (server.setDeadline addr .finished)
    else some ((server.stop addr).setDeadline addr .finished)
  | _ => none

/-- The steps that the thread takes, so none of them while it is blocked. -/
def threadStep (lib : JsonLib) (server : ChatServer) : Act → Option ChatServer
  | .accept addr uid => if (server.session addr).started then none else some (server.start addr uid)
  | .startReader addr =>
    match (server.session addr).started, (server.session addr).reader with
    | true, .unstarted => some (server.setReader addr .readingHeader)
    | _, _ => none
  | .readDone addr => (readDone (server.session addr)).map fun session => server.modify addr fun _ => session
  | .readFailed addr =>
    if canFail (server.session addr).reader then some ((server.stop addr).setReader addr .finished) else none
  | .resumeReader addr => server.resumeReader lib addr
  | .startWriter addr =>
    match (server.session addr).started, (server.session addr).writer with
    | true, .unstarted => some (server.modify addr Session.receive)
    | _, _ => none
  | .writeDone addr =>
    match (server.session addr).stopped, (server.session addr).writer with
    | false, .writing out => some ((server.setWriter addr (.written out)).record (.written addr out))
    | _, _ => none
  | .writeFailed addr =>
    match (server.session addr).writer with
    | .writing _ => some ((server.stop addr).setWriter addr .finished)
    | _ => none
  | .resumeWriter addr => server.resumeWriter addr
  | .startDeadline addr =>
    match (server.session addr).started, (server.session addr).loginDeadline with
    | true, .unstarted => some (server.setDeadline addr .armed)
    | _, _ => none
  | .expire addr =>
    match (server.session addr).loginDeadline with
    | .armed => some (server.setDeadline addr .expired)
    | _ => none
  | .resumeDeadline addr => server.resumeDeadline addr
  | .runTask =>
    match server.tasks with
    | request :: rest => some ({ server with tasks := rest }.serveNotify request)
    | [] => none
  | .send _ _ | .answer _ _ | .returned _ | .arrive _ => none

def step (lib : JsonLib) (server : ChatServer) : Act → Option ChatServer
  | .send addr bytes =>
    match (server.session addr).started, (server.session addr).stopped with
    | true, false => some (server.modify addr fun session =>
        { session with incoming := session.incoming ++ bytes })
    | _, _ => none
  | .answer addr oracle =>
    match (server.session addr).reader with
    | .waiting readMsg ledger op next =>
      some (server.setReader addr (.resuming readMsg (⟨op, oracle op⟩ :: ledger) (next (oracle op))))
    | _ => none
  | .returned answer =>
    match server.blocked with
    | some addr =>
      match (server.session addr).reader with
      | .calling readMsg ledger request next =>
        some ({ server with blocked := none }.runHandler addr readMsg
          (⟨.notify request, answer⟩ :: ledger) (next answer))
      | _ => none
    | none => none
  | .arrive request => some { server with tasks := server.tasks ++ [request] }
  | act => if server.blocked = none then server.threadStep lib act else none

end ChatServer

end ChatModel
