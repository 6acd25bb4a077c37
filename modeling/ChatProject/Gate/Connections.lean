import ChatProject.Gate.HttpServer
import ChatProject.Library.Transition

/-! What the connections of the gate server do over whole runs. -/

namespace ChatProof

open ChatModel

section Steps

variable {weight : Collation} {lib : GateLib} {server after : HttpServer weight}

/-! ## The steps -/

/-- Everything that a step of the server can be. -/
inductive HttpSteps (lib : GateLib) (server : HttpServer weight) : HttpAct → HttpServer weight → Prop
  | accept (uuid : String) : HttpSteps lib server (.accept uuid) (server.accept uuid)
  | unread {id : Nat} {uuid : String} {context : Nat} (rpc : GateRpc) : server.connection id = some ⟨uuid, context, .reading⟩ →
      HttpSteps lib server (.read id none rpc) (server.cleanUp id uuid)
  | received {id : Nat} {uuid : String} {context : Nat} (request : HttpRequest) (rpc : GateRpc) :
      server.connection id = some ⟨uuid, context, .reading⟩ →
      HttpSteps lib server (.read id (some request) rpc) (((server.record (.received id request)).decideOn id request
        (Dispatcher.handleRequest lib request)).resume id request [] (Dispatcher.handleRequest lib request) rpc)
  | executed {id : Nat} {uuid : String} {context : Nat} {request : HttpRequest} {told : GateLedger} {op : GateOp}
      {next : op.Res → RequestHandler} {answer : op.Res} {users : UserTable weight} {getting : Outcome} {storing : MysqlOutcome} :
      server.connection id = some ⟨uuid, context, .handling request told op next⟩ →
      server.execStore getting storing op = some (answer, users) →
      HttpSteps lib server (.exec id getting storing)
        ((({ server with users }.record (.executed id request op)).decideOn id request (next answer)).setServing id
          (.resuming request (⟨op, answer⟩ :: told) (next answer)))
  | resumed {id : Nat} {uuid : String} {context : Nat} {request : HttpRequest} {told : GateLedger} {rest : RequestHandler}
      (rpc : GateRpc) : server.connection id = some ⟨uuid, context, .resuming request told rest⟩ →
      HttpSteps lib server (.resume id rpc) (server.resume id request told rest rpc)
  | unwritten {id : Nat} {uuid : String} {context : Nat} {request : HttpRequest} {reply : HttpReply} :
      server.connection id = some ⟨uuid, context, .writing request reply⟩ →
      HttpSteps lib server (.write id false) (server.cleanUp id uuid)
  | again {id : Nat} {uuid : String} {context : Nat} {request : HttpRequest} {reply : HttpReply} :
      server.connection id = some ⟨uuid, context, .writing request reply⟩ → reply.keepAlive = true →
      HttpSteps lib server (.write id true) ((server.record (.written id reply)).setServing id .reading)
  | last {id : Nat} {uuid : String} {context : Nat} {request : HttpRequest} {reply : HttpReply} :
      server.connection id = some ⟨uuid, context, .writing request reply⟩ → reply.keepAlive = false →
      HttpSteps lib server (.write id true) ((server.record (.written id reply)).cleanUp id uuid)
  | stop : HttpSteps lib server .stop { server with running := false, sessions := fun _ => none }
  | others (redis : Redis) : HttpSteps lib server (.others redis) { server with redis }

theorem http_steps {act : HttpAct} (taken : server.step lib act = some after) :
    server.running = true ∧ HttpSteps lib server act after := by
  unfold HttpServer.step at taken
  split at taken
  · cases taken
  · rename_i running
    refine ⟨by simpa using running, ?_⟩
    split at taken
    · rename_i uuid
      cases taken
      exact .accept uuid
    · rename_i id request rpc
      split at taken
      · rename_i uuid context here
        split at taken
        · cases taken
          exact .unread rpc here
        · rename_i request
          cases taken
          exact .received request rpc here
      · cases taken
    · rename_i id getting storing
      split at taken
      · rename_i uuid context request told op next here
        obtain ⟨result, executed, same⟩ := Option.map_eq_some_iff.mp taken
        obtain ⟨answer, users⟩ := result
        subst same
        exact .executed here executed
      · cases taken
    · rename_i id rpc
      split at taken
      · rename_i uuid context request told rest here
        cases taken
        exact .resumed rpc here
      · cases taken
    · rename_i id done
      split at taken
      · rename_i uuid context request reply here
        cases done with
        | false =>
          cases taken
          exact .unwritten here
        | true =>
          simp only [if_true] at taken
          cases taken
          split
          · rename_i keeps
            exact .again here keeps
          · rename_i closes
            exact .last here (by simpa using closes)
      · cases taken
    · cases taken
      exact .stop
    · rename_i redis
      cases taken
      exact .others redis

/-! ## The end of a turn of a handler -/

/-- Nothing is thrown out of `handle_request`. -/
theorem handleRequest_returns (lib : GateLib) (request : HttpRequest) :
    (Dispatcher.handleRequest lib request).Ends fun result => ∃ response, result = .ok response := by
  unfold Dispatcher.handleRequest
  split
  · exact ⟨_, rfl⟩
  · split
    · exact ⟨_, rfl⟩
    · split
      · exact ⟨_, rfl⟩
      · apply Coroutine.Ends.catchWith
        · exact (Coroutine.Ends.trivial _).mono fun result _ value _ => ⟨value, rfl⟩
        · exact fun _ => ⟨_, rfl⟩

def isRpc : GateOp → Bool
  | .getVerifyCode _ | .getChatServer _ => true
  | _ => false

theorem execRpc_records (rpc : GateRpc) (op : GateOp) (told : GateLedger) (answer : op.Res) (later : GateLedger)
    (answered : HttpServer.execRpc rpc op told = some (answer, later)) : isRpc op = true ∧ later = ⟨op, answer⟩ :: told := by
  cases op <;> cases answered <;> exact ⟨rfl, rfl⟩

/-- How the turn of a handler ends that has begun with these answers; RPCs may have been answered since. -/
inductive HttpTurn (lib : GateLib) (id : Nat) (request : HttpRequest) (first : GateLedger) (server : HttpServer weight) :
    HttpServer weight → Prop
  | returned {heard : GateLedger} {response : HttpResponse} :
      (Dispatcher.handleRequest lib request).Leads (heard ++ first) (.ret response) → (∀ entry ∈ heard, isRpc entry.1 = true) →
      HttpTurn lib id request first server
        ((server.record (.handled id request response)).setServing id (.writing request (.answering request response)))
  | suspended {heard : GateLedger} {op : GateOp} {next : op.Res → RequestHandler} :
      (Dispatcher.handleRequest lib request).Leads (heard ++ first) (.call op next) → (∀ entry ∈ heard, isRpc entry.1 = true) →
      HttpTurn lib id request first server (server.setServing id (.handling request (heard ++ first) op next))

theorem resume_turn {id : Nat} {request : HttpRequest} {told : GateLedger} {rest : RequestHandler}
    (leads : (Dispatcher.handleRequest lib request).Leads told rest) (rpc : GateRpc) (server : HttpServer weight) :
    HttpTurn lib id request told server (server.resume id request told rest rpc) := by
  obtain ⟨reached, heard, front, rpcs⟩ := leads.advance (execRpc_records rpc)
  unfold HttpServer.resume
  generalize rest.advance (HttpServer.execRpc rpc) told = stopped at reached front ⊢
  obtain ⟨left, told'⟩ := stopped
  subst front
  cases left with
  | ret response => exact .returned reached rpcs
  | throw error =>
    obtain ⟨response, same⟩ := reached.ends (handleRequest_returns lib request)
    cases same
  | call op next => exact .suspended reached rpcs

end Steps

/-! ## Requests and responses of one connection -/

def requestsOf (id : Nat) (history : List HttpEvent) : List HttpRequest :=
  (history.filterMap fun
    | .received other request => if other = id then some request else none
    | _ => none).reverse

def repliesOf (id : Nat) (history : List HttpEvent) : List HttpReply :=
  (history.filterMap fun
    | .written other reply => if other = id then some reply else none
    | _ => none).reverse

/-- The reply is what the handler of the request has come to, with some answers of the stores and the other servers. -/
def RepliesTo (lib : GateLib) (request : HttpRequest) (reply : HttpReply) : Prop :=
  ∃ told response, (Dispatcher.handleRequest lib request).Leads told (.ret response) ∧ reply = .answering request response

/-- The handler that is at work on a connection: its request, what it has been told, and what it has left to do. -/
def Serving.task : Serving → Option (HttpRequest × GateLedger × RequestHandler)
  | .handling request told op next => some (request, told, .call op next)
  | .resuming request told rest => some (request, told, rest)
  | _ => none

/-- How far a connection is, by the requests that it has read and the replies that it has written. -/
inductive Progress (lib : GateLib) : List HttpRequest → List HttpReply → Serving → Prop
  | reading {requests : List HttpRequest} {replies : List HttpReply} : List.Forall₂ (RepliesTo lib) requests replies →
      (∀ request ∈ requests, request.keepAlive = true) → Progress lib requests replies .reading
  | handling {requests : List HttpRequest} {replies : List HttpReply} {request : HttpRequest} {told : GateLedger} {op : GateOp}
      {next : op.Res → RequestHandler} : Progress lib requests replies .reading →
      (Dispatcher.handleRequest lib request).Leads told (.call op next) →
      Progress lib (requests ++ [request]) replies (.handling request told op next)
  | resuming {requests : List HttpRequest} {replies : List HttpReply} {request : HttpRequest} {told : GateLedger}
      {rest : RequestHandler} : Progress lib requests replies .reading → (Dispatcher.handleRequest lib request).Leads told rest →
      Progress lib (requests ++ [request]) replies (.resuming request told rest)
  | writing {requests : List HttpRequest} {replies : List HttpReply} {request : HttpRequest} {reply : HttpReply} :
      Progress lib requests replies .reading → RepliesTo lib request reply →
      Progress lib (requests ++ [request]) replies (.writing request reply)
  | unread {requests : List HttpRequest} {replies : List HttpReply} : Progress lib requests replies .reading →
      Progress lib requests replies .finished
  | unwritten {requests : List HttpRequest} {replies : List HttpReply} (request : HttpRequest) :
      Progress lib requests replies .reading → Progress lib (requests ++ [request]) replies .finished
  | through {requests : List HttpRequest} {replies : List HttpReply} {request : HttpRequest} {reply : HttpReply} :
      Progress lib requests replies .reading → RepliesTo lib request reply →
      Progress lib (requests ++ [request]) (replies ++ [reply]) .finished

section History

variable {lib : GateLib} {requests : List HttpRequest} {replies : List HttpReply} {id other : Nat} {history : List HttpEvent}

theorem requestsOf_received (id : Nat) (request : HttpRequest) (history : List HttpEvent) :
    requestsOf id (.received id request :: history) = requestsOf id history ++ [request] := by
  simp [requestsOf]

theorem repliesOf_written (id : Nat) (reply : HttpReply) (history : List HttpEvent) :
    repliesOf id (.written id reply :: history) = repliesOf id history ++ [reply] := by
  simp [repliesOf]

/-- The event is one of another connection, or not one that counts here. -/
theorem requestsOf_other {event : HttpEvent} (silent : ∀ request, event ≠ .received id request) :
    requestsOf id (event :: history) = requestsOf id history := by
  cases event with
  | received other request =>
    have different : other ≠ id := by
      intro here
      exact silent request (by rw [here])
    simp [requestsOf, different]
  | _ => rfl

theorem repliesOf_other {event : HttpEvent} (silent : ∀ reply, event ≠ .written id reply) :
    repliesOf id (event :: history) = repliesOf id history := by
  cases event with
  | written other reply =>
    have different : other ≠ id := by
      intro here
      exact silent reply (by rw [here])
    simp [repliesOf, different]
  | _ => rfl

theorem written_elsewhere (different : other ≠ id) (reply : HttpReply) :
    repliesOf other (.written id reply :: history) = repliesOf other history := by
  apply repliesOf_other
  exact fun _ same => different (HttpEvent.written.inj same).1.symm

theorem Progress.working {serving : Serving} {request : HttpRequest} {told : GateLedger} {rest : RequestHandler}
    (progress : Progress lib requests replies serving) (task : Serving.task serving = some (request, told, rest)) :
    ∃ before, requests = before ++ [request] ∧ Progress lib before replies .reading ∧
      (Dispatcher.handleRequest lib request).Leads told rest := by
  cases progress with
  | handling before leads =>
    cases task
    exact ⟨_, rfl, before, leads⟩
  | resuming before leads =>
    cases task
    exact ⟨_, rfl, before, leads⟩
  | _ => cases task

theorem Progress.wrote {request : HttpRequest} {reply : HttpReply} (progress : Progress lib requests replies (.writing request reply)) :
    ∃ before, requests = before ++ [request] ∧ Progress lib before replies .reading ∧ RepliesTo lib request reply := by
  cases progress with
  | writing before answered => exact ⟨_, rfl, before, answered⟩

theorem Progress.again {request : HttpRequest} {reply : HttpReply} (progress : Progress lib requests replies .reading)
    (answered : RepliesTo lib request reply) (keeps : reply.keepAlive = true) :
    Progress lib (requests ++ [request]) (replies ++ [reply]) .reading := by
  cases progress with
  | reading pairs kept =>
    obtain ⟨told, response, leads, same⟩ := answered
    subst same
    refine .reading (List.rel_append pairs (.cons ⟨told, response, leads, rfl⟩ .nil)) ?_
    intro other member
    rcases List.mem_append.mp member with old | new
    · exact kept other old
    · rw [List.mem_singleton.mp new]
      exact keeps

/-- What each request has been answered with, and that nothing follows where the connection is to be closed. -/
theorem Progress.exchange {serving : Serving} (progress : Progress lib requests replies serving) :
    ∃ answered waiting, requests = answered ++ waiting ∧ waiting.length ≤ 1 ∧ List.Forall₂ (RepliesTo lib) answered replies ∧
      ∀ other ∈ requests.dropLast, other.keepAlive = true := by
  have kept : ∀ {requests replies}, Progress lib requests replies .reading → List.Forall₂ (RepliesTo lib) requests replies ∧
      ∀ request ∈ requests, request.keepAlive = true := by
    intro requests replies progress
    cases progress with
    | reading pairs keeps => exact ⟨pairs, keeps⟩
  have waits : ∀ {requests replies} (request : HttpRequest), Progress lib requests replies .reading →
      ∃ answered waiting, requests ++ [request] = answered ++ waiting ∧ waiting.length ≤ 1 ∧
        List.Forall₂ (RepliesTo lib) answered replies ∧ ∀ other ∈ (requests ++ [request]).dropLast, other.keepAlive = true := by
    intro requests replies request before
    obtain ⟨pairs, keeps⟩ := kept before
    refine ⟨requests, [request], rfl, Nat.le_refl 1, pairs, ?_⟩
    rw [List.dropLast_concat]
    exact keeps
  have idle : ∀ {requests replies}, Progress lib requests replies .reading →
      ∃ answered waiting, requests = answered ++ waiting ∧ waiting.length ≤ 1 ∧ List.Forall₂ (RepliesTo lib) answered replies ∧
        ∀ other ∈ requests.dropLast, other.keepAlive = true := by
    intro requests replies before
    obtain ⟨pairs, keeps⟩ := kept before
    exact ⟨requests, [], (List.append_nil _).symm, Nat.zero_le 1, pairs,
      fun request member => keeps request (List.mem_of_mem_dropLast member)⟩
  cases progress with
  | reading pairs keeps => exact idle (.reading pairs keeps)
  | handling before _ => exact waits _ before
  | resuming before _ => exact waits _ before
  | writing before _ => exact waits _ before
  | unread before => exact idle before
  | unwritten request before => exact waits request before
  | @through requests replies request reply before answered =>
    obtain ⟨pairs, keeps⟩ := kept before
    refine ⟨requests ++ [request], [], (List.append_nil _).symm, Nat.zero_le 1, ?_, ?_⟩
    · exact List.rel_append pairs (.cons answered .nil)
    · rw [List.dropLast_concat]
      exact keeps

end History

/-- All connections of a server. -/
structure Attended {weight : Collation} (lib : GateLib) (server : HttpServer weight) : Prop where
  unused : ∀ id, server.accepted ≤ id → server.connection id = none
  silent : ∀ id, server.connection id = none → requestsOf id server.history = [] ∧ repliesOf id server.history = []
  progress : ∀ id connection, server.connection id = some connection →
    Progress lib (requestsOf id server.history) (repliesOf id server.history) connection.serving

section Runs

variable {weight : Collation} {lib : GateLib} {server after : HttpServer weight} {id : Nat} {connection : HttpConnection}

theorem setServing_self (server : HttpServer weight) (here : server.connection id = some connection) (serving : Serving) :
    (server.setServing id serving).connection id = some { connection with serving } := by
  simp [HttpServer.setServing, here]

theorem setServing_other {other : Nat} (server : HttpServer weight) (different : other ≠ id) (serving : Serving) :
    (server.setServing id serving).connection other = server.connection other :=
  Function.update_of_ne different _ _

/-- What is known of a connection is no matter of what its handler decides. -/
theorem requestsOf_decideOn (server : HttpServer weight) (other : Nat) (request : HttpRequest) (rest : RequestHandler) :
    requestsOf id (server.decideOn other request rest).history = requestsOf id server.history := by
  cases rest <;> rfl

theorem repliesOf_decideOn (server : HttpServer weight) (other : Nat) (request : HttpRequest) (rest : RequestHandler) :
    repliesOf id (server.decideOn other request rest).history = repliesOf id server.history := by
  cases rest <;> rfl

theorem cleanUp_sessions (server : HttpServer weight) (id : Nat) (uuid : String) :
    (server.cleanUp id uuid).sessions = Function.update server.sessions uuid none := rfl

theorem accept_sessions (server : HttpServer weight) (uuid : String) :
    (server.accept uuid).sessions = Function.update server.sessions uuid (some server.accepted) := rfl

namespace Attended

/-- One connection goes on, and the others have nothing to do with it. -/
theorem move (attended : Attended lib server) (here : server.connection id = some connection) {serving : Serving}
    (accepted : after.accepted = server.accepted) (own : after.connection id = some { connection with serving })
    (others : ∀ other, other ≠ id → after.connection other = server.connection other)
    (heard : ∀ other, other ≠ id → requestsOf other after.history = requestsOf other server.history ∧
      repliesOf other after.history = repliesOf other server.history)
    (progress : Progress lib (requestsOf id after.history) (repliesOf id after.history) serving) : Attended lib after := by
  constructor
  · intro other late
    have different : other ≠ id := by
      intro same
      rw [accepted, same] at late
      cases here.symm.trans (attended.unused id late)
    rw [others other different]
    exact attended.unused other (accepted ▸ late)
  · intro other nobody
    have different : other ≠ id := by
      intro same
      rw [same] at nobody
      cases own.symm.trans nobody
    rw [(heard other different).1, (heard other different).2]
    exact attended.silent other ((others other different).symm.trans nobody)
  · intro other connection found
    by_cases same : other = id
    · subst same
      cases own.symm.trans found
      exact progress
    · rw [(heard other same).1, (heard other same).2]
      exact attended.progress other connection ((others other same).symm.trans found)

/-- The handler of a connection goes on. -/
theorem turn {ready : HttpServer weight} (attended : Attended lib server) (here : server.connection id = some connection)
    {request : HttpRequest} {requests : List HttpRequest} {first : GateLedger} (turn : HttpTurn lib id request first ready after)
    (same : ready.connection = server.connection) (accepted : ready.accepted = server.accepted)
    (heard : ∀ other, other ≠ id → requestsOf other ready.history = requestsOf other server.history ∧
      repliesOf other ready.history = repliesOf other server.history)
    (requested : requestsOf id ready.history = requests ++ [request])
    (before : Progress lib requests (repliesOf id ready.history) .reading) : Attended lib after := by
  have there : ready.connection id = some connection := by
    rw [same]
    exact here
  cases turn with
  | @returned early response leads _ =>
    refine attended.move here accepted (setServing_self (ready.record _) there _) ?_ heard ?_
    · intro other different
      rw [setServing_other _ different, ← same]
      rfl
    · have progress := before.writing ⟨_, response, leads, rfl⟩
      rw [← requested] at progress
      exact progress
  | suspended leads _ =>
    refine attended.move here accepted (setServing_self ready there _) ?_ heard ?_
    · intro other different
      rw [setServing_other _ different, same]
    · have progress := before.handling leads
      rw [← requested] at progress
      exact progress

theorem cleanUp (attended : Attended lib server) (here : server.connection id = some connection) {ready : HttpServer weight}
    (uuid : String) (same : ready.connection = server.connection) (accepted : ready.accepted = server.accepted)
    (heard : ∀ other, other ≠ id → requestsOf other ready.history = requestsOf other server.history ∧
      repliesOf other ready.history = repliesOf other server.history)
    (progress : Progress lib (requestsOf id ready.history) (repliesOf id ready.history) .finished) :
    Attended lib (ready.cleanUp id uuid) := by
  have there : (ready.clearSession uuid).connection id = some connection := by
    rw [← here, ← same]
    rfl
  refine attended.move here accepted (setServing_self _ there _) ?_ heard progress
  intro other different
  have kept : (ready.cleanUp id uuid).connection other = ready.connection other := setServing_other _ different _
  rw [kept, same]

theorem step (attended : Attended lib server) {act : HttpAct} (taken : server.step lib act = some after) : Attended lib after := by
  cases (http_steps taken).2 with
  | accept uuid =>
    have fresh := attended.unused server.accepted (Nat.le_refl _)
    obtain ⟨requests, replies⟩ := attended.silent server.accepted fresh
    constructor
    · intro other late
      have later : server.accepted + 1 ≤ other := late
      have different : other ≠ server.accepted := by omega
      have kept := attended.unused other (by omega)
      exact (Function.update_of_ne different _ _).trans kept
    · intro other nobody
      by_cases same : other = server.accepted
      · subst same
        exact ⟨requests, replies⟩
      · exact attended.silent other ((Function.update_of_ne same _ _).symm.trans nobody)
    · intro other connection found
      by_cases same : other = server.accepted
      · subst same
        cases (Function.update_self server.accepted _ server.connection).symm.trans found
        have start : Progress lib [] [] .reading := .reading .nil (List.forall_mem_nil _)
        rw [← requests, ← replies] at start
        exact start
      · exact attended.progress other connection ((Function.update_of_ne same _ _).symm.trans found)
  | @unread id uuid context rpc here =>
    have before := attended.progress id _ here
    apply attended.cleanUp here uuid rfl rfl
    · exact fun _ _ => ⟨rfl, rfl⟩
    · exact .unread before
  | @received id uuid context request rpc here =>
    have before := attended.progress id _ here
    let ready := (server.record (.received id request)).decideOn id request (Dispatcher.handleRequest lib request)
    have requested : requestsOf id ready.history = requestsOf id server.history ++ [request] := by
      rw [requestsOf_decideOn]
      exact requestsOf_received id request server.history
    have replied : ∀ other, repliesOf other ready.history = repliesOf other server.history := fun _ => repliesOf_decideOn _ _ _ _
    refine attended.turn here (resume_turn .start rpc ready) (HttpServer.decideOn_connection _ _ _ _)
      (HttpServer.decideOn_accepted _ _ _ _) ?_ requested ?_
    · intro other different
      refine ⟨?_, replied other⟩
      rw [requestsOf_decideOn]
      exact requestsOf_other fun _ same => different (HttpEvent.received.inj same).1.symm
    · rw [replied]
      exact before
  | @executed id uuid context request told op next answer users getting storing here executed =>
    obtain ⟨requests, requested, before, leads⟩ := (attended.progress id _ here).working rfl
    let ready := ({ server with users }.record (.executed id request op)).decideOn id request (next answer)
    have same : ready.connection = server.connection := HttpServer.decideOn_connection _ _ _ _
    have there : ready.connection id = some ⟨uuid, context, .handling request told op next⟩ := by
      rw [same]
      exact here
    have asked : ∀ other, requestsOf other ready.history = requestsOf other server.history := fun _ => requestsOf_decideOn _ _ _ _
    have replied : ∀ other, repliesOf other ready.history = repliesOf other server.history := fun _ => repliesOf_decideOn _ _ _ _
    refine attended.move here (HttpServer.decideOn_accepted _ _ _ _) (setServing_self ready there _) ?_
      (fun other _ => ⟨asked other, replied other⟩) ?_
    · intro other different
      rw [setServing_other ready different, same]
    · have progress := before.resuming (leads.answer answer)
      rw [← requested, ← asked, ← replied] at progress
      exact progress
  | @resumed id uuid context request told rest rpc here =>
    obtain ⟨requests, requested, before, leads⟩ := (attended.progress id _ here).working rfl
    exact attended.turn here (resume_turn leads rpc server) rfl rfl (fun _ _ => ⟨rfl, rfl⟩) requested before
  | @unwritten id uuid context request reply here =>
    obtain ⟨requests, requested, before, answered⟩ := (attended.progress id _ here).wrote
    apply attended.cleanUp here uuid rfl rfl
    · exact fun _ _ => ⟨rfl, rfl⟩
    · rw [requested]
      exact .unwritten request before
  | @again id uuid context request reply here keeps =>
    obtain ⟨requests, requested, before, answered⟩ := (attended.progress id _ here).wrote
    have there : (server.record (.written id reply)).connection id = some ⟨uuid, context, .writing request reply⟩ := here
    refine attended.move here rfl (setServing_self _ there .reading) (fun other different => setServing_other _ different _)
      (fun other different => ⟨rfl, written_elsewhere different reply⟩) ?_
    have progress := before.again answered keeps
    rw [← requested, ← repliesOf_written] at progress
    exact progress
  | @last id uuid context request reply here closes =>
    obtain ⟨requests, requested, before, answered⟩ := (attended.progress id _ here).wrote
    have there : (server.record (.written id reply)).connection = server.connection := rfl
    apply attended.cleanUp here uuid there rfl
    · exact fun other different => ⟨rfl, written_elsewhere different reply⟩
    · have progress := before.through answered
      rw [← requested, ← repliesOf_written] at progress
      exact progress
  | stop => exact ⟨attended.unused, attended.silent, attended.progress⟩
  | others redis => exact ⟨attended.unused, attended.silent, attended.progress⟩

end Attended

/-! ## What the handlers have been told -/

/-- A handler has been told this before the step, or by it. -/
inductive TaskFrom (server : HttpServer weight) (act : HttpAct) (id : Nat) (request : HttpRequest) : GateLedger → Prop
  | kept {connection : HttpConnection} {heard told : GateLedger} {rest : RequestHandler} : server.connection id = some connection →
      Serving.task connection.serving = some (request, told, rest) → (∀ entry ∈ heard, isRpc entry.1 = true) →
      (∀ read rpc, act ≠ .read id read rpc) → TaskFrom server act id request (heard ++ told)
  | received {heard : GateLedger} (rpc : GateRpc) : act = .read id (some request) rpc → (∀ entry ∈ heard, isRpc entry.1 = true) →
      TaskFrom server act id request heard
  | executed {uuid : String} {context : Nat} {told : GateLedger} {op : GateOp} {next : op.Res → RequestHandler} {answer : op.Res}
      {users : UserTable weight} {getting : Outcome} {storing : MysqlOutcome} : act = .exec id getting storing →
      server.connection id = some ⟨uuid, context, .handling request told op next⟩ →
      server.execStore getting storing op = some (answer, users) → TaskFrom server act id request (⟨op, answer⟩ :: told)

section Tasks

variable {other : Nat} {ready : HttpServer weight} {act : HttpAct} {request : HttpRequest} {told : GateLedger} {rest : RequestHandler}

/-- Where a connection is, when one has gone on. -/
theorem setServing_found {serving : Serving} (found : (ready.setServing id serving).connection other = some connection) :
    other = id ∧ connection.serving = serving ∨ other ≠ id ∧ ready.connection other = some connection := by
  by_cases own : other = id
  · subst own
    simp only [HttpServer.setServing, Function.update_self, Option.map_eq_some_iff] at found
    obtain ⟨before, _, same⟩ := found
    rw [← same]
    exact .inl ⟨rfl, rfl⟩
  · rw [setServing_other ready own] at found
    exact .inr ⟨own, found⟩

theorem TaskFrom.same (found : server.connection id = some connection)
    (task : Serving.task connection.serving = some (request, told, rest)) (unread : ∀ read rpc, act ≠ .read id read rpc) :
    TaskFrom server act id request told := by
  have kept : TaskFrom server act id request ([] ++ told) := .kept found task (List.forall_mem_nil _) unread
  exact kept

/-- A connection goes on, and no handler is at work on it. -/
theorem TaskFrom.idle {serving : Serving} (same : ready.connection = server.connection) (nothing : Serving.task serving = none)
    (unread : ∀ read rpc, other ≠ id → act ≠ .read other read rpc)
    (found : (ready.setServing id serving).connection other = some connection)
    (task : Serving.task connection.serving = some (request, told, rest)) : TaskFrom server act other request told := by
  rcases setServing_found found with ⟨_, there⟩ | ⟨different, before⟩
  · rw [there, nothing] at task
    cases task
  · exact .same (same ▸ before) task fun read rpc => unread read rpc different

theorem TaskFrom.turn {request' : HttpRequest} {first : GateLedger} (turn : HttpTurn lib id request' first ready after)
    (same : ready.connection = server.connection)
    (own : ∀ heard : GateLedger, (∀ entry ∈ heard, isRpc entry.1 = true) → TaskFrom server act id request' (heard ++ first))
    (unread : ∀ read rpc, other ≠ id → act ≠ .read other read rpc) (found : after.connection other = some connection)
    (task : Serving.task connection.serving = some (request, told, rest)) : TaskFrom server act other request told := by
  cases turn with
  | @returned heard response _ _ =>
    have recorded : (ready.record (.handled id request' response)).connection = server.connection := same
    exact .idle recorded rfl unread found task
  | @suspended heard op next _ rpcs =>
    rcases setServing_found found with ⟨here, there⟩ | ⟨different, before⟩
    · subst here
      rw [there] at task
      cases task
      exact own heard rpcs
    · exact .same (same ▸ before) task fun read rpc => unread read rpc different

theorem task_from (attended : Attended lib server) (taken : server.step lib act = some after)
    (found : after.connection other = some connection) (task : Serving.task connection.serving = some (request, told, rest)) :
    TaskFrom server act other request told := by
  cases (http_steps taken).2 with
  | accept uuid =>
    by_cases own : other = server.accepted
    · subst own
      cases (Function.update_self server.accepted _ server.connection).symm.trans found
      cases task
    · exact .same ((Function.update_of_ne own _ server.connection).symm.trans found) task nofun
  | @unread id uuid context rpc here =>
    have cleared : (server.clearSession uuid).connection = server.connection := rfl
    refine .idle cleared rfl ?_ found task
    rintro read other different ⟨⟩
    exact different rfl
  | @received id uuid context received rpc here =>
    have ready : ((server.record (.received id received)).decideOn id received (Dispatcher.handleRequest lib received)).connection =
        server.connection := HttpServer.decideOn_connection _ _ _ _
    refine .turn (resume_turn .start rpc _) ready ?_ ?_ found task
    · intro heard rpcs
      rw [List.append_nil]
      exact .received rpc rfl rpcs
    · rintro read other different ⟨⟩
      exact different rfl
  | @executed id uuid context asking before op next answer users getting storing here executed =>
    rcases setServing_found found with ⟨own, there⟩ | ⟨different, kept⟩
    · subst own
      rw [there] at task
      cases task
      exact .executed rfl here executed
    · rw [HttpServer.decideOn_connection] at kept
      exact .same kept task nofun
  | @resumed id uuid context asking before left rpc here =>
    obtain ⟨_, _, _, leads⟩ := (attended.progress id _ here).working rfl
    refine .turn (resume_turn leads rpc server) rfl ?_ nofun found task
    intro heard rpcs
    exact .kept here rfl rpcs nofun
  | @unwritten id uuid context asking reply here =>
    have cleared : (server.clearSession uuid).connection = server.connection := rfl
    exact .idle cleared rfl nofun found task
  | @again id uuid context asking reply here keeps =>
    have recorded : (server.record (.written id reply)).connection = server.connection := rfl
    exact .idle recorded rfl nofun found task
  | @last id uuid context asking reply here closes =>
    have cleared : ((server.record (.written id reply)).clearSession uuid).connection = server.connection := rfl
    exact .idle cleared rfl nofun found task
  | stop => exact .same found task nofun
  | others redis => exact .same found task nofun

end Tasks

/-! ## The registry -/

def Serving.isOpen : Serving → Bool
  | .finished => false
  | _ => true

/-- The generator of uuids gives no uuid a second time. -/
def FreshUuid (server : HttpServer weight) : HttpAct → Prop
  | .accept uuid => ∀ id connection, server.connection id = some connection → connection.uuid ≠ uuid
  | _ => True

def Distinct (connection : Nat → Option HttpConnection) : Prop := ∀ first second one two,
  connection first = some one → connection second = some two → one.uuid = two.uuid → first = second

/-- The registry, which alone keeps the connections alive, has those that are not through. -/
structure Held (server : HttpServer weight) : Prop where
  distinct : Distinct server.connection
  sessions : server.running = true → ∀ uuid id, server.sessions uuid = some id ↔
    ∃ connection, server.connection id = some connection ∧ connection.uuid = uuid ∧ Serving.isOpen connection.serving = true

namespace Held

/-- What can be said of a connection that is somewhere else now. -/
theorem moved (server : HttpServer weight) (here : server.connection id = some connection) (serving : Serving) {other : Nat}
    {later : HttpConnection} (found : (server.setServing id serving).connection other = some later) :
    ∃ before, server.connection other = some before ∧ before.uuid = later.uuid ∧
      (other ≠ id → before.serving = later.serving) ∧ (other = id → later.serving = serving) := by
  by_cases same : other = id
  · subst same
    cases (setServing_self server here serving).symm.trans found
    exact ⟨connection, here, rfl, fun different => absurd rfl different, fun _ => rfl⟩
  · rw [setServing_other server same] at found
    exact ⟨later, found, rfl, fun _ => rfl, fun here => absurd here same⟩

theorem same (held : Held server) (connection : after.connection = server.connection) (sessions : after.sessions = server.sessions)
    (running : after.running = server.running) : Held after := by
  refine ⟨connection ▸ held.distinct, ?_⟩
  rw [connection, sessions, running]
  exact held.sessions

theorem distinct_moved (distinct : Distinct server.connection) (here : server.connection id = some connection) (serving : Serving) :
    Distinct (server.setServing id serving).connection := by
  intro first second one two left right same
  obtain ⟨before, found, uuid, _⟩ := moved server here serving left
  obtain ⟨other, there, also, _⟩ := moved server here serving right
  exact distinct first second before other found there (uuid.trans (same.trans also.symm))

theorem setServing (held : Held server) (here : server.connection id = some connection)
    (before : Serving.isOpen connection.serving = true) {serving : Serving} (later : Serving.isOpen serving = true) :
    Held (server.setServing id serving) := by
  refine ⟨distinct_moved held.distinct here serving, ?_⟩
  intro running uuid other
  refine (held.sessions running uuid other).trans ?_
  by_cases same : other = id
  · subst same
    rw [setServing_self server here, here]
    constructor
    · rintro ⟨_, found, name, _⟩
      cases found
      exact ⟨_, rfl, name, later⟩
    · rintro ⟨_, found, name, _⟩
      cases found
      exact ⟨_, rfl, name, before⟩
  · rw [setServing_other server same]

theorem cleanUp (held : Held server) (here : server.connection id = some connection) :
    Held (server.cleanUp id connection.uuid) := by
  have there : (server.clearSession connection.uuid).connection id = some connection := here
  have distinct : Distinct (server.clearSession connection.uuid).connection := held.distinct
  refine ⟨distinct_moved distinct there .finished, ?_⟩
  intro running uuid other
  have elsewhere : ∀ other, other ≠ id → (server.cleanUp id connection.uuid).connection other = server.connection other :=
    fun other different => setServing_other _ different .finished
  by_cases name : uuid = connection.uuid
  · subst name
    rw [cleanUp_sessions, Function.update_self]
    refine iff_of_false (Option.some_ne_none other).symm ?_
    rintro ⟨later, found, name, open'⟩
    by_cases same : other = id
    · subst same
      cases (setServing_self _ there .finished).symm.trans found
      cases open'
    · rw [elsewhere other same] at found
      exact same (held.distinct other id later connection found here name)
  · rw [cleanUp_sessions, Function.update_of_ne name]
    refine (held.sessions running uuid other).trans ?_
    by_cases same : other = id
    · subst same
      constructor
      · rintro ⟨later, found, also, _⟩
        cases here.symm.trans found
        exact absurd also.symm name
      · rintro ⟨later, found, also, _⟩
        cases (setServing_self _ there .finished).symm.trans found
        exact absurd also.symm name
    · rw [elsewhere other same]

theorem accept (held : Held server) (attended : Attended lib server) {uuid : String}
    (fresh : FreshUuid server (.accept uuid)) : Held (server.accept uuid) := by
  have unused := attended.unused server.accepted (Nat.le_refl _)
  have own : (server.accept uuid).connection server.accepted = some { uuid, context := server.pool.getIoContext.1 } :=
    Function.update_self server.accepted _ server.connection
  have others : ∀ other, other ≠ server.accepted → (server.accept uuid).connection other = server.connection other :=
    fun other different => Function.update_of_ne different _ server.connection
  constructor
  · intro first second one two left right same
    by_cases here : first = server.accepted
    · subst here
      by_cases there : second = server.accepted
      · exact there.symm
      · rw [others second there] at right
        cases own.symm.trans left
        exact absurd same.symm (fresh second two right)
    · rw [others first here] at left
      by_cases there : second = server.accepted
      · subst there
        cases own.symm.trans right
        exact absurd same (fresh first one left)
      · rw [others second there] at right
        exact held.distinct first second one two left right same
  · intro running name other
    by_cases here : name = uuid
    · subst here
      rw [accept_sessions, Function.update_self]
      constructor
      · intro same
        cases same
        exact ⟨_, own, rfl, rfl⟩
      · rintro ⟨connection, found, same, _⟩
        by_cases there : other = server.accepted
        · rw [there]
        · rw [others other there] at found
          exact absurd same (fresh other connection found)
    · rw [accept_sessions, Function.update_of_ne here]
      refine (held.sessions running name other).trans ?_
      by_cases there : other = server.accepted
      · subst there
        rw [own, unused]
        constructor
        · rintro ⟨connection, found, _⟩
          cases found
        · rintro ⟨connection, found, same, _⟩
          cases found
          exact absurd same.symm here
      · rw [others other there]

theorem turn {ready : HttpServer weight} (held : Held ready) {request : HttpRequest} (here : ready.connection id = some connection)
    (before : Serving.isOpen connection.serving = true) {first : GateLedger} (turn : HttpTurn lib id request first ready after) : Held after := by
  cases turn with
  | @returned early response _ _ =>
    have recorded : Held (ready.record (.handled id request response)) := ⟨held.distinct, held.sessions⟩
    exact recorded.setServing here before rfl
  | suspended _ _ => exact held.setServing here before rfl

theorem step (held : Held server) (attended : Attended lib server) {act : HttpAct} (fresh : FreshUuid server act)
    (taken : server.step lib act = some after) : Held after := by
  cases (http_steps taken).2 with
  | accept uuid => exact held.accept attended fresh
  | unread rpc here => exact held.cleanUp here
  | @received id uuid context request rpc here =>
    have ready : Held ((server.record (.received id request)).decideOn id request (Dispatcher.handleRequest lib request)) := by
      apply Held.same held <;> simp [HttpServer.record]
    exact ready.turn (by simpa [HttpServer.record] using here) rfl (resume_turn .start rpc _)
  | @executed id uuid context request told op next answer users getting storing here executed =>
    have ready : Held (({ server with users }.record (.executed id request op)).decideOn id request (next answer)) := by
      apply Held.same held <;> simp [HttpServer.record]
    exact ready.setServing (by simpa [HttpServer.record] using here) rfl rfl
  | @resumed id uuid context request told rest rpc here =>
    obtain ⟨_, _, _, leads⟩ := (attended.progress id _ here).working rfl
    exact held.turn here rfl (resume_turn leads rpc server)
  | unwritten here => exact held.cleanUp here
  | @again id uuid context request reply here keeps =>
    have ready : Held (server.record (.written id reply)) := ⟨held.distinct, held.sessions⟩
    exact ready.setServing here rfl rfl
  | @last id uuid context request reply here closes =>
    have ready : Held (server.record (.written id reply)) := ⟨held.distinct, held.sessions⟩
    exact ready.cleanUp here
  | stop => exact ⟨held.distinct, fun running => Bool.noConfusion running⟩
  | others redis => exact ⟨held.distinct, held.sessions⟩

end Held

/-! ## The contexts of the sockets -/

/-- The connections have got the contexts of the pool in turn. -/
structure InRotation (size : Nat) (server : HttpServer weight) : Prop where
  sized : server.pool.size = size
  next : server.pool.nextIoContext = server.accepted % size
  contexts : ∀ id, (server.connection id).map HttpConnection.context = if id < server.accepted then some (id % size) else none

namespace InRotation

variable {size : Nat}

theorem same (rotation : InRotation size server) (pool : after.pool = server.pool) (accepted : after.accepted = server.accepted)
    (contexts : ∀ id, (after.connection id).map HttpConnection.context = (server.connection id).map HttpConnection.context) :
    InRotation size after := by
  refine ⟨?_, ?_, ?_⟩
  · rw [pool]
    exact rotation.sized
  · rw [pool, accepted]
    exact rotation.next
  · intro id
    rw [contexts, accepted]
    exact rotation.contexts id

theorem setServing_contexts (server : HttpServer weight) (id : Nat) (serving : Serving) (other : Nat) :
    ((server.setServing id serving).connection other).map HttpConnection.context =
      (server.connection other).map HttpConnection.context := by
  by_cases here : other = id
  · subst here
    simp only [HttpServer.setServing, Function.update_self, Option.map_map]
    rfl
  · rw [setServing_other server here]

theorem setServing (rotation : InRotation size server) (id : Nat) (serving : Serving) : InRotation size (server.setServing id serving) :=
  rotation.same rfl rfl (setServing_contexts server id serving)

theorem settle (rotation : InRotation size server) (id : Nat) (request : HttpRequest) (stopped : RequestHandler × GateLedger) :
    InRotation size (server.settle id request stopped) := by
  obtain ⟨left, told⟩ := stopped
  cases left with
  | ret response =>
    have recorded : InRotation size (server.record (.handled id request response)) := rotation.same rfl rfl fun _ => rfl
    exact recorded.setServing id _
  | throw error => exact rotation.setServing id _
  | call op next => exact rotation.setServing id _

theorem cleanUp (rotation : InRotation size server) (id : Nat) (uuid : String) : InRotation size (server.cleanUp id uuid) := by
  have cleared : InRotation size (server.clearSession uuid) := rotation.same rfl rfl fun _ => rfl
  exact cleared.setServing id .finished

theorem step (rotation : InRotation size server) {act : HttpAct} (taken : server.step lib act = some after) :
    InRotation size after := by
  have recorded : ∀ event, InRotation size (server.record event) := fun event => rotation.same rfl rfl fun _ => rfl
  cases (http_steps taken).2 with
  | accept uuid =>
    have next : (server.accept uuid).pool.nextIoContext = (server.pool.nextIoContext + 1) % server.pool.size := rfl
    refine ⟨rotation.sized, ?_, ?_⟩
    · rw [next, rotation.next, rotation.sized]
      exact Nat.mod_add_mod server.accepted size 1
    · intro id
      change (Function.update server.connection server.accepted _ id).map HttpConnection.context =
        if id < server.accepted + 1 then some (id % size) else none
      by_cases here : id = server.accepted
      · subst here
        rw [Function.update_self, if_pos (Nat.lt_succ_self _)]
        exact congrArg some rotation.next
      · have range : id < server.accepted + 1 ↔ id < server.accepted := by omega
        rw [Function.update_of_ne here, rotation.contexts id]
        simp only [range]
  | @unread id uuid context rpc here => exact rotation.cleanUp id uuid
  | @received id uuid context request rpc here =>
    have decided : InRotation size ((server.record (.received id request)).decideOn id request (Dispatcher.handleRequest lib request)) := by
      apply rotation.same <;> simp [HttpServer.record]
    exact decided.settle id request _
  | @executed id uuid context request told op next answer users getting storing here executed =>
    have decided : InRotation size (({ server with users }.record (.executed id request op)).decideOn id request (next answer)) := by
      apply rotation.same <;> simp [HttpServer.record]
    exact decided.setServing id _
  | @resumed id uuid context request told rest rpc here => exact rotation.settle id request _
  | @unwritten id uuid context request reply here => exact rotation.cleanUp id uuid
  | @again id uuid context request reply here keeps => exact (recorded _).setServing id .reading
  | @last id uuid context request reply here closes => exact (recorded _).cleanUp id uuid
  | stop => exact rotation.same rfl rfl fun _ => rfl
  | others redis => exact rotation.same rfl rfl fun _ => rfl

end InRotation

/-- How many of the connections have had their sockets on this context. -/
def contextLoad (server : HttpServer weight) (context : Nat) : Nat :=
  (List.range server.accepted).countP fun id => (server.connection id).map HttpConnection.context = some context

theorem InRotation.load {size : Nat} (rotation : InRotation size server) (pos : 0 < size) {context : Nat} (inside : context < size) :
    contextLoad server context = server.accepted / size + if context < server.accepted % size then 1 else 0 := by
  have counted : contextLoad server context = server.accepted.count (· ≡ context [MOD size]) := by
    apply List.countP_congr
    intro id member
    have below : id < server.accepted := List.mem_range.mp member
    simp only [rotation.contexts id, if_pos below, Option.some.injEq, decide_eq_true_eq, Nat.ModEq, Nat.mod_eq_of_lt inside]
  rw [counted, Nat.count_modEq_card _ pos, Nat.mod_eq_of_lt inside]

end Runs

/-! ## Whole runs -/

section Results

variable {weight : Collation} {lib : GateLib} {redis : Redis} {users : UserTable weight} {pool : ContextPool} {acts : List HttpAct}
  {server : HttpServer weight}

theorem start_attended (lib : GateLib) (redis : Redis) (users : UserTable weight) :
    Attended lib ({ redis, users, pool } : HttpServer weight) := by
  refine ⟨fun _ _ => rfl, fun _ _ => ⟨rfl, rfl⟩, ?_⟩
  intro id connection found
  cases found

theorem start_held (redis : Redis) (users : UserTable weight) : Held ({ redis, users, pool } : HttpServer weight) := by
  refine ⟨?_, fun _ uuid id => iff_of_false ?_ ?_⟩
  · intro first second one two left
    cases left
  · intro same
    cases same
  · rintro ⟨connection, found, _⟩
    cases found

end Results

theorem http_responses_in_order {weight : Collation} (lib : GateLib) (redis : Redis) (users : UserTable weight) (pool : ContextPool)
    (acts : List HttpAct) (server : HttpServer weight)
    (run : Transition.Run (HttpServer.step lib) { redis, users, pool } acts server) (id : Nat) :
    ∃ answered waiting, requestsOf id server.history = answered ++ waiting ∧ waiting.length ≤ 1 ∧
      List.Forall₂ (RepliesTo lib) answered (repliesOf id server.history) ∧
      ∀ other ∈ (requestsOf id server.history).dropLast, other.keepAlive = true := by
  have attended := run.invariant (fun _ _ _ attended taken => Attended.step attended taken) (start_attended lib redis users)
  cases here : server.connection id with
  | none =>
    obtain ⟨requests, replies⟩ := attended.silent id here
    rw [requests, replies]
    exact ⟨[], [], rfl, Nat.zero_le 1, .nil, List.forall_mem_nil _⟩
  | some connection => exact (attended.progress id connection here).exchange

/-- What parses every target to itself, and no body. -/
def plainLib : GateLib where
  json := ⟨fun _ => none, fun _ => none⟩
  parseOriginForm target := some { path := target }
  parseGetVerifyCodeRequest _ := none

def noRpc : GateRpc := ⟨fun _ => none, fun _ => none⟩

/-- Two requests on one connection, the second one without keep-alive, and another connection that fails. -/
def twoRequests : List HttpAct :=
  [.accept "first", .accept "second", .read 0 (some { method := .get, target := "/get_test" }) noRpc, .read 1 none noRpc, .write 0 true,
    .read 0 (some { method := .get, target := "/user_login", keepAlive := false }) noRpc, .write 0 true]

theorem http_responses_in_order_two : ∃ server : HttpServer id,
    Transition.Run (HttpServer.step plainLib) { redis := {}, users := {} } twoRequests server ∧
      (repliesOf 0 server.history).map (fun reply => reply.response.status) = [200, 405] ∧
      ∃ answered waiting, requestsOf 0 server.history = answered ++ waiting ∧
        List.Forall₂ (RepliesTo plainLib) answered (repliesOf 0 server.history) := by
  have possible : ((Transition.runs (HttpServer.step plainLib) ({ redis := {}, users := {} } : HttpServer id) twoRequests).any
      fun server => (repliesOf 0 server.history).map (fun reply => reply.response.status) = [200, 405]) = true := by
    decide +kernel
  obtain ⟨server, reached, found⟩ := (Option.any_eq_true _ _).mp possible
  have run := Transition.run_iff_runs.mpr reached
  obtain ⟨answered, waiting, same, _, pairs, _⟩ := http_responses_in_order plainLib {} {} { size := 4 } twoRequests server run 0
  exact ⟨server, run, of_decide_eq_true found, answered, waiting, same, pairs⟩

theorem registry_holds_open_connections {weight : Collation} (lib : GateLib) (redis : Redis) (users : UserTable weight)
    (pool : ContextPool) (acts : List HttpAct) (server : HttpServer weight)
    (run : Transition.Run (HttpServer.step lib) { redis, users, pool } acts server)
    (fresh : Transition.Meets (HttpServer.step lib) FreshUuid ({ redis, users, pool } : HttpServer weight) acts) :
    server.running = true → ∀ uuid id, server.sessions uuid = some id ↔
      ∃ connection, server.connection id = some connection ∧ connection.uuid = uuid ∧ Serving.isOpen connection.serving = true := by
  have keeps : ∀ (server : HttpServer weight) (act : HttpAct) (after : HttpServer weight), Attended lib server ∧ Held server →
      FreshUuid server act → server.step lib act = some after → Attended lib after ∧ Held after :=
    fun server act after holds fresh taken => ⟨holds.1.step taken, holds.2.step holds.1 fresh taken⟩
  exact (run.invariant_of_meets keeps fresh ⟨start_attended lib redis users, start_held redis users⟩).2.sessions

/-- The two connections have different uuids. -/
theorem twoRequests_fresh :
    Transition.Meets (HttpServer.step plainLib) FreshUuid ({ redis := {}, users := {} } : HttpServer id) twoRequests.dropLast := by
  refine ⟨fun id connection found => ?_, fun server taken => ⟨fun id connection found => ?_, ?_⟩⟩
  · cases found
  · cases taken
    by_cases first : id = 0
    · subst first
      cases found
      decide
    · have none : (HttpServer.accept "first" ({ redis := {}, users := {} } : HttpServer fun text => text)).connection id = none :=
        Function.update_of_ne first _ _
      cases none.symm.trans found
  · exact fun _ _ => ⟨trivial, fun _ _ => ⟨trivial, fun _ _ => ⟨trivial, fun _ _ => ⟨trivial, fun _ _ => trivial⟩⟩⟩⟩

/-- The first connection is open until its last response is written; the second one has been closed by its client. -/
theorem registry_holds_open_connections_two : ∃ server : HttpServer id,
    Transition.Run (HttpServer.step plainLib) { redis := {}, users := {} } twoRequests.dropLast server ∧
      (∃ connection, server.connection 0 = some connection ∧ connection.uuid = "first" ∧ Serving.isOpen connection.serving = true) ∧
      ∀ id connection, server.connection id = some connection → connection.uuid = "second" →
        Serving.isOpen connection.serving = false := by
  have possible : ((Transition.runs (HttpServer.step plainLib) ({ redis := {}, users := {} } : HttpServer id) twoRequests.dropLast).any
      fun server => server.running ∧ server.sessions "first" = some 0 ∧ server.sessions "second" = none) = true := by decide +kernel
  obtain ⟨server, reached, found⟩ := (Option.any_eq_true _ _).mp possible
  obtain ⟨running, first, second⟩ := of_decide_eq_true found
  have run := Transition.run_iff_runs.mpr reached
  have holds := registry_holds_open_connections plainLib {} {} { size := 4 } twoRequests.dropLast server run twoRequests_fresh running
  refine ⟨server, run, (holds "first" 0).mp first, ?_⟩
  intro id connection found named
  by_contra opened
  cases second.symm.trans ((holds "second" id).mpr ⟨connection, found, named, Bool.eq_true_of_not_eq_false opened⟩)

theorem contexts_in_rotation {weight : Collation} (lib : GateLib) (redis : Redis) (users : UserTable weight) (size : Nat)
    (pos : 0 < size) (acts : List HttpAct) (server : HttpServer weight)
    (run : Transition.Run (HttpServer.step lib) { redis, users, pool := { size } } acts server) (first second : Nat)
    (one : first < size) (two : second < size) : contextLoad server first ≤ contextLoad server second + 1 := by
  have start : InRotation size ({ redis, users, pool := { size } } : HttpServer weight) := ⟨rfl, (Nat.zero_mod size).symm, fun _ => rfl⟩
  have rotation := run.invariant (fun _ _ _ rotation taken => InRotation.step rotation taken) start
  rw [rotation.load pos one, rotation.load pos two]
  split <;> split <;> omega

/-- Two connections on four contexts. -/
theorem contexts_in_rotation_four : ∃ server : HttpServer id,
    Transition.Run (HttpServer.step plainLib) { redis := {}, users := {} } twoRequests server ∧
      contextLoad server 0 ≤ contextLoad server 3 + 1 := by
  have possible : ((Transition.runs (HttpServer.step plainLib) ({ redis := {}, users := {} } : HttpServer id) twoRequests).any
      fun _ => true) = true := by decide +kernel
  obtain ⟨server, reached, _⟩ := (Option.any_eq_true _ _).mp possible
  have run := Transition.run_iff_runs.mpr reached
  exact ⟨server, run, contexts_in_rotation plainLib {} {} 4 (by decide) twoRequests server run 0 3 (by decide) (by decide)⟩

end ChatProof
