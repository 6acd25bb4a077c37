import ChatProject.Message.RoundTrip
import ChatProject.Server.Lookup

/-! Frames behind a frame that was answered with `close_after_send`. -/

namespace ChatProof

open ChatModel

/-- The connection has been given a reply after which it is to be closed. -/
def Rejected (log : List Event) (addr : Addr) : Prop :=
  ∃ readMsg told reply, Event.replied addr readMsg told reply ∈ log ∧ reply.closeAfterSend = true

/-- No frame is handed to the message handler once its connection is rejected. -/
def Orderly : List Event → Prop
  | [] => True
  | .handed addr _ :: older => ¬ Rejected older addr ∧ Orderly older
  | _ :: older => Orderly older

/-- As long as its socket is open, a rejected connection has no complete frame to be read. -/
def Quiet (server : ChatServer) : Prop :=
  ∀ addr, Rejected server.log addr → (server.session addr).stopped = false →
    MsgNode.receive (server.session addr).unread = none

theorem Rejected.older {event : Event} {log : List Event} {addr : Addr} (rejected : Rejected log addr) :
    Rejected (event :: log) addr := by
  obtain ⟨readMsg, told, reply, member, closes⟩ := rejected
  exact ⟨readMsg, told, reply, List.mem_cons_of_mem _ member, closes⟩

theorem rejected_cons {event : Event} {log : List Event} {addr : Addr}
    (other : ∀ readMsg told reply, event ≠ .replied addr readMsg told reply) :
    Rejected (event :: log) addr ↔ Rejected log addr := by
  constructor
  · rintro ⟨readMsg, told, reply, member, closes⟩
    rcases List.mem_cons.mp member with same | member
    · exact absurd same.symm (other readMsg told reply)
    · exact ⟨readMsg, told, reply, member, closes⟩
  · exact Rejected.older

theorem plain_not_replied {event : Event} (plain : Event.isPlain event) (addr : Addr) (readMsg : MsgNode)
    (told : Ledger) (reply : ChannelMessage) : event ≠ .replied addr readMsg told reply := by
  intro same
  rw [same] at plain
  exact plain

theorem Adds.rejected {before after : List Event} (adds : Adds before after) (addr : Addr) :
    Rejected after addr ↔ Rejected before addr := by
  obtain ⟨events, rfl, plain⟩ := adds
  induction events with
  | nil => exact Iff.rfl
  | cons event events ih =>
    have first := plain event List.mem_cons_self
    have rest := ih fun event member => plain event (List.mem_cons_of_mem _ member)
    exact (rejected_cons (plain_not_replied first addr)).trans rest

theorem orderly_plain {event : Event} {log : List Event} (plain : Event.isPlain event) :
    Orderly (event :: log) ↔ Orderly log := by
  cases event with
  | handed addr readMsg => exact plain.elim
  | replied addr readMsg told reply => exact plain.elim
  | _ => exact Iff.rfl

theorem Adds.orderly {before after : List Event} (adds : Adds before after) : Orderly after ↔ Orderly before := by
  obtain ⟨events, rfl, plain⟩ := adds
  induction events with
  | nil => exact Iff.rfl
  | cons event events ih =>
    have first := plain event List.mem_cons_self
    have rest := ih fun event member => plain event (List.mem_cons_of_mem _ member)
    exact (orderly_plain first).trans rest

/-! ## What a reader holds -/

/-- A header that was read is the six bytes as they came. -/
def HeaderKept : Reader → Prop
  | .headerRead readMsg => ∃ front : Bytes, front.length = prefixLen ∧ readMsg = ({} : MsgNode).write 0 front
  | .readingBody readMsg => ∃ front : Bytes, front.length = prefixLen ∧
      (({} : MsgNode).write 0 front).decodeHeader = (true, readMsg)
  | _ => True

theorem decodeHeader_data {node header : MsgNode} (decoded : node.decodeHeader = (true, header)) :
    header.data = node.data := by
  unfold MsgNode.decodeHeader MsgNode.setBodyLength at decoded
  dsimp only at decoded
  split at decoded
  · cases decoded
  · cases decoded
    rfl

theorem receive_some {front rest : Bytes} {header : MsgNode} (long : front.length = prefixLen)
    (decoded : (({} : MsgNode).write 0 front).decodeHeader = (true, header)) :
    MsgNode.receive (front ++ rest) ≠ none ↔ header.bodyLength.toInt.toNat ≤ rest.length := by
  have enough : ¬ (front ++ rest).length < prefixLen := by
    rw [List.length_append]
    omega
  unfold MsgNode.receive
  rw [if_neg enough, List.take_left' long, List.drop_left' long, decoded]
  dsimp only
  rw [ite_ne_left_iff]
  simp

theorem unread_same {before after : Session} (reader : after.reader = before.reader)
    (incoming : after.incoming = before.incoming) : after.unread = before.unread := by
  unfold Session.unread
  rw [reader, incoming]

/-! ## The invariant -/

/-- Where the reader of a rejected connection can be. -/
def Resting (session : Session) : Prop :=
  match session.reader with
  | .readingHeader => True
  | .headerRead _ | .readingBody _ => session.stopped = true → MsgNode.receive session.unread = none
  | .finished => session.stopped = true
  | _ => False

theorem Resting.close {before after : Session} (resting : Resting before) (reader : after.reader = before.reader)
    (incoming : after.incoming = before.incoming) (stopped : after.stopped = true)
    (nothing : before.stopped = false → MsgNode.receive before.unread = none) : Resting after := by
  have empty : (before.stopped = true → MsgNode.receive before.unread = none) →
      MsgNode.receive before.unread = none := by
    intro closed
    cases shut : before.stopped with
    | false => exact nothing shut
    | true => exact closed shut
  unfold Resting at resting ⊢
  rw [unread_same reader incoming, reader]
  cases reading : before.reader with
  | readingHeader => trivial
  | headerRead readMsg =>
    rw [reading] at resting
    exact fun _ => empty resting
  | readingBody readMsg =>
    rw [reading] at resting
    exact fun _ => empty resting
  | finished => exact stopped
  | _ =>
    rw [reading] at resting
    exact resting

structure Guarded (server : ChatServer) : Prop where
  unused : ∀ addr, (server.session addr).started = false → (server.session addr).reader = .unstarted
  kept : ∀ addr, HeaderKept (server.session addr).reader
  resting : ∀ addr, Rejected server.log addr → Resting (server.session addr)
  orderly : Orderly server.log

namespace Guarded

variable {server after : ChatServer} {addr : Addr}

theorem modify (guarded : Guarded server) {change : Session → Session}
    (unused : (change (server.session addr)).started = false →
      (change (server.session addr)).reader = .unstarted)
    (kept : HeaderKept (change (server.session addr)).reader)
    (resting : Rejected server.log addr → Resting (change (server.session addr))) :
    Guarded (server.modify addr change) := by
  refine ⟨?_, ?_, ?_, guarded.orderly⟩
  · intro other
    by_cases here : other = addr
    · rw [here, ChatServer.modify_session_self]
      exact unused
    · rw [ChatServer.modify_session_other _ _ here]
      exact guarded.unused other
  · intro other
    by_cases here : other = addr
    · rw [here, ChatServer.modify_session_self]
      exact kept
    · rw [ChatServer.modify_session_other _ _ here]
      exact guarded.kept other
  · intro other rejected
    by_cases here : other = addr
    · subst here
      rw [ChatServer.modify_session_self]
      exact resting rejected
    · rw [ChatServer.modify_session_other _ _ here]
      exact guarded.resting other rejected

theorem aside (guarded : Guarded server) {change : Session → Session}
    (aside : Aside (server.session addr) (change (server.session addr))) :
    Guarded (server.modify addr change) := by
  apply guarded.modify
  · intro unused
    rw [aside.started] at unused
    exact aside.reader.trans (guarded.unused addr unused)
  · rw [aside.reader]
    exact guarded.kept addr
  · intro rejected
    have resting := guarded.resting addr rejected
    unfold Resting at resting ⊢
    rw [aside.reader, aside.stopped, unread_same aside.reader aside.incoming]
    exact resting

theorem started (guarded : Guarded server) (moved : (server.session addr).reader ≠ .unstarted) :
    (server.session addr).started = true := by
  cases begun : (server.session addr).started with
  | true => rfl
  | false => exact absurd (guarded.unused addr begun) moved

theorem setReader (guarded : Guarded server) (reader : Reader)
    (moved : (server.session addr).reader ≠ .unstarted) (kept : HeaderKept reader)
    (resting : Rejected server.log addr → Resting { server.session addr with reader }) :
    Guarded (server.setReader addr reader) := by
  apply guarded.modify _ kept resting
  intro unused
  have begun := guarded.started moved
  rw [show (server.session addr).started = false from unused] at begun
  cases begun

theorem stop (guarded : Guarded server) (quiet : Quiet server) : Guarded (server.stop addr) := by
  have left : Guarded (server.leave addr) := ⟨guarded.unused, guarded.kept, guarded.resting, guarded.orderly⟩
  have aside := cancelDeadline_aside (server.session addr)
  apply left.modify
  · intro unused
    exact aside.reader.trans (guarded.unused addr (aside.started.symm.trans unused))
  · have kept := guarded.kept addr
    rw [← aside.reader] at kept
    exact kept
  · intro rejected
    exact (guarded.resting addr rejected).close aside.reader aside.incoming rfl (quiet addr rejected)

theorem read (guarded : Guarded server) (quiet : Quiet server) {session : Session}
    (done : ChatServer.readDone (server.session addr) = some session) :
    Guarded (server.modify addr fun _ => session) := by
  have kept := guarded.kept addr
  have resting := guarded.resting addr
  have quiet := quiet addr
  have unused := guarded.unused addr
  unfold ChatServer.readDone at done
  split at done
  · rename_i reading
    split at done <;> cases done
    rename_i ready
    apply guarded.modify
    · intro begun
      rw [reading] at unused
      cases unused begun
    · refine ⟨(server.session addr).incoming.take prefixLen, ?_, rfl⟩
      rw [List.length_take]
      exact Nat.min_eq_left ready.2
    · intro _ shut
      exact absurd ready.1 (by rw [show (server.session addr).stopped = true from shut]; simp)
  · rename_i readMsg reading
    dsimp only at done
    split at done <;> cases done
    rename_i ready
    rw [reading] at kept
    obtain ⟨front, long, decoded⟩ := kept
    have data : readMsg.data.take prefixLen = front := by
      rw [decodeHeader_data decoded]
      exact write_front long {}
    have unread : (server.session addr).unread = front ++ (server.session addr).incoming := by
      unfold Session.unread
      rw [reading, ← data]
    have complete : MsgNode.receive (server.session addr).unread ≠ none := by
      rw [unread]
      exact (receive_some long decoded).mpr ready.2
    apply guarded.modify
    · intro begun
      rw [reading] at unused
      cases unused begun
    · trivial
    · intro rejected
      cases shut : (server.session addr).stopped with
      | false => exact absurd (quiet rejected shut) complete
      | true =>
        have resting := resting rejected
        unfold Resting at resting
        rw [reading] at resting
        exact absurd (resting shut) complete
  · cases done

theorem decoded (guarded : Guarded server) {readMsg header : MsgNode}
    (reading : (server.session addr).reader = .headerRead readMsg)
    (decoded : readMsg.decodeHeader = (true, header)) : Guarded (server.setReader addr (.readingBody header)) := by
  have kept := guarded.kept addr
  rw [reading] at kept
  obtain ⟨front, long, same⟩ := kept
  apply guarded.setReader
  · rw [reading]
    simp
  · refine ⟨front, long, ?_⟩
    rw [← same]
    exact decoded
  · intro rejected
    have resting := guarded.resting addr rejected
    have unread : Session.unread { server.session addr with reader := .readingBody header } =
        (server.session addr).unread := by
      unfold Session.unread
      rw [reading]
      dsimp only
      rw [decodeHeader_data decoded]
    unfold Resting at resting ⊢
    rw [reading] at resting
    dsimp only
    rw [unread]
    exact resting

theorem calm_turn (guarded : Guarded server) {readMsg : MsgNode} (quietAt : ¬ Rejected server.log addr)
    (moved : (server.session addr).reader ≠ .unstarted) (undisturbed : Undisturbed addr server after)
    (ending : TurnEnd addr readMsg server after) : Guarded after := by
  have begun : (after.session addr).started = true :=
    (undisturbed.started addr).trans (guarded.started moved)
  have others : ∀ other, other ≠ addr → (Rejected after.log other ↔ Rejected server.log other) →
      (Rejected after.log other → Resting (after.session other)) := by
    intro other different same rejected
    have resting := guarded.resting other (same.mp rejected)
    unfold Resting at resting ⊢
    rw [undisturbed.reader other different, undisturbed.stopped other different,
      unread_same (undisturbed.reader other different) (undisturbed.incoming other)]
    exact resting
  have finish : HeaderKept (after.session addr).reader →
      (∀ other, other ≠ addr → (Rejected after.log other ↔ Rejected server.log other)) →
      (Rejected after.log addr → Resting (after.session addr)) → Orderly after.log → Guarded after := by
    intro kept same resting orderly
    refine ⟨?_, ?_, ?_, orderly⟩
    · intro other unused
      by_cases here : other = addr
      · rw [here, begun] at unused
        cases unused
      · rw [undisturbed.reader other here]
        rw [undisturbed.started other] at unused
        exact guarded.unused other unused
    · intro other
      by_cases here : other = addr
      · rw [here]
        exact kept
      · rw [undisturbed.reader other here]
        exact guarded.kept other
    · intro other rejected
      by_cases here : other = addr
      · rw [here] at rejected ⊢
        exact resting rejected
      · exact others other here (same other here) rejected
  cases ending with
  | replied told reply log reading stopped blocked early late =>
    have rejectedEarly := early.rejected
    have rejectedLate := late.rejected
    apply finish
    · rw [reading]
      trivial
    · intro other different
      rw [rejectedLate, rejected_cons, rejectedEarly]
      intro _ _ _ same
      cases same
      exact different rfl
    · intro _
      unfold Resting
      rw [reading]
      trivial
    · rw [late.orderly]
      exact early.orderly.mpr guarded.orderly
  | quit reading stopped blocked adds =>
    apply finish
    · rw [reading]
      trivial
    · exact fun other _ => adds.rejected other
    · intro _
      unfold Resting
      rw [reading]
      exact stopped
    · exact adds.orderly.mpr guarded.orderly
  | waiting told op next reading stopped blocked adds =>
    apply finish
    · rw [reading]
      trivial
    · exact fun other _ => adds.rejected other
    · intro rejected
      exact absurd ((adds.rejected addr).mp rejected) quietAt
    · exact adds.orderly.mpr guarded.orderly
  | calling told request next reading stopped blocked adds =>
    apply finish
    · rw [reading]
      trivial
    · exact fun other _ => adds.rejected other
    · intro rejected
      exact absurd ((adds.rejected addr).mp rejected) quietAt
    · exact adds.orderly.mpr guarded.orderly

theorem busy (guarded : Guarded server) (busy : ¬ Resting (server.session addr)) : ¬ Rejected server.log addr :=
  fun rejected => busy (guarded.resting addr rejected)

theorem handler (guarded : Guarded server) {lib : JsonLib} {readMsg : MsgNode} {ledger : Ledger}
    {rest : Awaitable ChannelMessage} {ready : ChatServer}
    (resumes : Resumes lib server addr readMsg ledger rest ready) :
    Guarded (ready.runHandler addr readMsg ledger rest) := by
  obtain ⟨undisturbed, ending⟩ := runHandler_turn ready addr readMsg ledger rest
  cases resumes with
  | handed idle reading =>
    have quietAt : ¬ Rejected server.log addr := by
      apply guarded.busy
      unfold Resting
      rw [reading]
      exact id
    have same : ∀ other, Rejected (server.record (.handed addr readMsg)).log other ↔ Rejected server.log other :=
      fun other => rejected_cons (by simp)
    have ready : Guarded (server.record (.handed addr readMsg)) :=
      ⟨guarded.unused, guarded.kept, fun other rejected => guarded.resting other ((same other).mp rejected),
        quietAt, guarded.orderly⟩
    apply ready.calm_turn _ _ undisturbed ending
    · rw [same]
      exact quietAt
    · rw [show ((server.record (.handed addr readMsg)).session addr).reader = .bodyRead readMsg from reading]
      simp
  | resumed idle reading =>
    apply guarded.calm_turn _ _ undisturbed ending
    · apply guarded.busy
      unfold Resting
      rw [reading]
      exact id
    · rw [reading]
      simp
  | returned answer blocked reading =>
    have ready : Guarded { server with blocked := none } :=
      ⟨guarded.unused, guarded.kept, guarded.resting, guarded.orderly⟩
    apply ready.calm_turn _ _ undisturbed ending
    · apply guarded.busy
      unfold Resting
      rw [reading]
      exact id
    · rw [show (({ server with blocked := none } : ChatServer).session addr).reader = _ from reading]
      simp

theorem rule (lib : JsonLib) : StepRule lib Guarded (fun _ => True) Quiet where
  aside server addr change aside guarded := guarded.aside aside
  plain server event plain guarded := by
    have adds : Adds server.log (server.record event).log := ⟨[event], rfl, by simpa using plain⟩
    exact ⟨guarded.unused, guarded.kept, fun other rejected => guarded.resting other ((adds.rejected other).mp rejected),
      adds.orderly.mpr guarded.orderly⟩
  start server addr uid _ _ _ fresh guarded := by
    have begun : Guarded (server.modify addr fun _ => { uid, started := true }) := by
      apply guarded.modify
      · intro unused
        cases unused
      · trivial
      · intro rejected
        have resting := guarded.resting addr rejected
        unfold Resting at resting
        rw [guarded.unused addr fresh] at resting
        exact resting.elim
    exact ⟨begun.unused, begun.kept, begun.resting, begun.orderly⟩
  stop server addr quiet _ guarded := guarded.stop quiet
  send server addr bytes _ started opened guarded := by
    apply guarded.modify
    · exact guarded.unused addr
    · exact guarded.kept addr
    · intro rejected
      have resting := guarded.resting addr rejected
      unfold Resting at resting ⊢
      cases reading : (server.session addr).reader with
      | headerRead readMsg => simp [opened]
      | readingBody readMsg => simp [opened]
      | _ =>
        rw [reading] at resting
        exact resting
  begin server addr _ _ started unstarted guarded := by
    apply guarded.modify
    · intro unused
      rw [show (server.session addr).started = false from unused] at started
      cases started
    · trivial
    · intro _
      trivial
  read server addr session quiet _ done guarded := guarded.read quiet done
  decoded server addr readMsg header _ _ reading decoded guarded := guarded.decoded reading decoded
  quit server addr quiet _ reading guarded := by
    have stopped : Guarded (server.stop addr) := guarded.stop quiet
    have same : ((server.stop addr).session addr).reader = (server.session addr).reader := by
      rw [stop_self]
      exact (cancelDeadline_aside (server.session addr)).reader
    apply stopped.setReader
    · rw [same]
      intro unstarted
      rw [unstarted] at reading
      cases reading
    · trivial
    · intro _
      unfold Resting
      dsimp only
      rw [stop_self]
  answer server addr readMsg ledger op next answer _ reading guarded := by
    apply guarded.setReader
    · rw [reading]
      simp
    · trivial
    · intro rejected
      have resting := guarded.resting addr rejected
      unfold Resting at resting
      rw [reading] at resting
      exact resting.elim
  post server tasks guarded := ⟨guarded.unused, guarded.kept, guarded.resting, guarded.orderly⟩
  handler server addr readMsg ledger rest ready _ resumes guarded := guarded.handler resumes

theorem fresh (name : String) : Guarded (.fresh name) where
  unused _ _ := rfl
  kept _ := trivial
  resting _ rejected := by
    obtain ⟨_, _, _, member, _⟩ := rejected
    cases member
  orderly := trivial

end Guarded

/-! ## A frame that is there can be handed over -/

section Overrun

variable (lib : JsonLib) (server : ChatServer) (addr : Addr)

theorem not_orderly_of_handed {addr : Addr} {events older : List Event} {readMsg : MsgNode} (rejected : Rejected older addr) :
    ¬ Orderly (events ++ .handed addr readMsg :: older) := by
  induction events with
  | nil => exact fun orderly => orderly.1 rejected
  | cons event events ih =>
    intro orderly
    apply ih
    cases event with
    | handed other frame => exact orderly.2
    | _ => exact orderly

theorem TurnEnd.log {addr : Addr} {readMsg : MsgNode} {before after : ChatServer} (ending : TurnEnd addr readMsg before after) :
    ∃ events, after.log = events ++ before.log := by
  cases ending with
  | replied told reply log _ _ _ early late =>
    obtain ⟨first, sameFirst, _⟩ := early
    obtain ⟨last, sameLast, _⟩ := late
    refine ⟨last ++ .replied addr readMsg told reply :: first, ?_⟩
    rw [sameLast, sameFirst, List.append_assoc, List.cons_append]
  | quit _ _ _ adds => exact ⟨adds.choose, adds.choose_spec.1⟩
  | waiting _ _ _ _ _ _ adds => exact ⟨adds.choose, adds.choose_spec.1⟩
  | calling _ _ _ _ _ _ adds => exact ⟨adds.choose, adds.choose_spec.1⟩

theorem overrun_bodyRead (idle : server.blocked = none) (rejected : Rejected server.log addr) {readMsg : MsgNode}
    (reading : (server.session addr).reader = .bodyRead readMsg) :
    ∃ more after, Transition.Run (ChatServer.step lib) server more after ∧ ¬ Orderly after.log := by
  let after := (server.record (.handed addr readMsg)).runHandler addr readMsg [] (handleMessage lib readMsg)
  have taken : server.step lib (.resumeReader addr) = some after := by
    simp only [ChatServer.step, ChatServer.threadStep, ChatServer.resumeReader, idle, reading, if_true]
    rfl
  obtain ⟨_, ending⟩ := runHandler_turn (server.record (.handed addr readMsg)) addr readMsg []
    (handleMessage lib readMsg)
  obtain ⟨events, log⟩ := ending.log
  refine ⟨_, after, .single taken, ?_⟩
  rw [show after.log = events ++ .handed addr readMsg :: server.log from log]
  exact not_orderly_of_handed rejected

theorem overrun_readingBody (idle : server.blocked = none) (rejected : Rejected server.log addr)
    (opened : (server.session addr).stopped = false) {readMsg : MsgNode}
    (reading : (server.session addr).reader = .readingBody readMsg)
    (enough : readMsg.bodyLength.toInt.toNat ≤ (server.session addr).incoming.length) :
    ∃ more after, Transition.Run (ChatServer.step lib) server more after ∧ ¬ Orderly after.log := by
  let size := readMsg.bodyLength.toInt.toNat
  let session : Session := { server.session addr with
    reader := .bodyRead (readMsg.write prefixLen ((server.session addr).incoming.take size))
    incoming := (server.session addr).incoming.drop size }
  have done : ChatServer.readDone (server.session addr) = some session := by
    unfold ChatServer.readDone
    rw [reading]
    dsimp only
    rw [if_pos ⟨.inl opened, enough⟩]
  have taken : server.step lib (.readDone addr) = some (server.modify addr fun _ => session) := by
    simp only [ChatServer.step, ChatServer.threadStep, idle, done, if_true, Option.map_some]
  have next : ((server.modify addr fun _ => session).session addr).reader =
      .bodyRead (readMsg.write prefixLen ((server.session addr).incoming.take size)) := by
    rw [ChatServer.modify_session_self]
  obtain ⟨more, after, run, disorderly⟩ :=
    overrun_bodyRead lib (server.modify addr fun _ => session) addr idle rejected next
  exact ⟨_, after, .cons taken run, disorderly⟩

theorem receive_decoded {front rest : Bytes} (long : front.length = prefixLen)
    (complete : MsgNode.receive (front ++ rest) ≠ none) :
    ∃ header, (({} : MsgNode).write 0 front).decodeHeader = (true, header) ∧
      header.bodyLength.toInt.toNat ≤ rest.length := by
  cases decoded : (({} : MsgNode).write 0 front).decodeHeader with
  | mk ok header =>
    cases ok with
    | true => exact ⟨header, rfl, (receive_some long decoded).mp complete⟩
    | false =>
      have enough : ¬ (front ++ rest).length < prefixLen := by
        rw [List.length_append]
        omega
      have nothing : MsgNode.receive (front ++ rest) = none := by
        unfold MsgNode.receive
        rw [if_neg enough, List.take_left' long, List.drop_left' long, decoded]
        rfl
      exact absurd nothing complete

theorem overrun_headerRead (idle : server.blocked = none) (rejected : Rejected server.log addr)
    (opened : (server.session addr).stopped = false) {front : Bytes} (long : front.length = prefixLen)
    (reading : (server.session addr).reader = .headerRead (({} : MsgNode).write 0 front))
    (complete : MsgNode.receive (front ++ (server.session addr).incoming) ≠ none) :
    ∃ more after, Transition.Run (ChatServer.step lib) server more after ∧ ¬ Orderly after.log := by
  obtain ⟨header, decoded, enough⟩ := receive_decoded long complete
  let next := server.setReader addr (.readingBody header)
  have taken : server.step lib (.resumeReader addr) = some next := by
    simp only [ChatServer.step, ChatServer.threadStep, ChatServer.resumeReader, idle, reading, decoded, if_true]
    rfl
  have self : next.session addr = { server.session addr with reader := .readingBody header } :=
    setReader_self server addr _
  obtain ⟨more, after, run, disorderly⟩ := overrun_readingBody lib next addr idle rejected
    (by rw [self]; exact opened) (by rw [self]) (by rw [self]; exact enough)
  exact ⟨_, after, .cons taken run, disorderly⟩

/-- A complete frame that a rejected connection still has is handed to the handler in some run. -/
theorem overrun (guarded : Guarded server) (idle : server.blocked = none) (rejected : Rejected server.log addr)
    (opened : (server.session addr).stopped = false)
    (complete : MsgNode.receive (server.session addr).unread ≠ none) :
    ∃ more after, Transition.Run (ChatServer.step lib) server more after ∧ ¬ Orderly after.log := by
  have resting := guarded.resting addr rejected
  have kept := guarded.kept addr
  unfold Resting at resting
  unfold Session.unread at complete
  cases reading : (server.session addr).reader with
  | readingHeader =>
    rw [reading] at complete
    dsimp only at complete
    have enough : prefixLen ≤ (server.session addr).incoming.length := by
      apply Nat.le_of_not_lt
      intro short
      unfold MsgNode.receive at complete
      rw [if_pos short] at complete
      exact complete rfl
    let front := (server.session addr).incoming.take prefixLen
    have long : front.length = prefixLen := by
      rw [List.length_take]
      exact Nat.min_eq_left enough
    let session : Session := { server.session addr with
      reader := .headerRead (({} : MsgNode).write 0 front)
      incoming := (server.session addr).incoming.drop prefixLen }
    have done : ChatServer.readDone (server.session addr) = some session := by
      unfold ChatServer.readDone
      rw [reading]
      dsimp only
      rw [if_pos ⟨opened, enough⟩]
    have taken : server.step lib (.readDone addr) = some (server.modify addr fun _ => session) := by
      simp only [ChatServer.step, ChatServer.threadStep, idle, done, if_true, Option.map_some]
    have self : (server.modify addr fun _ => session).session addr = session := if_pos rfl
    have whole : front ++ session.incoming = (server.session addr).incoming := List.take_append_drop _ _
    obtain ⟨more, after, run, disorderly⟩ := overrun_headerRead lib (server.modify addr fun _ => session)
      addr idle rejected (by rw [self]; exact opened) long (by rw [self])
      (by rw [self, whole]; exact complete)
    exact ⟨_, after, .cons taken run, disorderly⟩
  | headerRead readMsg =>
    rw [reading] at complete kept
    obtain ⟨front, long, same⟩ := kept
    subst same
    dsimp only at complete
    rw [write_front long] at complete
    exact overrun_headerRead lib server addr idle rejected opened long reading complete
  | readingBody readMsg =>
    rw [reading] at complete kept
    obtain ⟨front, long, decoded⟩ := kept
    dsimp only at complete
    rw [decodeHeader_data decoded, write_front long] at complete
    have enough := (receive_some long decoded).mp complete
    exact overrun_readingBody lib server addr idle rejected opened reading enough
  | finished =>
    rw [reading, opened] at resting
    cases resting
  | _ =>
    rw [reading] at resting
    exact resting.elim

end Overrun

/-! ## Tests for the two conditions -/

def closesOn (addr : Addr) : Event → Bool
  | .replied other _ _ reply => other = addr && reply.closeAfterSend
  | _ => false

theorem rejected_iff_any {log : List Event} {addr : Addr} :
    Rejected log addr ↔ log.any (closesOn addr) = true := by
  rw [List.any_eq_true]
  constructor
  · rintro ⟨readMsg, told, reply, member, closes⟩
    exact ⟨_, member, by simp [closesOn, closes]⟩
  · rintro ⟨event, member, closes⟩
    cases event with
    | replied other readMsg told reply =>
      simp only [closesOn, Bool.and_eq_true, decide_eq_true_eq] at closes
      obtain ⟨rfl, closes⟩ := closes
      exact ⟨readMsg, told, reply, member, closes⟩
    | _ => cases closes

instance (log : List Event) (addr : Addr) : Decidable (Rejected log addr) :=
  decidable_of_iff _ rejected_iff_any.symm

instance decidableOrderly : (log : List Event) → Decidable (Orderly log)
  | [] => .isTrue trivial
  | .handed addr _ :: older =>
    have := decidableOrderly older
    inferInstanceAs (Decidable (¬ Rejected older addr ∧ Orderly older))
  | .replied _ _ _ _ :: older => decidableOrderly older
  | .enqueued _ _ :: older => decidableOrderly older
  | .dropped _ _ :: older => decidableOrderly older
  | .written _ _ :: older => decidableOrderly older

def repliedTo : Event → Option Addr
  | .replied addr _ _ _ => some addr
  | _ => none

theorem quiet_iff {server : ChatServer} : Quiet server ↔ ∀ addr ∈ server.log.filterMap repliedTo,
    Rejected server.log addr → (server.session addr).stopped = false →
      (MsgNode.receive (server.session addr).unread).isNone = true := by
  simp only [Option.isNone_iff_eq_none]
  constructor
  · exact fun quiet addr _ => quiet addr
  · intro quiet addr rejected
    obtain ⟨readMsg, told, reply, member, _⟩ := id rejected
    exact quiet addr (List.mem_filterMap.mpr ⟨_, member, rfl⟩) rejected

instance (server : ChatServer) : Decidable (Quiet server) := decidable_of_iff _ quiet_iff.symm

theorem rejected_connection_silent (lib : JsonLib) (name : String) (acts : List Act) (server : ChatServer)
    (run : Transition.Run (ChatServer.step lib) (.fresh name) acts server)
    (quiet : Transition.Meets (ChatServer.step lib) (fun server _ => Quiet server) (.fresh name) acts) :
    Orderly server.log ∧
      (¬ Quiet server → server.blocked = none →
        ∃ more after, Transition.Run (ChatServer.step lib) server more after ∧ ¬ Orderly after.log) := by
  have keeps : ∀ server act after, Guarded server → Quiet server → server.step lib act = some after →
      Guarded after := fun server act after guarded quiet taken =>
    (Guarded.rule lib).step quiet (fun _ _ _ => trivial) taken guarded
  have guarded : Guarded server := run.invariant_of_meets keeps quiet (Guarded.fresh name)
  refine ⟨guarded.orderly, ?_⟩
  intro loud idle
  simp only [Quiet, not_forall] at loud
  obtain ⟨addr, rejected, opened, complete⟩ := loud
  exact overrun lib server addr guarded idle rejected opened complete

def searchFrame : Bytes := (MsgNode.ofNull MessageId.searchUserRequest.wire).wire

theorem rejected_connection_silent_search : ∃ server,
    Transition.Run (ChatServer.step loginLib) (.fresh "chat_server1")
      ([.accept 1 0, .startReader 1, .send 1 searchFrame] ++ readFrame) server ∧
      Rejected server.log 1 ∧ Orderly server.log := by
  have possible : ((Transition.runs (ChatServer.step loginLib) (.fresh "chat_server1")
      ([.accept 1 0, .startReader 1, .send 1 searchFrame] ++ readFrame)).any
        fun server => decide (Rejected server.log 1)) = true := by decide +kernel
  have quiet : Transition.Meets (ChatServer.step loginLib) (fun server _ => Quiet server) (.fresh "chat_server1")
      ([.accept 1 0, .startReader 1, .send 1 searchFrame] ++ readFrame) := by decide +kernel
  obtain ⟨server, reached, rejected⟩ := (Option.any_eq_true _ _).mp possible
  have run := Transition.run_iff_runs.mpr reached
  exact ⟨server, run, of_decide_eq_true rejected, (rejected_connection_silent loginLib _ _ server run quiet).1⟩

/-- A search without a login, and a login request right behind it. -/
theorem rejected_connection_logs_in :
    ¬ ∀ (lib : JsonLib) (name : String) (acts : List Act) (server : ChatServer),
      Transition.Run (ChatServer.step lib) (.fresh name) acts server → Orderly server.log := by
  intro claim
  have possible : ((Transition.runs (ChatServer.step loginLib) (.fresh "chat_server1")
      ([.accept 1 0, .startReader 1, .send 1 (searchFrame ++ loginFrame)] ++ readFrame ++ readFrame)).any
        fun server => decide (¬ Orderly server.log)) = true := by decide +kernel
  obtain ⟨server, reached, disorderly⟩ := (Option.any_eq_true _ _).mp possible
  exact of_decide_eq_true disorderly (claim loginLib _ _ server (Transition.run_iff_runs.mpr reached))

end ChatProof
