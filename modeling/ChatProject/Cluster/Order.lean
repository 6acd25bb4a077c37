import ChatProject.Cluster.Chats
import ChatProject.Cluster.Deadlock
import ChatProject.Library.Passage
import ChatProject.Server.Intake

/-! Chat messages come in the order in which they were sent, and none comes twice. -/

namespace ChatProof

open ChatModel

/-! ## Watching both servers -/

/-- The frame that a message has come of: the session that it came from, and its number there. -/
structure Origin where
  sender : Peer
  number : Nat

/-- Two servers, with what each client has sent so far and the origins of all that was put into each queue and of the
    tasks that wait to be run. -/
structure Monitored where
  cluster : Cluster
  sent : Peer → Bytes := fun _ => []
  messages : Peer → List (ChannelMessage × Option Origin) := fun _ => []
  tasks : Side → List Origin := fun _ => []

def acceptedAt (cluster : Cluster) (peer : Peer) : List ChannelMessage := accepted (cluster.server peer.1).log peer.2

def writtenAt (cluster : Cluster) (peer : Peer) : List ChannelMessage := written (cluster.server peer.1).log peer.2

/-- What the client of a session sends in a step. -/
def sentIn (peer : Peer) : ClusterAct → Bytes
  | .own side act => if peer.1 = side then sentBy peer.2 act else []
  | _ => []

/-- The last frame of a session. -/
def lastOf (cluster : Cluster) (sender : Peer) : Origin := ⟨sender, (framesOf cluster sender).length - 1⟩

namespace Monitored

def start (stores : Stores) (name : Side → String) : Monitored := { cluster := .start stores name }

/-- What a step puts into a queue has come of the frame that its task has come of, or else of the last frame of the
    session whose handler the step is about. -/
def origin (monitored : Monitored) (act : ClusterAct) (after : Cluster) : Option Origin :=
  match act with
  | .runTask side => (monitored.tasks side).head?
  | act => (actor monitored.cluster act).map (lastOf after)

def nextTasks (monitored : Monitored) (act : ClusterAct) (side : Side) : List Origin :=
  match act with
  | .arrive caller =>
    if side = caller.other then
      let posted := (monitored.cluster.server caller).blocked.map fun addr => lastOf monitored.cluster (caller, addr)
      monitored.tasks side ++ posted.toList
    else monitored.tasks side
  | .runTask which => if side = which then (monitored.tasks side).tail else monitored.tasks side
  | _ => monitored.tasks side

def next (monitored : Monitored) (act : ClusterAct) (after : Cluster) : Monitored where
  cluster := after
  sent peer := monitored.sent peer ++ sentIn peer act
  messages peer := monitored.messages peer ++
    ((acceptedAt after peer).drop (acceptedAt monitored.cluster peer).length).map fun message =>
      (message, monitored.origin act after)
  tasks := monitored.nextTasks act

def step (externals : Externals) (monitored : Monitored) (act : ClusterAct) : Option Monitored :=
  (monitored.cluster.step externals act).map fun after => monitored.next act after

/-- What has been written on the socket of a session, with the origins. -/
def written (monitored : Monitored) (peer : Peer) : List (ChannelMessage × Option Origin) :=
  (monitored.messages peer).take (writtenAt monitored.cluster peer).length

end Monitored

/-- The numbers of the frames of `sender` that the chat frames in a list have come of. -/
def numbersFrom (sender : Peer) (messages : List (ChannelMessage × Option Origin)) : List Nat :=
  messages.filterMap fun entry =>
    if isChat entry.1 then entry.2.bind fun origin => if origin.sender = sender then some origin.number else none
    else none

/-- The numbers of the frames of `sender` that tasks have come of. -/
def waitingFrom (sender : Peer) (tasks : List Origin) : List Nat :=
  tasks.filterMap fun origin => if origin.sender = sender then some origin.number else none

def Monitored.passage (monitored : Monitored) : Passage Peer Peer Side where
  out sender receiver := numbersFrom sender (monitored.messages receiver)
  waiting sender side := waitingFrom sender (monitored.tasks side)

section Monitored

variable {externals : Externals} {monitored later : Monitored} {act : ClusterAct}

theorem monitored_step (monitored : Monitored) (act : ClusterAct) :
    (monitored.step externals act).map Monitored.cluster = monitored.cluster.step externals act := by
  unfold Monitored.step
  cases monitored.cluster.step externals act <;> rfl

theorem numbersFrom_append (sender : Peer) (first second : List (ChannelMessage × Option Origin)) :
    numbersFrom sender (first ++ second) = numbersFrom sender first ++ numbersFrom sender second :=
  List.filterMap_append

/-- Only the chat frames count. -/
theorem numbersFrom_chats (sender : Peer) (origin : Option Origin) (messages : List ChannelMessage) :
    numbersFrom sender (messages.map fun message => (message, origin)) =
      numbersFrom sender ((messages.filter isChat).map fun message => (message, origin)) := by
  induction messages with
  | nil => rfl
  | cons message messages ih =>
    by_cases chat : isChat message = true
    · rw [List.filter_cons_of_pos chat, List.map_cons, List.map_cons]
      simp only [numbersFrom, List.filterMap_cons] at ih ⊢
      rw [ih]
    · rw [List.filter_cons_of_neg chat, List.map_cons, ← ih]
      simp only [numbersFrom, List.filterMap_cons, if_neg chat]

end Monitored

/-! ## What each client has sent -/

section Sent

variable {externals : Externals} {cluster after : Cluster}

/-- A client sends to its own session, and nobody sends in any other step. -/
theorem step_sends {act : ClusterAct} (taken : cluster.step externals act = some after) (side : Side) :
    (after.server side = cluster.server side ∧ ∀ addr, sentIn (side, addr) act = []) ∨
      ∃ own, (cluster.server side).step externals.lib own = some (after.server side) ∧
        ∀ addr, sentIn (side, addr) act = sentBy addr own := by
  have quiet : ∀ {which : Side} {own : Act} {server : ChatServer} (cluster : Cluster),
      (cluster.server which).step externals.lib own = some server → (∀ addr, sentBy addr own = []) →
      (∀ addr, sentIn (side, addr) act = []) →
      ((cluster.setServer which server).server side = cluster.server side ∧ ∀ addr, sentIn (side, addr) act = []) ∨
        ∃ own, (cluster.server side).step externals.lib own = some ((cluster.setServer which server).server side) ∧
          ∀ addr, sentIn (side, addr) act = sentBy addr own := by
    intro which own server cluster first silent nothing
    rcases setServer_server cluster (fun act => ∀ addr, sentBy addr act = []) own first silent side with same | ⟨own, silent, first⟩
    · exact .inl ⟨same, nothing⟩
    · exact .inr ⟨own, first, fun addr => (nothing addr).trans (silent addr).symm⟩
  cases step_cases taken with
  | @own which act server mine first =>
    by_cases here : side = which
    · subst here
      rw [setServer_self]
      exact .inr ⟨act, first, fun addr => if_pos rfl⟩
    · exact .inl ⟨setServer_other _ _ here, fun addr => if_neg here⟩
  | @exec which addr outcome readMsg told op next answer stores reading done =>
    let oracle : (op : Op) → op.Res := fun op => (cluster.stores.exec externals outcome op).1
    have answered : oracle op = answer := congrArg Prod.fst done
    have first : (cluster.server which).step externals.lib (.answer addr oracle) = some ((cluster.server which).setReader
        addr (.resuming readMsg (⟨op, answer⟩ :: told) (next answer))) := by
      simp only [ChatServer.step, reading, answered]
    exact quiet cluster first (fun _ => rfl) fun _ => rfl
  | @arrive which request sent =>
    have posted : ((cluster.setCall which .queued).server which.other).step externals.lib (.arrive request) = some
        { cluster.server which.other with tasks := (cluster.server which.other).tasks ++ [request] } := rfl
    exact quiet _ posted (fun _ => rfl) fun _ => rfl
  | @runTask which request rest free tasks =>
    have first : (cluster.server which).step externals.lib .runTask =
        some ({ cluster.server which with tasks := rest }.serveNotify request) := by
      simp only [ChatServer.step, ChatServer.threadStep, free, tasks, if_true]
    exact quiet cluster first (fun _ => rfl) fun _ => rfl
  | @returned _ which addr answer readMsg told request next kind blocked reading =>
    have first : ((cluster.setCall which .idle).server which).step externals.lib (.returned answer) =
        some ({ cluster.server which with blocked := none }.runHandler addr readMsg
          (⟨.notify request, answer⟩ :: told) (next answer)) := by
      simp only [setCall_server, ChatServer.step, blocked, reading]
    apply quiet _ first (fun _ => rfl)
    intro addr
    rcases kind with ⟨same, _⟩ | ⟨same, _⟩ <;> subst same <;> rfl
  | tick seconds => exact .inl ⟨rfl, fun _ => rfl⟩

/-- Each server is in a state that it can reach by itself. -/
theorem server_reachable {stores : Stores} {name : Side → String}
    (reached : Transition.Reachable (Cluster.step externals) (.start stores name) cluster) (side : Side) :
    ∃ alone, Transition.Reachable (ChatServer.step externals.lib) (.fresh alone) (cluster.server side) := by
  obtain ⟨acts, run⟩ := reached
  have keeps : ∀ server act after, (∃ alone, Transition.Reachable (ChatServer.step externals.lib) (.fresh alone) server) →
      server.step externals.lib act = some after →
      ∃ alone, Transition.Reachable (ChatServer.step externals.lib) (.fresh alone) after := by
    intro server act after reached taken
    obtain ⟨alone, reached⟩ := reached
    exact ⟨alone, reached.next taken⟩
  exact run_servers keeps (fun name => ⟨name, .refl _⟩) run side

end Sent

/-! ## Where the chat frames come from -/

/-- A task of `side` was asked for with this frame, on the other server. -/
def AskedWith (lib : JsonLib) (cluster : Cluster) (side : Side) (task : NotifyRequest) (origin : Origin) : Prop :=
  origin.sender.1 = side.other ∧ ∃ frame notice told, (framesOf cluster origin.sender)[origin.number]? = some frame ∧
    AcceptedRequest.From lib frame told notice ∧ task = notice.remote

/-- The chat frames in the queues and the tasks that wait, so far. -/
structure InOrder (lib : JsonLib) (monitored : Monitored) : Prop where
  messages : ∀ peer, (monitored.messages peer).map Prod.fst = acceptedAt monitored.cluster peer
  origins : ∀ receiver entry, entry ∈ monitored.messages receiver → isChat entry.1 = true → ∃ origin frame, entry.2 = some origin ∧
    (framesOf monitored.cluster origin.sender)[origin.number]? = some frame ∧ ChatOf lib frame origin.sender receiver entry.1
  tasks : ∀ side, List.Forall₂ (AskedWith lib monitored.cluster side) (monitored.cluster.server side).tasks (monitored.tasks side)
  orderly : monitored.passage.Orderly Prod.fst (Spent monitored.cluster)
  fed : ∀ side, Fed (fun addr => monitored.sent (side, addr)) (monitored.cluster.server side)

namespace InOrder

variable {externals : Externals} {stores : Stores} {name : Side → String} {monitored later : Monitored} {act : ClusterAct} {after : Cluster}

theorem start (lib : JsonLib) : InOrder lib (.start stores name) where
  messages _ := rfl
  origins _ _ member := by cases member
  tasks _ := .nil
  orderly := .empty _ _
  fed side := Fed.fresh (name side)

/-- What a step puts into a queue comes after what there is. -/
theorem new_accepted (reached : Transition.Reachable (Cluster.step externals) (.start stores name) monitored.cluster)
    (taken : monitored.cluster.step externals act = some after) (peer : Peer) :
    acceptedAt after peer = acceptedAt monitored.cluster peer ++
      (acceptedAt after peer).drop (acceptedAt monitored.cluster peer).length := by
  unfold acceptedAt
  rcases step_accepted reached taken peer.1 peer.2 with same | ⟨message, same, _⟩
  · rw [same, List.drop_length, List.append_nil]
  · rw [same, List.drop_left]

theorem new_chats (reached : Transition.Reachable (Cluster.step externals) (.start stores name) monitored.cluster)
    (taken : monitored.cluster.step externals act = some after) (peer : Peer) : queues after peer =
      queues monitored.cluster peer ++ ((acceptedAt after peer).drop (acceptedAt monitored.cluster peer).length).filter isChat := by
  have same := congrArg (List.filter isChat) (new_accepted reached taken peer)
  rw [List.filter_append] at same
  exact same

/-- When no queue gets a chat frame. -/
theorem no_chats (reached : Transition.Reachable (Cluster.step externals) (.start stores name) monitored.cluster)
    (taken : monitored.cluster.step externals act = some after) (same : queues after = queues monitored.cluster) (peer : Peer) :
    ((acceptedAt after peer).drop (acceptedAt monitored.cluster peer).length).filter isChat = [] := by
  have grown := new_chats reached taken peer
  rw [same] at grown
  exact List.self_eq_append_right.mp grown

/-- When one queue gets a chat frame. -/
theorem one_chat (reached : Transition.Reachable (Cluster.step externals) (.start stores name) monitored.cluster)
    (taken : monitored.cluster.step externals act = some after) {receiver : Peer} {message : ChannelMessage}
    (gets : Gets (queues monitored.cluster) (queues after) receiver message) (peer : Peer) :
    ((acceptedAt after peer).drop (acceptedAt monitored.cluster peer).length).filter isChat =
      if peer = receiver then [message] else [] := by
  have grown := new_chats reached taken peer
  have same := gets peer
  split at same
  · rename_i here
    rw [if_pos here]
    exact List.append_cancel_left (grown.symm.trans same)
  · rename_i different
    rw [if_neg different]
    exact List.self_eq_append_right.mp (same.symm.trans grown)

theorem new_fed (reached : Transition.Reachable (Cluster.step externals) (.start stores name) monitored.cluster)
    (taken : monitored.cluster.step externals act = some after) (inOrder : InOrder externals.lib monitored) (side : Side) :
    Fed (fun addr => monitored.sent (side, addr) ++ sentIn (side, addr) act) (after.server side) := by
  rcases step_sends taken side with ⟨same, nothing⟩ | ⟨own, first, sends⟩
  · simp only [nothing, List.append_nil, same]
    exact inOrder.fed side
  · simp only [sends]
    obtain ⟨alone, acts, run⟩ := server_reachable reached side
    exact step_fed (run_outgoing run).1.2 (inOrder.fed side) first

theorem framesOf_grows (reached : Transition.Reachable (Cluster.step externals) (.start stores name) monitored.cluster)
    (taken : monitored.cluster.step externals act = some after) {peer : Peer} {number : Nat} {frame : MsgNode}
    (here : (framesOf monitored.cluster peer)[number]? = some frame) : (framesOf after peer)[number]? = some frame := by
  rcases step_frames (reachable_traced reached) (reachable_linked reached) taken peer with ⟨same, _⟩ | ⟨other, same⟩
  · rw [same]
    exact here
  · obtain ⟨below, _⟩ := List.getElem?_eq_some_iff.mp here
    rw [same, List.getElem?_append_left below]
    exact here

theorem spent_grows (reached : Transition.Reachable (Cluster.step externals) (.start stores name) monitored.cluster)
    (taken : monitored.cluster.step externals act = some after) (sender : Peer) (number : Nat)
    (spent : Spent monitored.cluster sender number) : Spent after sender number :=
  step_spent (reachable_traced reached) (reachable_linked reached) taken spent

theorem next_messages (reached : Transition.Reachable (Cluster.step externals) (.start stores name) monitored.cluster)
    (taken : monitored.cluster.step externals act = some after) (inOrder : InOrder externals.lib monitored) (peer : Peer) :
    ((monitored.next act after).messages peer).map Prod.fst = acceptedAt after peer := by
  refine (List.map_append).trans ?_
  rw [inOrder.messages, List.map_map]
  exact (congrArg _ (List.map_id _)).trans (new_accepted reached taken peer).symm

theorem next_numbers (sender receiver : Peer) : numbersFrom sender ((monitored.next act after).messages receiver) =
    numbersFrom sender (monitored.messages receiver) ++ numbersFrom sender
      ((((acceptedAt after receiver).drop (acceptedAt monitored.cluster receiver).length).filter isChat).map fun message =>
        (message, monitored.origin act after)) := by
  rw [← numbersFrom_chats]
  exact numbersFrom_append sender _ _

/-- The origins of all messages, when those of the new ones are known. -/
theorem next_origins (reached : Transition.Reachable (Cluster.step externals) (.start stores name) monitored.cluster)
    (taken : monitored.cluster.step externals act = some after) (inOrder : InOrder externals.lib monitored)
    (new : ∀ receiver message,
      message ∈ ((acceptedAt after receiver).drop (acceptedAt monitored.cluster receiver).length).filter isChat →
      ∃ origin frame, monitored.origin act after = some origin ∧
        (framesOf after origin.sender)[origin.number]? = some frame ∧ ChatOf externals.lib frame origin.sender receiver message)
    (receiver : Peer) (entry : ChannelMessage × Option Origin) (member : entry ∈ (monitored.next act after).messages receiver)
    (chat : isChat entry.1 = true) : ∃ origin frame, entry.2 = some origin ∧
      (framesOf after origin.sender)[origin.number]? = some frame ∧ ChatOf externals.lib frame origin.sender receiver entry.1 := by
  rcases List.mem_append.mp member with old | fresh
  · obtain ⟨origin, frame, stems, here, chats⟩ := inOrder.origins receiver entry old chat
    exact ⟨origin, frame, stems, framesOf_grows reached taken here, chats⟩
  · obtain ⟨message, inside, same⟩ := List.mem_map.mp fresh
    subst same
    exact new receiver message (List.mem_filter.mpr ⟨inside, chat⟩)

/-- The tasks of a server come from the sessions of the other one. -/
theorem waitingFrom_home {lib : JsonLib} {cluster : Cluster} {side : Side} {tasks : List NotifyRequest} {origins : List Origin}
    (asked : List.Forall₂ (AskedWith lib cluster side) tasks origins) {sender : Peer} (home : sender.1 = side) :
    waitingFrom sender origins = [] := by
  induction asked with
  | nil => rfl
  | @cons task origin tasks origins first _ ih =>
    have apart : origin.sender ≠ sender := by
      intro here
      have other : sender.1 = side.other := here ▸ first.1
      exact other_ne side (other.symm.trans home)
    simp only [waitingFrom, List.filterMap_cons, if_neg apart] at ih ⊢
    exact ih

theorem asked_next {side : Side} {task : NotifyRequest} {origin : Origin}
    (reached : Transition.Reachable (Cluster.step externals) (.start stores name) monitored.cluster)
    (taken : monitored.cluster.step externals act = some after) (asked : AskedWith externals.lib monitored.cluster side task origin) :
    AskedWith externals.lib after side task origin := by
  obtain ⟨home, frame, notice, told, here, known, same⟩ := asked
  exact ⟨home, frame, notice, told, framesOf_grows reached taken here, known, same⟩

theorem nextTasks_other {side : Side} (noArrival : act ≠ .arrive side.other) (noRun : act ≠ .runTask side) :
    monitored.nextTasks act side = monitored.tasks side := by
  unfold Monitored.nextTasks
  split
  · rename_i caller
    have apart : side ≠ caller.other := by
      rintro rfl
      rw [other_other] at noArrival
      exact noArrival rfl
    exact if_neg apart
  · rename_i which
    have apart : side ≠ which := fun here => noRun (congrArg ClusterAct.runTask here.symm)
    exact if_neg apart
  · rfl

theorem onTasks_false (quiet : onTasks act = false) (side : Side) : act ≠ .arrive side ∧ act ≠ .runTask side := by
  constructor <;> rintro rfl <;> cases quiet

/-- The tasks of a server that a step does not touch. -/
theorem same_tasks (reached : Transition.Reachable (Cluster.step externals) (.start stores name) monitored.cluster)
    (taken : monitored.cluster.step externals act = some after) (inOrder : InOrder externals.lib monitored) {side : Side}
    (noArrival : act ≠ .arrive side.other) (noRun : act ≠ .runTask side) :
    List.Forall₂ (AskedWith externals.lib after side) (after.server side).tasks (monitored.nextTasks act side) := by
  rw [nextTasks_other noArrival noRun]
  rcases step_tasks taken side with same | ⟨_, here, _⟩ | ⟨here, _⟩
  · rw [same]
    exact (inOrder.tasks side).imp fun _ _ => asked_next reached taken
  · exact absurd here noArrival
  · exact absurd here noRun

theorem next_tasks (reached : Transition.Reachable (Cluster.step externals) (.start stores name) monitored.cluster)
    (taken : monitored.cluster.step externals act = some after) (inOrder : InOrder externals.lib monitored)
    (chats : ChatStep externals monitored.cluster act after) (side : Side) :
    List.Forall₂ (AskedWith externals.lib after side) (after.server side).tasks (monitored.nextTasks act side) := by
  cases chats with
  | silent quiet _ => exact same_tasks reached taken inOrder (onTasks_false quiet _).1 (onTasks_false quiet _).2
  | chat quiet _ _ _ _ _ _ _ _ => exact same_tasks reached taken inOrder (onTasks_false quiet _).1 (onTasks_false quiet _).2
  | @posts caller addr frame told notice same _ blocked _ last known posted _ _ =>
    subst same
    by_cases here : side = caller.other
    · subst here
      have asked : AskedWith externals.lib monitored.cluster caller.other notice.remote
          (lastOf monitored.cluster (caller, addr)) := by
        refine ⟨(other_other caller).symm, frame, notice, told, ?_, known, rfl⟩
        rw [← last, List.getLast?_eq_getElem?]
        rfl
      have before := (inOrder.tasks caller.other).imp fun _ _ => asked_next reached taken
      rw [posted, Monitored.nextTasks, if_pos rfl, blocked]
      exact List.rel_append before (.cons (asked_next reached taken asked) .nil)
    · refine same_tasks reached taken inOrder ?_ ClusterAct.noConfusion
      intro same
      cases ClusterAct.arrive.inj same
      exact here (other_other side).symm
  | @runs which request same run _ =>
    subst same
    by_cases here : side = which
    · subst here
      have before := (inOrder.tasks side).imp fun _ _ => asked_next reached taken
      rw [run] at before
      rw [Monitored.nextTasks, if_pos rfl]
      generalize monitored.tasks side = origins at before ⊢
      cases before with
      | cons _ rest => exact rest
    · refine same_tasks reached taken inOrder ClusterAct.noConfusion ?_
      intro same
      exact here (ClusterAct.runTask.inj same).symm

/-! ### The numbers in the queues -/

/-- The numbers in the queues when no queue gets a chat frame. -/
theorem same_out (reached : Transition.Reachable (Cluster.step externals) (.start stores name) monitored.cluster)
    (taken : monitored.cluster.step externals act = some after) (same : queues after = queues monitored.cluster)
    (sender receiver : Peer) : (monitored.next act after).passage.out sender receiver = monitored.passage.out sender receiver := by
  refine (next_numbers sender receiver).trans ?_
  rw [no_chats reached taken same]
  exact List.append_nil _

/-- The numbers in the queues when one queue gets a chat frame. -/
theorem more_out (reached : Transition.Reachable (Cluster.step externals) (.start stores name) monitored.cluster)
    (taken : monitored.cluster.step externals act = some after) {receiver : Peer} {message : ChannelMessage} {origin : Origin}
    (chat : isChat message = true) (gets : Gets (queues monitored.cluster) (queues after) receiver message)
    (stems : monitored.origin act after = some origin) (source target : Peer) :
    (monitored.next act after).passage.out source target =
      if source = origin.sender ∧ target = receiver then monitored.passage.out source target ++ [origin.number]
      else monitored.passage.out source target := by
  refine (next_numbers source target).trans ?_
  rw [one_chat reached taken gets, stems]
  by_cases there : target = receiver
  · by_cases here : source = origin.sender
    · simp [numbersFrom, Monitored.passage, there, here, chat]
    · simp [numbersFrom, Monitored.passage, there, here, Ne.symm here, chat]
  · simp [numbersFrom, Monitored.passage, there]

/-! ### The numbers that wait -/

theorem waitingFrom_append (sender : Peer) (tasks : List Origin) (origin : Origin) : waitingFrom sender (tasks ++ [origin]) =
    if sender = origin.sender then waitingFrom sender tasks ++ [origin.number] else waitingFrom sender tasks := by
  by_cases here : sender = origin.sender
  · simp [waitingFrom, List.filterMap_append, here]
  · simp [waitingFrom, List.filterMap_append, here, Ne.symm here]

theorem waitingFrom_tail (sender : Peer) (origin : Origin) (rest : List Origin) : waitingFrom sender rest =
    if sender = origin.sender then (waitingFrom sender (origin :: rest)).tail else waitingFrom sender (origin :: rest) := by
  by_cases here : sender = origin.sender
  · simp [waitingFrom, here]
  · simp [waitingFrom, here, Ne.symm here]

theorem same_waiting (quiet : onTasks act = false) (sender : Peer) (place : Side) :
    (monitored.next act after).passage.waiting sender place = monitored.passage.waiting sender place :=
  congrArg (waitingFrom sender) (nextTasks_other (onTasks_false quiet _).1 (onTasks_false quiet _).2)

theorem posted_waiting {side : Side} {addr : Addr} (blocked : (monitored.cluster.server side).blocked = some addr)
    (sender : Peer) (place : Side) : (monitored.next (.arrive side) after).passage.waiting sender place =
      (monitored.passage.enter (side, addr) side.other (lastOf monitored.cluster (side, addr)).number).waiting sender place := by
  by_cases here : place = side.other
  · have tasks : monitored.nextTasks (.arrive side) place = monitored.tasks place ++ [lastOf monitored.cluster (side, addr)] := by
      rw [Monitored.nextTasks, if_pos here, blocked]
      rfl
    refine (congrArg (waitingFrom sender) tasks).trans ((waitingFrom_append _ _ _).trans ?_)
    simp only [Passage.enter, here, and_true]
    rfl
  · have tasks : monitored.nextTasks (.arrive side) place = monitored.tasks place := if_neg here
    refine (congrArg (waitingFrom sender) tasks).trans ?_
    simp only [Passage.enter, here, and_false, if_false]
    rfl

theorem run_waiting {side : Side} {origin : Origin} {rest : List Origin} (line : monitored.tasks side = origin :: rest)
    (sender : Peer) (place : Side) : (monitored.next (.runTask side) after).passage.waiting sender place =
      (monitored.passage.leave origin.sender side).waiting sender place := by
  by_cases here : place = side
  · subst here
    have left : monitored.nextTasks (.runTask place) place = rest := by
      rw [Monitored.nextTasks, if_pos rfl, line]
      rfl
    refine (congrArg (waitingFrom sender) left).trans ((waitingFrom_tail sender origin rest).trans ?_)
    simp only [Passage.leave, and_true]
    rw [← line]
    rfl
  · have left : monitored.nextTasks (.runTask side) place = monitored.tasks place := if_neg here
    refine (congrArg (waitingFrom sender) left).trans ?_
    simp only [Passage.leave, here, and_false, if_false]
    rfl

/-- The chat frame of a task is one that the frame may come to which the task was asked for with. -/
theorem task_chat {lib : JsonLib} {cluster : Cluster} {side : Side} (receiver : Addr) {request : NotifyRequest} {origin : Origin}
    (asked : AskedWith lib cluster side request origin) (chat : isChat { msg := (notified request).frame } = true) :
    ∃ frame, (framesOf cluster origin.sender)[origin.number]? = some frame ∧
      ChatOf lib frame origin.sender (side, receiver) { msg := (notified request).frame } := by
  obtain ⟨home, frame, notice, told, position, known, rfl⟩ := asked
  have remote : notice.arriving origin.sender.1 side = notified notice.remote := by
    rw [home, AcceptedRequest.arriving, if_neg (other_ne side)]
  rw [← remote] at chat ⊢
  obtain ⟨request, rfl⟩ := arriving_chat chat
  refine ⟨frame, position, .notice request known ?_ rfl⟩
  intro same
  rw [← same] at home
  exact ne_other side home

/-! ### The steps -/

section Step

variable (reached : Transition.Reachable (Cluster.step externals) (.start stores name) monitored.cluster)
  (taken : monitored.cluster.step externals act = some after) (inOrder : InOrder externals.lib monitored)

include reached taken inOrder

/-- What a step has to show that puts no chat frame anywhere. -/
theorem of_same (chats : ChatStep externals monitored.cluster act after) (same : queues after = queues monitored.cluster)
    (orderly : (monitored.next act after).passage.Orderly Prod.fst (Spent after)) : InOrder externals.lib (monitored.next act after) := by
  refine ⟨next_messages reached taken inOrder, next_origins reached taken inOrder ?_, next_tasks reached taken inOrder chats, orderly,
    new_fed reached taken inOrder⟩
  intro receiver message member
  rw [no_chats reached taken same] at member
  cases member

/-- What a step has to show that puts one chat frame into a queue. -/
theorem of_one (chats : ChatStep externals monitored.cluster act after) {receiver : Peer} {message : ChannelMessage} {origin : Origin}
    {frame : MsgNode} (gets : Gets (queues monitored.cluster) (queues after) receiver message)
    (stems : monitored.origin act after = some origin) (position : (framesOf after origin.sender)[origin.number]? = some frame)
    (source : ChatOf externals.lib frame origin.sender receiver message)
    (orderly : (monitored.next act after).passage.Orderly Prod.fst (Spent after)) : InOrder externals.lib (monitored.next act after) := by
  refine ⟨next_messages reached taken inOrder, next_origins reached taken inOrder ?_, next_tasks reached taken inOrder chats, orderly,
    new_fed reached taken inOrder⟩
  intro target other member
  rw [one_chat reached taken gets] at member
  split at member
  · rename_i here
    rw [List.mem_singleton.mp member, here]
    exact ⟨origin, frame, stems, position, source⟩
  · cases member

theorem silent (quiet : onTasks act = false) (same : queues after = queues monitored.cluster) :
    InOrder externals.lib (monitored.next act after) := by
  apply of_same reached taken inOrder (.silent quiet same) same
  have passage : (monitored.next act after).passage = monitored.passage :=
    Passage.ext (funext₂ (same_out reached taken same)) (funext₂ (same_waiting quiet))
  rw [passage]
  exact inOrder.orderly.mono (spent_grows reached taken)

/-- A chat frame of the sender's own server: its number is the last one, and no other chat frame has it. -/
theorem chat {sender receiver : Peer} {message : ChannelMessage} {frame : MsgNode} (quiet : onTasks act = false)
    (acts : actor monitored.cluster act = some sender) (home : sender.1 = receiver.1) (chat : isChat message = true)
    (gets : Gets (queues monitored.cluster) (queues after) receiver message)
    (last : (framesOf after sender).getLast? = some frame) (source : ChatOf externals.lib frame sender receiver message)
    (later : ∀ number, Spent monitored.cluster sender number → number + 1 < (framesOf after sender).length)
    (through : ¬ Due after sender) : InOrder externals.lib (monitored.next act after) := by
  have chats : ChatStep externals monitored.cluster act after := .chat quiet acts home chat gets last source later through
  have stems : monitored.origin act after = some (lastOf after sender) := by
    unfold Monitored.origin
    split
    · cases quiet
    · rw [acts]
      rfl
  have position : (framesOf after sender)[(lastOf after sender).number]? = some frame := by
    rw [← last, List.getLast?_eq_getElem?]
    rfl
  apply of_one reached taken inOrder chats gets stems position source
  have passage : (monitored.next act after).passage = monitored.passage.emit sender receiver (lastOf after sender).number :=
    Passage.ext (funext₂ (more_out reached taken chat gets stems)) (funext₂ (same_waiting quiet))
  rw [passage]
  apply inOrder.orderly.emit (spent_grows reached taken)
  · intro number spent
    have before := later number spent
    show number < (framesOf after sender).length - 1
    omega
  · obtain ⟨below, _⟩ := List.getElem?_eq_some_iff.mp position
    exact ⟨below, fun due => absurd due through⟩
  · exact waitingFrom_home (inOrder.tasks receiver.1) home

/-- A request arrives: the number of the last frame of its caller waits with the task. -/
theorem posts {side : Side} {addr : Addr} {frame : MsgNode} {told : Ledger} {notice : AcceptedRequest} (arrives : act = .arrive side)
    (same : queues after = queues monitored.cluster) (blocked : (monitored.cluster.server side).blocked = some addr)
    (frames : framesOf after (side, addr) = framesOf monitored.cluster (side, addr))
    (last : (framesOf monitored.cluster (side, addr)).getLast? = some frame) (known : notice.From externals.lib frame told)
    (posted : (after.server side.other).tasks = (monitored.cluster.server side.other).tasks ++ [notice.remote])
    (due : Due monitored.cluster (side, addr)) (through : ¬ Due after (side, addr)) :
    InOrder externals.lib (monitored.next act after) := by
  subst arrives
  have chats : ChatStep externals monitored.cluster (.arrive side) after :=
    .posts notice rfl same blocked frames last known posted due through
  apply of_same reached taken inOrder chats same
  have passage : (monitored.next (.arrive side) after).passage =
      monitored.passage.enter (side, addr) side.other (lastOf monitored.cluster (side, addr)).number :=
    Passage.ext (funext₂ (same_out reached taken same)) (funext₂ (posted_waiting blocked))
  rw [passage]
  apply inOrder.orderly.enter (spent_grows reached taken)
  · intro number spent
    have before := spent.2 due
    show number < (framesOf monitored.cluster (side, addr)).length - 1
    omega
  · have some : 0 < (framesOf monitored.cluster (side, addr)).length := List.length_pos_of_mem (List.mem_of_getLast? last)
    refine ⟨?_, fun due => absurd due through⟩
    rw [frames]
    exact Nat.sub_lt some Nat.one_pos

/-- A task is run: the number that waited with it comes out with its chat frame, or nowhere. -/
theorem runs {side : Side} {request : NotifyRequest} (runs : act = .runTask side)
    (tasks : (monitored.cluster.server side).tasks = request :: (after.server side).tasks)
    (ends : queues after = queues monitored.cluster ∨ ∃ receiver, isChat { msg := (notified request).frame } = true ∧
      Gets (queues monitored.cluster) (queues after) (side, receiver) { msg := (notified request).frame }) :
    InOrder externals.lib (monitored.next act after) := by
  subst runs
  have chats : ChatStep externals monitored.cluster (.runTask side) after := .runs request rfl tasks ends
  have before := inOrder.tasks side
  rw [tasks] at before
  obtain ⟨origin, rest, asked, _, line⟩ := List.forall₂_cons_left_iff.mp before
  rcases ends with same | ⟨receiver, chat, gets⟩
  · apply of_same reached taken inOrder chats same
    have passage : (monitored.next (.runTask side) after).passage = monitored.passage.leave origin.sender side :=
      Passage.ext (funext₂ (same_out reached taken same)) (funext₂ (run_waiting line))
    rw [passage]
    exact inOrder.orderly.leave.mono (spent_grows reached taken)
  · have stems : monitored.origin (.runTask side) after = some origin := by
      rw [Monitored.origin, line]
      rfl
    obtain ⟨frame, position, source⟩ := task_chat receiver asked chat
    apply of_one reached taken inOrder chats gets stems (framesOf_grows reached taken position) source
    have passage : (monitored.next (.runTask side) after).passage =
        (monitored.passage.leave origin.sender side).emit origin.sender (side, receiver) origin.number :=
      Passage.ext (funext₂ (more_out reached taken chat gets stems)) (funext₂ (run_waiting line))
    have first : monitored.passage.waiting origin.sender (Prod.fst (side, receiver)) =
        origin.number :: waitingFrom origin.sender rest := by
      show waitingFrom origin.sender (monitored.tasks side) = _
      rw [line]
      simp [waitingFrom]
    rw [passage]
    exact (inOrder.orderly.pass first).mono (spent_grows reached taken)

end Step

theorem step (reached : Transition.Reachable (Cluster.step externals) (.start stores name) monitored.cluster)
    (taken : monitored.step externals act = some later) (inOrder : InOrder externals.lib monitored) : InOrder externals.lib later := by
  obtain ⟨after, first, same⟩ := Option.map_eq_some_iff.mp taken
  rw [← same]
  cases step_chats reached first with
  | silent quiet same => exact silent reached first inOrder quiet same
  | chat quiet acts home chat gets last chats later through =>
    exact InOrder.chat reached first inOrder quiet acts home chat gets last chats later through
  | posts notice arrives same blocked frames last known posted due through =>
    exact posts reached first inOrder arrives same blocked frames last known posted due through
  | runs request runs tasks ends => exact InOrder.runs reached first inOrder runs tasks ends

end InOrder

section Order

variable {externals : Externals} {stores : Stores} {name : Side → String} {monitored later : Monitored} {acts : List ClusterAct}

/-- What was sent is what the steps say. -/
theorem run_sent (run : Transition.Run (Monitored.step externals) monitored acts later) (peer : Peer) :
    later.sent peer = monitored.sent peer ++ acts.flatMap (sentIn peer) := by
  induction run with
  | nil monitored => exact (List.append_nil _).symm
  | @cons monitored middle later act acts taken _ ih =>
    obtain ⟨after, _, same⟩ := Option.map_eq_some_iff.mp taken
    have sent : middle.sent peer = monitored.sent peer ++ sentIn peer act := by rw [← same]; rfl
    rw [ih, sent, List.flatMap_cons, List.append_assoc]

theorem run_inOrder (run : Transition.Run (Monitored.step externals) (.start stores name) acts monitored) :
    InOrder externals.lib monitored := by
  have keeps : ∀ (monitored : Monitored) (act : ClusterAct) (later : Monitored),
      Transition.Reachable (Cluster.step externals) (.start stores name) monitored.cluster ∧ InOrder externals.lib monitored →
      monitored.step externals act = some later →
      Transition.Reachable (Cluster.step externals) (.start stores name) later.cluster ∧ InOrder externals.lib later := by
    intro monitored act later holds taken
    have first : monitored.cluster.step externals act = some later.cluster := by
      rw [← monitored_step, taken]
      rfl
    exact ⟨holds.1.next first, InOrder.step holds.1 taken holds.2⟩
  exact (run.invariant keeps ⟨.refl _, .start externals.lib⟩).2

/-- What is written is what has been in the queue longest. -/
theorem written_queue (reached : Transition.Reachable (Cluster.step externals) (.start stores name) monitored.cluster)
    (inOrder : InOrder externals.lib monitored) (peer : Peer) :
    (monitored.written peer).map Prod.fst = writtenAt monitored.cluster peer := by
  obtain ⟨alone, acts, run⟩ := server_reachable reached peer.1
  obtain ⟨held, placed, _⟩ := ((run_outgoing run).2.flows peer.2).flow
  unfold Monitored.written
  rw [List.map_take, inOrder.messages]
  have front : acceptedAt monitored.cluster peer = writtenAt monitored.cluster peer ++
      (held ++ ((monitored.cluster.server peer.1).session peer.2).channel.toList) := placed.trans (List.append_assoc _ _ _)
  rw [front, List.take_left]

theorem numbersFrom_sublist (sender : Peer) {first second : List (ChannelMessage × Option Origin)} (sub : first.Sublist second) :
    (numbersFrom sender first).Sublist (numbersFrom sender second) := sub.filterMap _

end Order

/-- The writer of a session writes two messages. -/
def writesTwo (side : Side) (addr : Addr) : List ClusterAct :=
  [.own side (.startWriter addr), .own side (.resumeWriter addr), .own side (.writeDone addr), .own side (.resumeWriter addr),
    .own side (.resumeWriter addr), .own side (.writeDone addr)]

end ChatProof
