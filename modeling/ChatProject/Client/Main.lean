import ChatProject.Client.ParseLine
import ChatProject.Message.Buffer
import ChatProject.Message.Stream

/-! The manual client: a line is sent as a frame, and a frame is awaited, before the next line. -/

namespace ChatModel

namespace Client

/-- Why the loop ends before the input does. -/
inductive Failure where
  | tooLarge
  | sendError
  | serverClosed
  | recvError
  | invalidHeader
deriving DecidableEq, Repr

/-- The server: what it sends before the connection ends, whether it is closed then, and which writes fail after how many bytes. -/
structure Peer where
  sends : Bytes
  closes : Bool := true
  fails : Nat → Option Nat := fun _ => none

def Peer.ending (peer : Peer) : Failure := if peer.closes then .serverClosed else .recvError

/-- The socket, and the lines that are printed for what has been sent and received. -/
structure State where
  outgoing : Bytes := []
  coming : Bytes
  sent : List (UInt32 × Bytes) := []
  printed : List (UInt32 × Bytes) := []
  stopped : Option Failure := none
deriving DecidableEq, Repr

def State.stop (failure : Failure) (state : State) : State := { state with stopped := some failure }

/-- `send_message`: a write fails before it is through. -/
def send (peer : Peer) (id : UInt32) (body : Bytes) (state : State) : Bool × State :=
  let (ok, node) := sendMessage id body
  if ok = false then (false, state.stop .tooLarge)
  else
    match peer.fails state.sent.length with
    | some size => (false, { state with outgoing := state.outgoing ++ node.wire.take (min size (node.wire.length - 1)) }.stop .sendError)
    | none => (true, { state with outgoing := state.outgoing ++ node.wire, sent := state.sent ++ [(id, body)] })

/-- `recv_and_print`. -/
def recvAndPrint (peer : Peer) (state : State) : Bool × State :=
  if state.coming.length < prefixLen then (false, state.stop peer.ending)
  else
    let (ok, node) := (({} : MsgNode).write 0 (state.coming.take prefixLen)).decodeHeader
    if ok = false then (false, state.stop .invalidHeader)
    else
      let size := node.bodyLength.toInt.toNat
      let rest := state.coming.drop prefixLen
      if rest.length < size then (false, state.stop peer.ending)
      else
        let node := node.write prefixLen (rest.take size)
        (true, { state with coming := rest.drop size, printed := state.printed ++ [(node.id, node.body)] })

def exitLine : Bytes := bytesOf "exit"

def isComment (line : Bytes) : Bool := line.head? = some 35

/-- The loop of `main` over the lines of the input. -/
def mainLoop (interactive : Bool) (peer : Peer) : List Bytes → State → State
  | [], state => state
  | line :: lines, state =>
    if interactive ∧ line = exitLine then state
    else if line = [] ∨ isComment line then mainLoop interactive peer lines state
    else
      let result := parseLine line 0 []
      if result.accepted = false then mainLoop interactive peer lines state
      else
        let (done, state) := send peer result.id result.body state
        if done = false then state
        else
          let (done, state) := recvAndPrint peer state
          if done = false then state else mainLoop interactive peer lines state

/-- `std::getline`, over and over: behind the last line end there is only a line if there is something. -/
def getlines (line : Bytes) : Bytes → List Bytes
  | [] => if line = [] then [] else [line]
  | c :: input => if c = 10 then line :: getlines [] input else getlines (line ++ [c]) input

def main (interactive : Bool) (input : Bytes) (peer : Peer) : State :=
  mainLoop interactive peer (getlines [] input) { coming := peer.sends }

end Client

end ChatModel

namespace ChatProof

open ChatModel ChatModel.Client

/-! ## What is to be sent -/

/-- The frame that a line stands for. -/
def requestOf (line : Bytes) : Option (UInt32 × Bytes) :=
  if line = [] ∨ isComment line then none
  else if (parseLine line 0 []).accepted then some ((parseLine line 0 []).id, (parseLine line 0 []).body) else none

def requests (interactive : Bool) : List Bytes → List (UInt32 × Bytes)
  | [] => []
  | line :: lines => if interactive ∧ line = exitLine then [] else (requestOf line).toList ++ requests interactive lines

theorem parseLine_body (line : Bytes) (id : UInt32) : (parseLine line id []).body.length ≤ line.length := by
  unfold parseLine
  split
  · exact Nat.zero_le _
  · dsimp only
    split
    · split <;> simp
    · simp

/-! ## One frame out, one frame in -/

section Frames

variable {peer : Peer} {state : State}

theorem sendMessage_wire (id : UInt32) {body : Bytes} (small : body.length ≤ maxLength) :
    (sendMessage id body).1 = true ∧ (sendMessage id body).2.wire = frameBytes (id, body) := by
  have accepted := setBodyLength_small { id : MsgNode } small
  unfold sendMessage
  rw [accepted]
  refine ⟨rfl, ?_⟩
  have fits : (header id body.length ++ body).length ≤ (List.replicate dataSize (0 : UInt8)).length := by
    rw [List.length_append, header_length, List.length_replicate]
    unfold dataSize
    omega
  have whole : (header id body.length).length + body.length ≤ (List.replicate dataSize (0 : UInt8)).length := by
    rw [← List.length_append]
    exact fits
  have data : (({ id, bodyLength := Int32.ofNat body.length } : MsgNode).encodeHeader.write prefixLen body).data =
      memcpy (List.replicate dataSize 0) 0 (header id body.length ++ body) := by
    rw [MsgNode.write_data, encodeHeader_data]
    dsimp only
    have copies := memcpy_memcpy_start whole
    rw [header_length] at copies
    rw [size_word small]
    exact copies
  show (({ id, bodyLength := Int32.ofNat body.length } : MsgNode).encodeHeader.write prefixLen body).wire = _
  rw [MsgNode.wire, length_toNat small (by rfl), data, memcpy_start fits, List.take_left']
  · rfl
  · rw [List.length_append, header_length]

theorem sendMessage_large (id : UInt32) {body : Bytes} (large : maxLength < body.length) (fits : body.length < 2 ^ 31) :
    (sendMessage id body).1 = false := by
  rcases sendMessage_cases id body with ⟨small, _⟩ | ⟨_, _, same⟩ | ⟨high, _⟩
  · omega
  · rw [same]
  · omega

/-- A frame of which the end is missing. -/
theorem halts_cut {frame : UInt32 × Bytes} (small : Fits frame) {size : Nat} (cut : size < (frameBytes frame).length) :
    Halts ((frameBytes frame).take size) := by
  rw [frameBytes, List.length_append, header_length] at cut
  by_cases early : size < prefixLen
  · apply Halts.cutHeader
    rw [List.length_take]
    omega
  · have split : (frameBytes frame).take size = header frame.1 frame.2.length ++ frame.2.take (size - prefixLen) := by
      rw [frameBytes, List.take_append, header_length, List.take_of_length_le]
      rw [header_length]
      omega
    rw [split]
    apply Halts.cutBody frame.1 small
    rw [List.length_take]
    omega

/-- A frame has been written as a whole. -/
def wrote (request : UInt32 × Bytes) (state : State) : State :=
  { state with outgoing := state.outgoing ++ frameBytes request, sent := state.sent ++ [request] }

/-- What comes of sending a line. -/
inductive Sends (peer : Peer) (id : UInt32) (body : Bytes) (state : State) : Bool × State → Prop
  | large : maxLength < body.length → Sends peer id body state (false, state.stop .tooLarge)
  | broken {size : Nat} : Fits (id, body) → peer.fails state.sent.length ≠ none → size < (frameBytes (id, body)).length →
      Sends peer id body state
        (false, { state with outgoing := state.outgoing ++ (frameBytes (id, body)).take size }.stop .sendError)
  | through : Fits (id, body) → Sends peer id body state (true, wrote (id, body) state)

theorem send_sends (peer : Peer) (id : UInt32) {body : Bytes} (short : body.length < 2 ^ 31) (state : State) :
    Sends peer id body state (send peer id body state) := by
  unfold send
  by_cases small : body.length ≤ maxLength
  · obtain ⟨accepted, wire⟩ := sendMessage_wire id small
    dsimp only
    rw [accepted, if_neg (by decide), wire]
    cases fails : peer.fails state.sent.length with
    | none => exact .through small
    | some size =>
      apply Sends.broken small
      · rw [fails]
        exact Option.some_ne_none size
      · rw [frameBytes, List.length_append, header_length]
        have positive : 0 < prefixLen := by decide
        omega
  · have large := Nat.lt_of_not_le small
    dsimp only
    rw [sendMessage_large id large short, if_pos rfl]
    exact .large large

/-- The client takes a frame off the stream where the server would. -/
theorem recvAndPrint_some {node : MsgNode} {rest : Bytes} (taken : MsgNode.receive state.coming = some (node, rest)) :
    recvAndPrint peer state = (true, { state with coming := rest, printed := state.printed ++ [content node] }) := by
  unfold MsgNode.receive at taken
  unfold recvAndPrint
  split at taken
  · cases taken
  · rename_i enough
    rw [if_neg enough]
    dsimp only at taken ⊢
    generalize (({} : MsgNode).write 0 (state.coming.take prefixLen)).decodeHeader = decoded at taken ⊢
    split at taken
    · cases taken
    · rename_i fits
      rw [not_or] at fits
      rw [if_neg fits.1, if_neg fits.2]
      cases taken
      rfl

theorem recvAndPrint_none (stuck : MsgNode.receive state.coming = none) :
    ∃ failure, recvAndPrint peer state = (false, state.stop failure) ∧ failure ≠ .tooLarge ∧ failure ≠ .sendError := by
  have ends : peer.ending ≠ .tooLarge ∧ peer.ending ≠ .sendError := by
    unfold Peer.ending
    split <;> decide
  unfold MsgNode.receive at stuck
  unfold recvAndPrint
  split at stuck
  · rename_i short
    exact ⟨peer.ending, if_pos short, ends⟩
  · rename_i enough
    rw [if_neg enough]
    dsimp only at stuck ⊢
    generalize (({} : MsgNode).write 0 (state.coming.take prefixLen)).decodeHeader = decoded at stuck ⊢
    split at stuck
    · rename_i fails
      by_cases invalid : decoded.1 = false
      · exact ⟨.invalidHeader, if_pos invalid, by decide⟩
      · rw [if_neg invalid, if_pos (fails.resolve_left invalid)]
        exact ⟨peer.ending, rfl, ends⟩
    · cases stuck

end Frames

/-! ## The loop -/

/-- Nothing has gone wrong so far: what has been sent is on the wire, and each frame of it has been answered. -/
structure InStep (peer : Peer) (state : State) : Prop where
  fits : ∀ request ∈ state.sent, Fits request
  wire : state.outgoing = state.sent.flatMap frameBytes
  printed : ∃ nodes, frameReader.Takes peer.sends nodes state.coming ∧ nodes.map content = state.printed
  paired : state.printed.length = state.sent.length
  running : state.stopped = none

/-- Where the loop ends, with this to be sent. -/
structure LockStep (peer : Peer) (asked : List (UInt32 × Bytes)) (state : State) : Prop where
  sent : state.sent <+: asked
  /-- what a server reads off the wire -/
  wire : (received state.outgoing).1 = state.sent
  printed : state.printed <+: (received peer.sends).1
  paired : state.printed.length ≤ state.sent.length ∧ state.sent.length ≤ state.printed.length + 1
  finished : state.stopped = none → state.sent = asked ∧ state.printed.length = state.sent.length
  large : state.stopped = some .tooLarge → ∃ request, state.sent ++ [request] <+: asked ∧ maxLength < request.2.length
  broken : state.stopped = some .sendError → peer.fails state.sent.length ≠ none
  starved : ∀ failure, state.stopped = some failure → failure ≠ .tooLarge → failure ≠ .sendError →
    state.printed = (received peer.sends).1 ∧ state.sent.length = state.printed.length + 1

section Loop

variable {peer : Peer} {state : State}

theorem InStep.prefix_printed (inStep : InStep peer state) : state.printed <+: (received peer.sends).1 := by
  obtain ⟨nodes, takes, same⟩ := inStep.printed
  have all := congrArg (List.map content) takes.readAll
  rw [List.map_append, same] at all
  exact ⟨_, all.symm⟩

theorem received_sent {sent : List (UInt32 × Bytes)} {rest : Bytes} (fits : ∀ request ∈ sent, Fits request) (halts : Halts rest) :
    (received (sent.flatMap frameBytes ++ rest)).1 = sent := by
  rw [received_frames fits halts]

theorem InStep.received_wire (inStep : InStep peer state) : (received state.outgoing).1 = state.sent := by
  have all := received_sent inStep.fits (.cutHeader (by decide : ([] : Bytes).length < prefixLen))
  rw [List.append_nil, ← inStep.wire] at all
  exact all

theorem InStep.finish (inStep : InStep peer state) : LockStep peer state.sent state where
  sent := List.prefix_refl _
  wire := inStep.received_wire
  printed := inStep.prefix_printed
  paired := by
    have paired := inStep.paired
    omega
  finished _ := ⟨rfl, inStep.paired⟩
  large stopped := by
    rw [inStep.running] at stopped
    cases stopped
  broken stopped := by
    rw [inStep.running] at stopped
    cases stopped
  starved failure stopped := by
    rw [inStep.running] at stopped
    cases stopped

/-- The next line cannot be sent. -/
theorem InStep.stop (inStep : InStep peer state) (failure : Failure) {cut : Bytes} (more : List (UInt32 × Bytes)) (halts : Halts cut)
    (large : failure = .tooLarge → ∃ request, [request] <+: more ∧ maxLength < request.2.length)
    (broken : failure = .sendError → peer.fails state.sent.length ≠ none) (sending : failure = .tooLarge ∨ failure = .sendError) :
    LockStep peer (state.sent ++ more) ({ state with outgoing := state.outgoing ++ cut }.stop failure) where
  sent := List.prefix_append _ _
  wire := by
    show (received (state.outgoing ++ cut)).1 = state.sent
    rw [inStep.wire]
    exact received_sent inStep.fits halts
  printed := inStep.prefix_printed
  paired := by
    have paired := inStep.paired
    show state.printed.length ≤ state.sent.length ∧ state.sent.length ≤ state.printed.length + 1
    omega
  finished stopped := by cases stopped
  large stopped := by
    obtain ⟨request, first, long⟩ := large (Option.some.inj stopped)
    exact ⟨request, (List.prefix_append_right_inj _).mpr first, long⟩
  broken stopped := broken (Option.some.inj stopped)
  starved other stopped first second := by
    cases Option.some.inj stopped
    exact absurd sending (by simp [first, second])

/-- A line has been sent, and the server has no frame for it. -/
theorem InStep.starve (inStep : InStep peer state) {failure : Failure} {request : UInt32 × Bytes} (fits : Fits request)
    (more : List (UInt32 × Bytes)) (stuck : MsgNode.receive state.coming = none) (waiting : failure ≠ .tooLarge ∧ failure ≠ .sendError) :
    LockStep peer (state.sent ++ request :: more) ((wrote request state).stop failure) where
  sent := ⟨more, by simp [State.stop, wrote]⟩
  wire := by
    have all : ∀ other ∈ state.sent ++ [request], Fits other := by
      intro other member
      rcases List.mem_append.mp member with old | new
      · exact inStep.fits other old
      · rw [List.mem_singleton.mp new]
        exact fits
    have whole := received_sent all (.cutHeader (by decide : ([] : Bytes).length < prefixLen))
    rw [List.append_nil, List.flatMap_append, List.flatMap_singleton, ← inStep.wire] at whole
    exact whole
  printed := inStep.prefix_printed
  paired := by
    have paired := inStep.paired
    simp only [State.stop, wrote, List.length_append, List.length_singleton]
    omega
  finished stopped := by cases stopped
  large stopped := absurd (Option.some.inj stopped) waiting.1
  broken stopped := absurd (Option.some.inj stopped) waiting.2
  starved other stopped _ _ := by
    obtain ⟨nodes, takes, same⟩ := inStep.printed
    have nothing : frameReader.readAll state.coming = ([], state.coming) := StreamReader.readAll_none stuck
    have all := congrArg (List.map content) takes.readAll
    rw [nothing, List.append_nil, same] at all
    refine ⟨all.symm, ?_⟩
    simp [State.stop, wrote, inStep.paired]

theorem InStep.next (inStep : InStep peer state) {request : UInt32 × Bytes} (fits : Fits request) {node : MsgNode} {rest : Bytes}
    (taken : MsgNode.receive state.coming = some (node, rest)) :
    InStep peer { wrote request state with coming := rest, printed := state.printed ++ [content node] } := by
  obtain ⟨nodes, takes, same⟩ := inStep.printed
  constructor
  · intro other member
    rcases List.mem_append.mp member with old | new
    · exact inStep.fits other old
    · rw [List.mem_singleton.mp new]
      exact fits
  · simp only [wrote, List.flatMap_append, List.flatMap_singleton, inStep.wire]
  · refine ⟨nodes ++ [node], takes.next taken, ?_⟩
    rw [List.map_append, same]
    rfl
  · simp [wrote, inStep.paired]
  · exact inStep.running

theorem mainLoop_lockStep (interactive : Bool) {lines : List Bytes} (short : ∀ line ∈ lines, line.length < 2 ^ 31)
    (inStep : InStep peer state) : LockStep peer (state.sent ++ requests interactive lines) (mainLoop interactive peer lines state) := by
  induction lines generalizing state with
  | nil =>
    rw [requests, List.append_nil]
    exact inStep.finish
  | cons line lines ih =>
    obtain ⟨here, later⟩ := List.forall_mem_cons.mp short
    unfold mainLoop requests
    by_cases leaves : interactive = true ∧ line = exitLine
    · rw [if_pos leaves, if_pos leaves, List.append_nil]
      exact inStep.finish
    rw [if_neg leaves, if_neg leaves]
    by_cases comment : line = [] ∨ isComment line = true
    · rw [if_pos comment, requestOf, if_pos comment]
      exact ih later inStep
    rw [if_neg comment, requestOf, if_neg comment]
    have bound : (parseLine line 0 []).body.length < 2 ^ 31 := Nat.lt_of_le_of_lt (parseLine_body line 0) here
    generalize parseLine line 0 [] = result at bound
    dsimp only
    cases accepted : result.accepted with
    | false => exact ih later inStep
    | true =>
      rw [if_pos rfl, if_neg (by decide), Option.toList_some, List.singleton_append]
      have sends := send_sends peer result.id bound state
      generalize send peer result.id result.body state = outcome at sends
      cases sends with
      | large large =>
        have nothing : Halts [] := .cutHeader (by decide)
        have ends := inStep.stop .tooLarge ((result.id, result.body) :: requests interactive lines) nothing
          (fun _ => ⟨_, ⟨_, rfl⟩, large⟩) (fun same => by cases same) (.inl rfl)
        rw [List.append_nil] at ends
        exact ends
      | broken fits fails cut =>
        exact inStep.stop .sendError _ (halts_cut fits cut) (fun same => by cases same) (fun _ => fails) (.inr rfl)
      | through fits =>
        rw [if_neg fun same => Bool.noConfusion same]
        dsimp only
        cases taken : MsgNode.receive state.coming with
        | none =>
          obtain ⟨failure, stuck, waiting⟩ : ∃ failure, recvAndPrint peer (wrote (result.id, result.body) state) =
            (false, (wrote (result.id, result.body) state).stop failure) ∧ failure ≠ .tooLarge ∧ failure ≠ .sendError :=
              recvAndPrint_none taken
          rw [stuck]
          exact inStep.starve fits _ taken waiting
        | some got =>
          obtain ⟨node, rest⟩ := got
          have read : recvAndPrint peer (wrote (result.id, result.body) state) = (true, { wrote (result.id, result.body) state with
              coming := rest, printed := state.printed ++ [content node] }) := recvAndPrint_some taken
          rw [read, if_neg fun same => Bool.noConfusion same]
          have next := ih later (inStep.next fits taken)
          simp only [wrote, List.append_assoc, List.singleton_append] at next
          exact next

theorem LockStep.through {asked : List (UInt32 × Bytes)} (lockStep : LockStep peer asked state) (writes : ∀ n, peer.fails n = none)
    (fits : ∀ request ∈ asked, Fits request) (enough : asked.length ≤ (received peer.sends).1.length) :
    state.sent = asked ∧ state.printed = (received peer.sends).1.take asked.length := by
  cases stopped : state.stopped with
  | none =>
    obtain ⟨sent, paired⟩ := lockStep.finished stopped
    refine ⟨sent, ?_⟩
    rw [← sent, ← paired]
    exact List.prefix_iff_eq_take.mp lockStep.printed
  | some failure =>
    exfalso
    by_cases large : failure = .tooLarge
    · obtain ⟨request, next, long⟩ := lockStep.large (by rw [stopped, large])
      have small : Fits request := fits request (next.subset (by simp))
      exact absurd small (Nat.not_le.mpr long)
    by_cases broken : failure = .sendError
    · exact lockStep.broken (by rw [stopped, broken]) (writes _)
    · obtain ⟨all, behind⟩ := lockStep.starved failure stopped large broken
      have bound := lockStep.sent.length_le
      rw [← all] at enough
      omega

theorem getlines_length (input line : Bytes) : ∀ other ∈ getlines line input, other.length ≤ line.length + input.length := by
  induction input generalizing line with
  | nil =>
    intro other member
    unfold getlines at member
    split at member
    · cases member
    · rw [List.mem_singleton.mp member]
      exact Nat.le_refl _
  | cons c input ih =>
    intro other member
    unfold getlines at member
    split at member
    · rcases List.mem_cons.mp member with here | later
      · rw [here]
        exact Nat.le_add_right _ _
      · have bound := ih [] other later
        simp only [List.length_nil, List.length_cons] at bound ⊢
        omega
    · have bound := ih (line ++ [c]) other member
      simp only [List.length_append, List.length_cons, List.length_nil] at bound ⊢
      omega

end Loop

theorem manual_client_lockstep (interactive : Bool) (input : Bytes) (peer : Peer)
    (short : ∀ line ∈ getlines [] input, line.length < 2 ^ 31) :
    LockStep peer (requests interactive (getlines [] input)) (Client.main interactive input peer) ∧
    ((∀ n, peer.fails n = none) → (∀ request ∈ requests interactive (getlines [] input), Fits request) →
      (requests interactive (getlines [] input)).length ≤ (received peer.sends).1.length →
      (Client.main interactive input peer).sent = requests interactive (getlines [] input) ∧
      (Client.main interactive input peer).printed =
        (received peer.sends).1.take (requests interactive (getlines [] input)).length) := by
  have start : InStep peer { coming := peer.sends } :=
    ⟨List.forall_mem_nil _, rfl, ⟨[], .none, rfl⟩, rfl, rfl⟩
  have lockStep := mainLoop_lockStep interactive short start
  exact ⟨lockStep, lockStep.through⟩

/-- A comment, a login, an empty line and a search, and a server that has a notification in between. -/
def twoLines : Bytes := bytesOf "# aaa\n1005|\x7b\x7d\n\n1007|\x7b\"uid\":1\x7d"

def answers : Peer :=
  { sends := [(1006, []), (1011, bytesOf "\x7b\x7d"), (1008, [])].flatMap frameBytes }

theorem manual_client_lockstep_two : (Client.main false twoLines answers).sent = [(1005, bytesOf "\x7b\x7d"), (1007, bytesOf "\x7b\"uid\":1\x7d")] ∧
    (Client.main false twoLines answers).printed = [(1006, []), (1011, bytesOf "\x7b\x7d")] := by
  have asked : requests false (getlines [] twoLines) = [(1005, bytesOf "\x7b\x7d"), (1007, bytesOf "\x7b\"uid\":1\x7d")] := by
    decide +kernel
  have sent : received answers.sends = ([(1006, []), (1011, bytesOf "\x7b\x7d"), (1008, [])], []) := by
    have small : ∀ frame ∈ [((1006 : UInt32), ([] : Bytes)), (1011, bytesOf "\x7b\x7d"), (1008, [])], Fits frame := by
      unfold Fits
      decide
    have whole := received_frames small (.cutHeader (by decide : ([] : Bytes).length < prefixLen))
    rw [List.append_nil] at whole
    exact whole
  have through := (manual_client_lockstep false twoLines answers ?_).2 (fun _ => rfl) ?_ ?_
  · rw [asked, sent] at through
    exact through
  · intro line member
    have bound := getlines_length twoLines [] line member
    have size : twoLines.length < 100 := by decide
    simp only [List.length_nil] at bound
    omega
  · rw [asked]
    unfold Fits
    decide
  · rw [asked, sent]
    decide

end ChatProof
