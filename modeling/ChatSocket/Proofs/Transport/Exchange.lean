import ChatSocket.Transport.Exchange
import Mathlib.Data.List.Induction

/-!
# What an exchange over a pair keeps

Each direction is a queue that loses nothing: what was taken out, and then what still
waits, is what was put in.  A side that is gone leaves both as they were.  `Moves`
lists what one act can do, and every invariant goes through it.
-/

set_option autoImplicit false

namespace ChatSocket.MemoryPair

/-! ## Histories -/

theorem after_concat (pair : MemoryPair) (acts : List Act) (act : Act) :
    pair.after (acts ++ [act]) = ((pair.after acts).perform act).2 := by
  simp [after]

theorem history_concat (pair : MemoryPair) (acts : List Act) (act : Act) :
    pair.history (acts ++ [act]) =
      pair.history acts ++ [(act, ((pair.after acts).perform act).1)] := by
  induction acts generalizing pair with
  | nil => rfl
  | cons first later ih =>
      rw [List.cons_append, history, ih, history]
      rfl

section Concat

variable (seen : List Happening) (latest : Happening)

theorem filterMap_concat {Item : Type} (part : Happening → Option Item) :
    (seen ++ [latest]).filterMap part = seen.filterMap part ++ (part latest).toList := by
  rw [List.filterMap_append]
  cases here : part latest <;> simp [here]

theorem sent_concat : sent (seen ++ [latest]) = sent seen ++ (sent? latest).toList :=
  filterMap_concat seen latest sent?

theorem peerSent_concat :
    peerSent (seen ++ [latest]) = peerSent seen ++ (peerSent? latest).toList :=
  filterMap_concat seen latest peerSent?

theorem received_concat :
    received (seen ++ [latest]) = received seen ++ (received? latest).toList :=
  filterMap_concat seen latest received?

theorem peerReceived_concat :
    peerReceived (seen ++ [latest]) = peerReceived seen ++ (peerReceived? latest).toList :=
  filterMap_concat seen latest peerReceived?

theorem closing_concat : closing (seen ++ [latest]) = (closing seen).or (closing? latest) := by
  simp [closing, List.findSome?_append]

end Concat

/-! ## What one act can do -/

/-- A happening that neither puts a frame in, nor takes one out, nor closes. -/
structure Mute (latest : Happening) : Prop where
  sent : sent? latest = none
  peerSent : peerSent? latest = none
  received : received? latest = none
  peerReceived : peerReceived? latest = none
  closing : closing? latest = none

inductive Moves (pair : MemoryPair) : Happening → MemoryPair → Prop where
  | nothing {latest : Happening} (mute : Mute latest) : Moves pair latest pair
  | sends (frame : Frame) (opened : pair.closed = false) (there : pair.peerGone = false) :
      Moves pair (.send frame, .done (.ok ())) { pair with toPeer := pair.toPeer ++ [frame] }
  | receives (frame : Frame) (rest : List Frame) (opened : pair.closed = false)
      (queued : pair.toClient = frame :: rest) (here : pair.clientGone = false) :
      Moves pair (.receive, .looked (.ready frame)) { pair with toClient := rest }
  | closes (reason : CloseReason) (opened : pair.closed = false) :
      Moves pair (.close reason, .done (.ok ())) { pair with
        closed := true
        toPeer := if pair.peerGone then pair.toPeer
          else pair.toPeer ++ [.close (some reason)] }
  | closesAgain (reason : CloseReason) (closed : pair.closed = true) :
      Moves pair (.close reason, .done (.ok ())) pair
  | drops : Moves pair (.drop, .silent) pair.dropClient
  | peerSends (frame : Frame) (here : pair.clientGone = false) :
      Moves pair (.peerSend frame, .done (.ok ()))
        { pair with toClient := pair.toClient ++ [frame] }
  | peerTakes (latest : Happening) (frame : Frame) (rest : List Frame)
      (looks : latest = (.peerReceive, .looked (.ready frame)) ∨
        latest = (.peerTryReceive, .tried (some frame)))
      (queued : pair.toPeer = frame :: rest) (there : pair.peerGone = false) :
      Moves pair latest { pair with toPeer := rest }
  | disconnects : Moves pair (.disconnect, .silent) pair.disconnect
  | peerDrops : Moves pair (.dropPeer, .silent) pair.dropPeer

section Serve

variable (pair : MemoryPair)

theorem send_moves (frame : Frame) :
    Moves pair (.send frame, .done (pair.send frame).1) (pair.send frame).2 := by
  rw [send]
  split
  case isTrue => exact .nothing ⟨rfl, rfl, rfl, rfl, rfl⟩
  case isFalse free =>
    have flags : pair.closed = false ∧ pair.peerGone = false := by simpa using free
    exact .sends frame flags.1 flags.2

theorem receive_moves (here : pair.clientGone = false) :
    Moves pair (.receive, .looked pair.receive.1) pair.receive.2 := by
  rw [receive]
  split
  case isTrue => exact .nothing ⟨rfl, rfl, rfl, rfl, rfl⟩
  case isFalse opened =>
    cases queued : pair.toClient with
    | nil =>
        apply Moves.nothing
        dsimp only
        split <;> exact ⟨rfl, rfl, rfl, rfl, rfl⟩
    | cons frame rest => exact .receives frame rest (by simpa using opened) queued here

theorem close_moves (reason : CloseReason) :
    Moves pair (.close reason, .done (pair.close reason).1) (pair.close reason).2 := by
  rw [close]
  split
  case isTrue closed => exact .closesAgain reason closed
  case isFalse opened => exact .closes reason (by simpa using opened)

theorem peerSend_moves (frame : Frame) :
    Moves pair (.peerSend frame, .done (pair.peerSend frame).1) (pair.peerSend frame).2 := by
  rw [peerSend]
  split
  case isTrue => exact .nothing ⟨rfl, rfl, rfl, rfl, rfl⟩
  case isFalse free =>
    have flags : pair.disconnected = false ∧ pair.clientGone = false := by simpa using free
    exact .peerSends frame flags.2

theorem peerReceive_moves (there : pair.peerGone = false) :
    Moves pair (.peerReceive, .looked pair.peerReceive.1) pair.peerReceive.2 := by
  rw [peerReceive]
  cases queued : pair.toPeer with
  | nil =>
      apply Moves.nothing
      dsimp only
      split <;> exact ⟨rfl, rfl, rfl, rfl, rfl⟩
  | cons frame rest => exact .peerTakes _ frame rest (.inl rfl) queued there

theorem peerTryReceive_moves (there : pair.peerGone = false) :
    Moves pair (.peerTryReceive, .tried pair.peerTryReceive.1) pair.peerTryReceive.2 := by
  rw [peerTryReceive]
  cases queued : pair.toPeer with
  | nil => exact .nothing ⟨rfl, rfl, rfl, rfl, rfl⟩
  | cons frame rest => exact .peerTakes _ frame rest (.inr rfl) queued there

end Serve

theorem perform_moves (pair : MemoryPair) (act : Act) :
    Moves pair (act, (pair.perform act).1) (pair.perform act).2 := by
  rw [perform]
  split
  case isTrue =>
    apply Moves.nothing
    cases act <;> exact ⟨rfl, rfl, rfl, rfl, rfl⟩
  case isFalse present =>
    have side : pair.lacks act = false := by simpa using present
    cases act with
    | send frame => exact send_moves pair frame
    | flush => exact .nothing ⟨rfl, rfl, rfl, rfl, rfl⟩
    | receive => exact receive_moves pair side
    | close reason => exact close_moves pair reason
    | drop => exact .drops
    | peerSend frame => exact peerSend_moves pair frame
    | peerReceive => exact peerReceive_moves pair side
    | peerTryReceive => exact peerTryReceive_moves pair side
    | disconnect => exact .disconnects
    | dropPeer => exact .peerDrops

/-! ## Queues -/

/-- A queue loses nothing: what was taken out and then what waits is what was put in,
until the side that takes is gone. -/
structure Conserves (put taken waiting : List Frame) (gone : Bool) : Prop where
  whole : gone = false → taken ++ waiting = put
  front : taken <+: put

section Conserves

variable {put taken waiting : List Frame} {gone : Bool}

theorem conserves_put (frame : Frame) (kept : Conserves put taken waiting gone) :
    Conserves (put ++ [frame]) taken (if gone then waiting else waiting ++ [frame]) gone := by
  refine ⟨?_, kept.front.trans (List.prefix_append put [frame])⟩
  intro there
  rw [there, if_neg Bool.false_ne_true, ← List.append_assoc, kept.whole there]

theorem conserves_take (frame : Frame) (rest : List Frame) (there : gone = false)
    (kept : Conserves put taken (frame :: rest) gone) :
    Conserves put (taken ++ [frame]) rest gone := by
  have whole : (taken ++ [frame]) ++ rest = put := by
    rw [List.append_assoc, ← kept.whole there]
    rfl
  exact ⟨fun _ => whole, rest, whole⟩

theorem conserves_lose (kept : Conserves put taken waiting gone) : Conserves put taken [] true :=
  ⟨nofun, kept.front⟩

end Conserves

/-- The two queues against what the sides were told about them. -/
structure Accounts (seen : List Happening) (pair : MemoryPair) : Prop where
  closed : pair.closed = (closing seen).isSome
  outward : Conserves (sent seen ++ farewell seen) (peerReceived seen) pair.toPeer pair.peerGone
  inward : Conserves (peerSent seen) (received seen) pair.toClient pair.clientGone

theorem accounts_create : Accounts [] create :=
  ⟨rfl, ⟨fun _ => rfl, List.prefix_rfl⟩, ⟨fun _ => rfl, List.prefix_rfl⟩⟩

theorem farewell_of_open (seen : List Happening) (opened : closing seen = none) :
    farewell seen = [] := by
  rw [farewell, opened]

section Still

variable (seen : List Happening) (latest : Happening) {waiting : List Frame} {gone : Bool}

theorem closing_still (later : (closing seen).isSome = true ∨ closing? latest = none) :
    closing (seen ++ [latest]) = closing seen := by
  rw [closing_concat]
  rcases later with closed | silent
  · exact Option.or_of_isSome closed
  · rw [silent, Option.or_none]

theorem outward_still (unsent : sent? latest = none) (untaken : peerReceived? latest = none)
    (later : (closing seen).isSome = true ∨ closing? latest = none)
    (kept : Conserves (sent seen ++ farewell seen) (peerReceived seen) waiting gone) :
    Conserves (sent (seen ++ [latest]) ++ farewell (seen ++ [latest]))
      (peerReceived (seen ++ [latest])) waiting gone := by
  rw [farewell, closing_still seen latest later, ← farewell, sent_concat, peerReceived_concat,
    unsent, untaken]
  simpa using kept

theorem inward_still (unsent : peerSent? latest = none) (untaken : received? latest = none)
    (kept : Conserves (peerSent seen) (received seen) waiting gone) :
    Conserves (peerSent (seen ++ [latest])) (received (seen ++ [latest])) waiting gone := by
  rw [peerSent_concat, received_concat, unsent, untaken]
  simpa using kept

theorem accounts_mute (pair : MemoryPair) (mute : Mute latest) (kept : Accounts seen pair) :
    Accounts (seen ++ [latest]) pair where
  closed := by
    rw [closing_still seen latest (.inr mute.closing)]
    exact kept.closed
  outward := outward_still seen latest mute.sent mute.peerReceived (.inr mute.closing) kept.outward
  inward := inward_still seen latest mute.peerSent mute.received kept.inward

end Still

/-- The frame at the head of what waits for the peer is taken. -/
theorem outward_taken (seen : List Happening) (latest : Happening) (frame : Frame)
    (rest : List Frame) (unsent : sent? latest = none) (taken : peerReceived? latest = some frame)
    (unclosed : closing? latest = none)
    (kept : Conserves (sent seen ++ farewell seen) (peerReceived seen) (frame :: rest) false) :
    Conserves (sent (seen ++ [latest]) ++ farewell (seen ++ [latest]))
      (peerReceived (seen ++ [latest])) rest false := by
  rw [farewell, closing_still seen latest (.inr unclosed), ← farewell, sent_concat,
    peerReceived_concat, unsent, taken]
  simpa using conserves_take frame rest rfl kept

theorem accounts_moves (seen : List Happening) (pair next : MemoryPair) (latest : Happening)
    (moves : Moves pair latest next) (kept : Accounts seen pair) :
    Accounts (seen ++ [latest]) next := by
  have quiet := accounts_mute seen latest pair
  obtain ⟨closed, outward, inward⟩ := kept
  cases moves with
  | nothing mute => exact quiet mute ⟨closed, outward, inward⟩
  | sends frame opened there =>
      have unclosed : closing seen = none := by simpa [opened] using closed
      have still := closing_still seen (.send frame, .done (.ok ())) (.inr rfl)
      refine ⟨?_, ?_, inward_still seen _ rfl rfl inward⟩
      · rw [still]
        exact closed
      · have put := conserves_put frame outward
        rw [farewell_of_open seen unclosed, List.append_nil, there] at put
        rw [farewell_of_open _ (still.trans unclosed), List.append_nil, sent_concat,
          peerReceived_concat, there]
        simpa [sent?, peerReceived?] using put
  | receives frame rest opened queued here =>
      rw [queued] at inward
      refine ⟨?_, outward_still seen _ rfl rfl (.inr rfl) outward, ?_⟩
      · rw [closing_still seen _ (.inr rfl)]
        exact closed
      · rw [peerSent_concat, received_concat]
        simpa [peerSent?, received?] using conserves_take frame rest here inward
  | closes reason opened =>
      have unclosed : closing seen = none := by simpa [opened] using closed
      have first : closing (seen ++ [(.close reason, .done (.ok ()))]) = some reason := by
        rw [closing_concat, unclosed]
        rfl
      refine ⟨?_, ?_, inward_still seen _ rfl rfl inward⟩
      · rw [first]
        rfl
      · have put := conserves_put (.close (some reason)) outward
        rw [farewell_of_open seen unclosed, List.append_nil] at put
        rw [farewell, first, sent_concat, peerReceived_concat]
        simpa [sent?, peerReceived?] using put
  | closesAgain reason already =>
      have later : (closing seen).isSome = true := closed ▸ already
      refine ⟨?_, outward_still seen _ rfl rfl (.inl later) outward,
        inward_still seen _ rfl rfl inward⟩
      rw [closing_still seen _ (.inl later)]
      exact closed
  | drops =>
      obtain ⟨closed, outward, inward⟩ := quiet ⟨rfl, rfl, rfl, rfl, rfl⟩ ⟨closed, outward, inward⟩
      exact ⟨closed, outward, conserves_lose inward⟩
  | peerSends frame here =>
      refine ⟨?_, outward_still seen _ rfl rfl (.inr rfl) outward, ?_⟩
      · rw [closing_still seen _ (.inr rfl)]
        exact closed
      · have put := conserves_put frame inward
        rw [here] at put
        rw [peerSent_concat, received_concat, here]
        simpa [peerSent?, received?] using put
  | peerTakes _ frame rest looks queued there =>
      rw [queued, there] at outward
      have told : sent? latest = none ∧ peerReceived? latest = some frame ∧
          peerSent? latest = none ∧ received? latest = none ∧ closing? latest = none := by
        rcases looks with rfl | rfl <;> exact ⟨rfl, rfl, rfl, rfl, rfl⟩
      obtain ⟨unsent, taken, peerUnsent, untaken, unclosed⟩ := told
      refine ⟨?_, ?_, inward_still seen _ peerUnsent untaken inward⟩
      · rw [closing_still seen _ (.inr unclosed)]
        exact closed
      · rw [there]
        exact outward_taken seen _ frame rest unsent taken unclosed outward
  | disconnects =>
      obtain ⟨closed, outward, inward⟩ := quiet ⟨rfl, rfl, rfl, rfl, rfl⟩ ⟨closed, outward, inward⟩
      exact ⟨closed, outward, inward⟩
  | peerDrops =>
      obtain ⟨closed, outward, inward⟩ := quiet ⟨rfl, rfl, rfl, rfl, rfl⟩ ⟨closed, outward, inward⟩
      exact ⟨closed, conserves_lose outward, inward⟩

theorem accounts_after (acts : List Act) :
    Accounts (create.history acts) (create.after acts) := by
  induction acts using List.reverseRecOn with
  | nil => exact accounts_create
  | append_singleton acts act ih =>
      rw [history_concat, after_concat]
      exact accounts_moves _ _ _ _ (perform_moves (create.after acts) act) ih

/-! ## Flags -/

/-- Only three acts touch the flags, and they do nothing once their side is gone. -/
theorem flags_perform (pair : MemoryPair) (act : Act) :
    (pair.perform act).2.clientGone = (pair.clientGone || act == .drop) ∧
    (pair.perform act).2.peerGone = (pair.peerGone || act == .dropPeer) ∧
    (pair.perform act).2.disconnected =
      (pair.disconnected || !pair.peerGone && (act == .disconnect || act == .dropPeer)) := by
  refine ⟨?_, ?_, ?_⟩ <;> cases act <;>
    grind [perform, serve, lacks, Act.isPeers, send, flush, receive, close, dropClient,
      peerSend, peerReceive, peerTryReceive, disconnect, dropPeer]

/-- The flags of a pair tell which acts there have been. -/
structure Flagged (acts : List Act) (pair : MemoryPair) : Prop where
  clientGone : pair.clientGone = true ↔ .drop ∈ acts
  peerGone : pair.peerGone = true ↔ .dropPeer ∈ acts
  disconnected : pair.disconnected = true ↔ .disconnect ∈ acts ∨ .dropPeer ∈ acts

theorem flagged_after (acts : List Act) : Flagged acts (create.after acts) := by
  induction acts using List.reverseRecOn with
  | nil => constructor <;> simp [after, create]
  | append_singleton acts act ih =>
      obtain ⟨clientGone, peerGone, disconnected⟩ := flags_perform (create.after acts) act
      rw [after_concat]
      constructor
      · rw [clientGone, Bool.or_eq_true, ih.clientGone, beq_iff_eq, List.mem_append,
          List.mem_singleton, @eq_comm _ act]
      · rw [peerGone, Bool.or_eq_true, ih.peerGone, beq_iff_eq, List.mem_append,
          List.mem_singleton, @eq_comm _ act]
      · have gone := ih.peerGone
        have stopped := ih.disconnected
        simp only [disconnected, List.mem_append, List.mem_singleton]
        grind

/-! ## Answers -/

section Answers

variable (pair : MemoryPair)

theorem perform_of_client (act : Act) (clients : act.isPeers = false)
    (here : pair.clientGone = false) : pair.perform act = pair.serve act := by
  simp [perform, lacks, clients, here]

theorem perform_of_peer (act : Act) (peers : act.isPeers = true)
    (there : pair.peerGone = false) : pair.perform act = pair.serve act := by
  simp [perform, lacks, peers, there]

theorem send_ok_iff (frame : Frame) (here : pair.clientGone = false) :
    (pair.perform (.send frame)).1 = .done (.ok ()) ↔
      pair.closed = false ∧ pair.peerGone = false := by
  rw [perform_of_client pair _ rfl here]
  cases closed : pair.closed with
  | true => simp [serve, send, closed]
  | false => cases gone : pair.peerGone <;> simp [serve, send, closed, gone]

theorem peerSend_ok_iff (frame : Frame) (there : pair.peerGone = false) :
    (pair.perform (.peerSend frame)).1 = .done (.ok ()) ↔
      pair.disconnected = false ∧ pair.clientGone = false := by
  rw [perform_of_peer pair _ rfl there]
  cases stopped : pair.disconnected with
  | true => simp [serve, peerSend, stopped]
  | false => cases gone : pair.clientGone <;> simp [serve, peerSend, stopped, gone]

theorem send_of_closed (frame : Frame) (closed : pair.closed = true)
    (here : pair.clientGone = false) :
    pair.perform (.send frame) = (.done (.error .connectionClosed), pair) := by
  rw [perform_of_client pair _ rfl here]
  simp [serve, send, closed]

theorem receive_of_closed (closed : pair.closed = true) (here : pair.clientGone = false) :
    pair.perform .receive = (.looked .ended, pair) := by
  rw [perform_of_client pair _ rfl here]
  simp [serve, receive, closed]

theorem receive_of_open (opened : pair.closed = false) (here : pair.clientGone = false) :
    ((pair.perform .receive).1 = .looked .ended ↔
      pair.toClient = [] ∧ (pair.disconnected || pair.peerGone) = true) ∧
    ((pair.perform .receive).1 = .looked .pending ↔
      pair.toClient = [] ∧ (pair.disconnected || pair.peerGone) = false) := by
  rw [perform_of_client pair _ rfl here]
  cases queued : pair.toClient with
  | nil =>
      cases silent : pair.disconnected || pair.peerGone with
      | false => simp [serve, receive, opened, queued, silent]
      | true => simp [serve, receive, opened, queued, silent]
  | cons frame rest => simp [serve, receive, opened, queued]

theorem peerSend_of_disconnected (frame : Frame) (stopped : pair.disconnected = true)
    (there : pair.peerGone = false) :
    pair.perform (.peerSend frame) = (.done (.error .connectionClosed), pair) := by
  rw [perform_of_peer pair _ rfl there]
  simp [serve, peerSend, stopped]

theorem close_succeeds (reason : CloseReason) (here : pair.clientGone = false) :
    (pair.perform (.close reason)).1 = .done (.ok ()) := by
  rw [perform_of_client pair _ rfl here]
  by_cases closed : pair.closed = true
  · simp [serve, close, closed]
  · simp [serve, close, closed]

/-- A peer that looks in vain is there, and nothing waits for it. -/
theorem empty_of_look (look : (pair.perform .peerReceive).1 = .looked .pending ∨
      (pair.perform .peerReceive).1 = .looked .ended ∨
      (pair.perform .peerTryReceive).1 = .tried none) :
    pair.peerGone = false ∧ pair.toPeer = [] := by
  by_cases gone : pair.peerGone = true
  · simp [perform, lacks, Act.isPeers, gone] at look
  · have there : pair.peerGone = false := by simpa using gone
    rw [perform_of_peer pair .peerReceive rfl there,
      perform_of_peer pair .peerTryReceive rfl there] at look
    cases queued : pair.toPeer with
    | nil => exact ⟨there, rfl⟩
    | cons frame rest => simp [serve, peerReceive, peerTryReceive, queued] at look

end Answers

/-! ## The first close -/

theorem closing_cons (first : Happening) (seen : List Happening) :
    closing (first :: seen) = (closing? first).or (closing seen) := by
  cases here : closing? first <;> simp [closing, here]

theorem closing_of_gone (pair : MemoryPair) (acts : List Act) (gone : pair.clientGone = true) :
    closing (pair.history acts) = none := by
  induction acts generalizing pair with
  | nil => rfl
  | cons act later ih =>
      have stays : (pair.perform act).2.clientGone = true := by
        rw [(flags_perform pair act).1, gone, Bool.true_or]
      have silent : closing? (act, (pair.perform act).1) = none := by
        cases act with
        | close reason => simp [perform, lacks, Act.isPeers, gone, closing?]
        | _ => rfl
      rw [history, closing_cons, silent, ih _ stays, Option.none_or]

theorem closing_eq_firstClose (pair : MemoryPair) (acts : List Act)
    (here : pair.clientGone = false) : closing (pair.history acts) = firstClose acts := by
  induction acts generalizing pair with
  | nil => rfl
  | cons act later ih =>
      have flag := (flags_perform pair act).1
      rw [history, closing_cons]
      cases act with
      | close reason => rw [close_succeeds pair reason here]; rfl
      | drop => rw [closing_of_gone _ later (by simpa using flag)]; rfl
      | _ => exact Option.none_or.trans (ih _ (flag.trans (by rw [here]; rfl)))

/-! ## The exchange -/

theorem exchange_reliable (acts : List Act) :
    -- Towards the peer: in order, nothing lost, one farewell.
    peerReceived (create.history acts) <+:
      sent (create.history acts) ++ farewell (create.history acts) ∧
    (((create.after acts).perform .peerReceive).1 = .looked .pending ∨
        ((create.after acts).perform .peerReceive).1 = .looked .ended ∨
        ((create.after acts).perform .peerTryReceive).1 = .tried none →
      peerReceived (create.history acts) =
        sent (create.history acts) ++ farewell (create.history acts)) ∧
    (.drop ∉ acts → ∀ frame, ((create.after acts).perform (.send frame)).1 = .done (.ok ()) ↔
      closing (create.history acts) = none ∧ .dropPeer ∉ acts) ∧
    -- A close succeeds, and the first one is final.
    (.drop ∉ acts → ∀ reason,
      ((create.after acts).perform (.close reason)).1 = .done (.ok ())) ∧
    closing (create.history acts) = firstClose acts ∧
    (.drop ∉ acts → (closing (create.history acts)).isSome = true →
      (∀ frame, (create.after acts).perform (.send frame) =
        (.done (.error .connectionClosed), create.after acts)) ∧
      (create.after acts).perform .receive = (.looked .ended, create.after acts)) ∧
    -- Towards the client: in order, and no end before everything has come.
    received (create.history acts) <+: peerSent (create.history acts) ∧
    (.drop ∉ acts → closing (create.history acts) = none →
      (((create.after acts).perform .receive).1 = .looked .ended ↔
        received (create.history acts) = peerSent (create.history acts) ∧
          (.disconnect ∈ acts ∨ .dropPeer ∈ acts)) ∧
      (((create.after acts).perform .receive).1 = .looked .pending ↔
        received (create.history acts) = peerSent (create.history acts) ∧
          .disconnect ∉ acts ∧ .dropPeer ∉ acts)) ∧
    (.dropPeer ∉ acts → ∀ frame,
      ((create.after acts).perform (.peerSend frame)).1 = .done (.ok ()) ↔
        .disconnect ∉ acts ∧ .drop ∉ acts) ∧
    (.disconnect ∈ acts → .dropPeer ∉ acts → ∀ frame,
      (create.after acts).perform (.peerSend frame) =
        (.done (.error .connectionClosed), create.after acts)) := by
  have kept := accounts_after acts
  have flags := flagged_after acts
  have client : .drop ∉ acts → (create.after acts).clientGone = false := by
    intro undropped
    rwa [← flags.clientGone, Bool.not_eq_true] at undropped
  have peer : (create.after acts).peerGone = false ↔ .dropPeer ∉ acts := by
    rw [← flags.peerGone, Bool.not_eq_true]
  refine ⟨kept.outward.front, ?_, ?_, ?_, closing_eq_firstClose create acts rfl, ?_,
    kept.inward.front, ?_, ?_, ?_⟩
  · intro look
    obtain ⟨there, empty⟩ := empty_of_look _ look
    have whole := kept.outward.whole there
    rwa [empty, List.append_nil] at whole
  · intro undropped frame
    rw [send_ok_iff _ frame (client undropped), kept.closed, Option.isSome_eq_false_iff,
      Option.isNone_iff_eq_none, peer]
  · intro undropped reason
    exact close_succeeds _ reason (client undropped)
  · intro undropped done
    have closed := kept.closed.trans done
    exact ⟨fun frame => send_of_closed _ frame closed (client undropped),
      receive_of_closed _ closed (client undropped)⟩
  · intro undropped undone
    have opened : (create.after acts).closed = false := by rw [kept.closed, undone]; rfl
    have here := client undropped
    have all : (create.after acts).toClient = [] ↔
        received (create.history acts) = peerSent (create.history acts) := by
      rw [← kept.inward.whole here, List.self_eq_append_right]
    have silent : ((create.after acts).disconnected || (create.after acts).peerGone) = true ↔
        .disconnect ∈ acts ∨ .dropPeer ∈ acts := by
      rw [Bool.or_eq_true, flags.disconnected, flags.peerGone, or_assoc, or_self]
    obtain ⟨ends, waits⟩ := receive_of_open _ opened here
    rw [all] at ends waits
    rw [silent] at ends
    rw [← Bool.not_eq_true, silent, not_or] at waits
    exact ⟨ends, waits⟩
  · intro undropped frame
    rw [peerSend_ok_iff _ frame (peer.mpr undropped), ← Bool.not_eq_true, ← Bool.not_eq_true,
      flags.disconnected, flags.clientGone]
    simp [undropped]
  · intro stopped undropped frame
    have disconnected := flags.disconnected.mpr (.inl stopped)
    exact peerSend_of_disconnected _ frame disconnected (peer.mpr undropped)

/-- Two closes, with a frame still queued for the client. -/
def twoCloses : List Act := [
  .send (.text "40"),
  .peerSend (.text "2"),
  .peerSend (.text "41"),
  .receive,
  .close .normal,
  .close .goingAway,
  .peerReceive,
  .disconnect,
  .peerTryReceive]

theorem exchange_reliable_of_twoCloses :
    peerReceived (create.history twoCloses) = [.text "40", .close (some .normal)] ∧
    received (create.history twoCloses) = [.text "2"] ∧
    (create.after twoCloses).toClient = [.text "41"] ∧
    (create.after twoCloses).perform .receive = (.looked .ended, create.after twoCloses) ∧
    (create.after twoCloses).perform (.peerSend (.text "3")) =
      (.done (.error .connectionClosed), create.after twoCloses) := by
  obtain ⟨-, whole, -, -, -, final, -, -, -, stopped⟩ := exchange_reliable twoCloses
  have here : .drop ∉ twoCloses := by decide
  have there : .dropPeer ∉ twoCloses := by decide
  exact ⟨whole (.inl rfl), rfl, rfl, (final here rfl).2, stopped (by decide) there _⟩

end ChatSocket.MemoryPair
