import Fanout.Proofs.Delivery

/-!
# Fanout — the channel of a session

What a command does to the queue that a session's client reads. An event is offered to
it, its client takes from it or lets it go, and nothing else touches it; opening,
closing and the like only change what is around it.

## Main definitions

* `Channel.Fit` — a channel within its capacity.
* `Channel.Moves` — what came out of a channel and what went in.

## Results

* `Channel.Moves.trans` — what happened in two stretches of time.
* `Server.AtOnce.channel?`, `Server.channel?_quietRoute` — what a command does to the channel of
  a session.
-/

namespace Fanout

/-! ## Channels -/

namespace Channel

variable {α : Type} {channel : Channel α}

/-- A channel holds no more than its capacity, and nothing once it was let go. -/
structure Fit (channel : Channel α) : Prop where
  room : channel.queue.length ≤ channel.capacity
  released : channel.held = false → channel.queue = []

theorem capacity_offer (channel : Channel α) (item : α) :
    (channel.offer item).2.capacity = channel.capacity := by
  unfold offer
  split
  · rfl
  · split <;> rfl

theorem held_offer (channel : Channel α) (item : α) :
    (channel.offer item).2.held = channel.held := by
  unfold offer
  split
  · rfl
  · split <;> rfl

theorem offer_of_room (hHeld : channel.held = true)
    (hRoom : channel.queue.length < channel.capacity) (item : α) :
    channel.offer item = (.delivered, { channel with queue := channel.queue ++ [item] }) := by
  simp [offer, hHeld, hRoom]

theorem offer_of_full (hHeld : channel.held = true)
    (hFull : channel.capacity ≤ channel.queue.length) (item : α) :
    channel.offer item = (.full, channel) := by
  have hNoRoom : ¬ channel.queue.length < channel.capacity := by omega
  simp [offer, hHeld, hNoRoom]

theorem offer_of_released (hHeld : channel.held = false) (item : α) :
    channel.offer item = (.disconnected, channel) := by
  simp [offer, hHeld]

theorem Fit.offer (h : channel.Fit) (item : α) : (channel.offer item).2.Fit := by
  refine ⟨length_offer_le channel item h.room, fun hHeld => ?_⟩
  rw [held_offer] at hHeld
  rw [offer_of_released hHeld]
  exact h.released hHeld

theorem receive_eq (channel : Channel α) :
    channel.receive = (channel.queue.head?, { channel with queue := channel.queue.tail }) := by
  obtain ⟨capacity, queue, held⟩ := channel
  cases queue <;> rfl

/-- What happened to a channel: what was read and what was discarded came out of it, and what was
admitted went in. -/
structure Moves (channel left : Channel α) (read discarded admitted : List α) : Prop where
  capacity : left.capacity = channel.capacity
  fit : channel.Fit → left.Fit
  queue : read ++ discarded ++ left.queue = channel.queue ++ admitted
  /-- Only a channel that is let go discards. -/
  held : left.held = true → discarded = []
  /-- Once let go, a channel admits nothing. -/
  released : channel.held = false → left.held = false ∧ admitted = []

namespace Moves

variable {left last : Channel α} {read discarded admitted taken lost added : List α}

theorem refl (channel : Channel α) : channel.Moves channel [] [] [] where
  capacity := rfl
  fit := id
  queue := (List.append_nil _).symm
  held _ := rfl
  released h := ⟨h, rfl⟩

/-- What happened in two stretches of time. -/
theorem trans (hFirst : channel.Moves left read discarded admitted)
    (hSecond : left.Moves last taken lost added) (hFit : channel.Fit) :
    channel.Moves last (read ++ taken) (discarded ++ lost) (admitted ++ added) where
  capacity := hSecond.capacity.trans hFirst.capacity
  fit h := hSecond.fit (hFirst.fit h)
  queue := by
    have hStart := hFirst.queue
    have hEnd := hSecond.queue
    by_cases hHeld : left.held = true
    · -- nothing was discarded so far
      rw [hFirst.held hHeld, List.append_nil] at hStart
      rw [hFirst.held hHeld, List.nil_append]
      calc read ++ taken ++ lost ++ last.queue
          = read ++ (taken ++ lost ++ last.queue) := by simp only [List.append_assoc]
        _ = read ++ left.queue ++ added := by rw [hEnd, List.append_assoc]
        _ = channel.queue ++ (admitted ++ added) := by rw [hStart, List.append_assoc]
    · -- nothing is left, and nothing comes any more
      have hReleased : left.held = false := by simpa using hHeld
      obtain ⟨-, hNone⟩ := hSecond.released hReleased
      rw [(hFirst.fit hFit).released hReleased, hNone] at hEnd
      rw [(hFirst.fit hFit).released hReleased, List.append_nil] at hStart
      simp only [List.nil_append, List.append_eq_nil_iff] at hEnd
      obtain ⟨⟨hTaken, hLost⟩, hQueue⟩ := hEnd
      rw [hTaken, hLost, hQueue, hNone]
      simpa using hStart
  held h := by
    -- a channel that is let go stays so
    have hHeld : left.held = true := by
      by_contra hNot
      have hGone := (hSecond.released (by simpa using hNot)).1
      simp [hGone] at h
    rw [hFirst.held hHeld, hSecond.held h, List.append_nil]
  released h := by
    obtain ⟨hLeft, hAdmitted⟩ := hFirst.released h
    obtain ⟨hLast, hAdded⟩ := hSecond.released hLeft
    exact ⟨hLast, by rw [hAdmitted, hAdded, List.append_nil]⟩

/-- An item that is offered goes in if the channel is held and has room. -/
theorem offer (channel : Channel α) (item : α) :
    channel.Moves (channel.offer item).2 [] []
      (if channel.queue.length < channel.capacity then
        if channel.held = true then [item] else []
      else []) where
  capacity := capacity_offer channel item
  fit h := h.offer item
  queue := by
    cases hHeld : channel.held with
    | false => simp [offer_of_released hHeld]
    | true =>
      by_cases hRoom : channel.queue.length < channel.capacity
      · simp [offer_of_room hHeld hRoom, hRoom]
      · simp [offer_of_full hHeld (Nat.le_of_not_lt hRoom), hRoom]
  held _ := rfl
  released hHeld := by
    refine ⟨(held_offer channel item).trans hHeld, ?_⟩
    simp [hHeld]

/-- What is received comes out at the front. -/
theorem receive (channel : Channel α) :
    channel.Moves channel.receive.2 channel.receive.1.toList [] [] where
  capacity := by rw [receive_eq]
  fit h := by
    rw [receive_eq]
    have hRoom := h.room
    refine ⟨?_, fun hHeld => ?_⟩
    · simp only [List.length_tail]
      omega
    · rw [h.released hHeld]
      rfl
  queue := by rw [List.append_nil, List.append_nil, receive_append_queue]
  held _ := rfl
  released h := ⟨by rw [receive_eq]; exact h, rfl⟩

/-- All that is queued comes out. -/
theorem drain (channel : Channel α) : channel.Moves channel.drain.2 channel.drain.1 [] [] where
  capacity := rfl
  fit _ := ⟨Nat.zero_le _, fun _ => rfl⟩
  queue := by
    show channel.queue ++ [] ++ [] = channel.queue ++ []
    rw [List.append_nil]
  held _ := rfl
  released h := ⟨h, rfl⟩

end Moves

end Channel

/-- What a client's use does to its channel. -/
def SessionUse.onChannel : SessionUse → Channel Delivery → Channel Delivery
  | .receive => fun channel => channel.receive.2
  | .drain => fun channel => channel.drain.2
  | .release => Channel.release
  | .hold | .unhold => id

theorem SessionUse.capacity_onChannel (use : SessionUse) (channel : Channel Delivery) :
    (use.onChannel channel).capacity = channel.capacity := by
  cases use with
  | receive =>
    show channel.receive.2.capacity = channel.capacity
    rw [Channel.receive_eq]
  | drain | release | hold | unhold => rfl

theorem Channel.Fit.onChannel {channel : Channel Delivery} (h : channel.Fit) (use : SessionUse) :
    (use.onChannel channel).Fit := by
  have hRoom := h.room
  cases use with
  | receive =>
    show channel.receive.2.Fit
    rw [receive_eq]
    refine ⟨?_, fun hHeld => ?_⟩
    · show channel.queue.tail.length ≤ channel.capacity
      rw [List.length_tail]
      omega
    · show channel.queue.tail = []
      rw [h.released hHeld, List.tail_nil]
  | drain => exact ⟨Nat.zero_le _, fun _ => rfl⟩
  | release => exact ⟨Nat.zero_le _, fun _ => rfl⟩
  | hold | unhold => exact h

/-! ## The channel of a session -/

theorem Sink.channel?_deliver (sink : Sink) (delivery : Delivery) :
    (sink.deliver delivery).2.channel? =
      sink.channel?.map (fun channel => (channel.offer delivery).2) := by
  obtain ⟨outlet, log, mark⟩ := sink
  cases outlet <;> rfl

/-- A sink over a channel answers as the channel does. -/
theorem Sink.deliver_fst {sink : Sink} {channel : Channel Delivery}
    (h : sink.channel? = some channel) (delivery : Delivery) :
    (sink.deliver delivery).1 = (channel.offer delivery).1 := by
  obtain ⟨outlet, log, mark⟩ := sink
  cases outlet with
  | channel queue =>
    cases h
    rfl
  | callback => cases h

theorem SessionUse.channel?_change (use : SessionUse) (session : Session) :
    (use.change session).sink.channel? = session.sink.channel?.map use.onChannel := by
  obtain ⟨state, ⟨outlet, log, mark⟩, adds, holders⟩ := session
  cases use <;> cases outlet <;> rfl

namespace Registry

variable {registry after : Registry} {id known : SessionId} {session : Session}

theorem channel?_of_get? (h : registry.sessions.get? id = some session) :
    registry.channel? id = session.sink.channel? := by
  unfold channel?
  rw [h]
  rfl

theorem queued_of_channel? {channel : Channel Delivery} (h : registry.channel? id = some channel) :
    registry.queued id = channel.queue := by
  unfold queued
  rw [h]

theorem channel?_of_insert (h : after.sessions = registry.sessions.insert id session)
    (known : SessionId) :
    after.channel? known =
      if known = id then session.sink.channel? else registry.channel? known := by
  unfold channel?
  rw [h, Table.get?_insert]
  by_cases hKnown : known = id
  · rw [if_pos hKnown, if_pos hKnown]
    rfl
  · rw [if_neg hKnown, if_neg hKnown]

/-- A session in the place of one with the same sink leaves all channels as they were. -/
theorem channel?_of_replace {replaced : Session}
    (h : after.sessions = registry.sessions.insert id session)
    (hReplaced : registry.sessions.get? id = some replaced) (hSink : session.sink = replaced.sink)
    (known : SessionId) : after.channel? known = registry.channel? known := by
  rw [channel?_of_insert h]
  by_cases hKnown : known = id
  · rw [if_pos hKnown, hKnown, channel?_of_get? hReplaced, hSink]
  · rw [if_neg hKnown]

theorem channel?_closeConnection (registry : Registry) (connection : ConnectionId)
    (id : SessionId) :
    (registry.closeConnection connection).2.channel? id = registry.channel? id := by
  cases hLive : registry.liveSession? connection with
  | none => rw [closeConnection_of_not_live hLive]
  | some found =>
    obtain ⟨live, session⟩ := found
    have hSession := (liveSession?_eq_some_iff.mp hLive).2.1
    have hSessions : (registry.afterClose connection live session).sessions =
        registry.sessions.insert live { session with state := .closed } := rfl
    rw [closeConnection_of_live hLive]
    exact channel?_of_replace hSessions hSession rfl id

theorem channel?_withDelivery {delivery : Delivery} {hub : Hub}
    (hSession : registry.sessions.get? id = some session) (known : SessionId) :
    (registry.withDelivery id session delivery hub).channel? known =
      if known = id then (registry.channel? id).map (fun channel => (channel.offer delivery).2)
      else registry.channel? known := by
  have hSessions : (registry.withDelivery id session delivery hub).sessions =
      registry.sessions.insert id { session with sink := (session.sink.deliver delivery).2 } := rfl
  rw [channel?_of_insert hSessions, channel?_of_get? hSession, Sink.channel?_deliver]

theorem channel?_useSession (registry : Registry) (id : SessionId) (use : SessionUse)
    (known : SessionId) :
    (registry.useSession id use).2.channel? known =
      if known = id then (registry.channel? id).map use.onChannel
      else registry.channel? known := by
  unfold channel?
  rw [useSession_snd, get?_modifySession]
  by_cases hKnown : known = id
  · rw [if_pos hKnown, if_pos hKnown]
    cases registry.sessions.get? id with
    | none => rfl
    | some session => exact use.channel?_change session
  · rw [if_neg hKnown, if_neg hKnown]

/-- Opening a connection leaves the sessions alone that there are. -/
theorem channel?_openConnection {connection : ConnectionId} {sink : Sink} {opened : SessionId}
    (hSound : registry.Sound)
    (h : registry.openConnection connection sink = (.ok opened, after))
    (hKnown : (registry.channel? known).isSome) :
    after.channel? known = registry.channel? known := by
  obtain ⟨-, hId, rfl⟩ := openConnection_ok h
  have hFresh := hSound.fresh connection
  have hOther : known ≠ opened := by
    rintro rfl
    rw [channel?, hId, hFresh] at hKnown
    cases hKnown
  refine (channel?_of_insert rfl known).trans (if_neg hOther)

theorem channel?_addPublication {connection : ConnectionId} {service : String}
    {module : FilterModule} {spec : PublicationSpec} {publication : Publication}
    (h : registry.addPublication connection service module spec = (.ok publication, after))
    (known : SessionId) : after.channel? known = registry.channel? known := by
  obtain ⟨id, session, predicate, hLive, -, -, hAfter⟩ := addPublication_ok h
  have hSessions : after.sessions =
      registry.sessions.insert id { session with adds := session.adds + 1 } := by rw [hAfter]
  exact channel?_of_replace hSessions (liveSession?_eq_some_iff.mp hLive).2.1 rfl known

end Registry

namespace Server

variable {server after : Server} {id : SessionId} {mutation : Mutation}

/-! ## What a command does to the channel of a session -/

theorem Does.channel? {request : Request} {events : List Event} {reply : Reply}
    (hDoes : server.Does request events reply after) (hSound : server.registry.Sound)
    (hKnown : (server.registry.channel? id).isSome) :
    after.registry.channel? id = server.registry.channel? id := by
  cases hDoes using Server.Does.elim with
  | attended | openRefused | notOpen | addRefused | removeRefused => rfl
  | opened h => exact Registry.channel?_openConnection hSound h hKnown
  | closed h => exact server.registry.channel?_closeConnection _ id
  | added h => exact Registry.channel?_addPublication h id
  | removed h =>
    obtain ⟨-, -, rfl⟩ := Registry.removePublication_ok h
    rfl

/-- A command that routes no event leaves a channel alone, unless its client uses it. -/
theorem AtOnce.channel? {command : Command} {outcome : Outcome} {events : List Event}
    (hDone : server.AtOnce command outcome events after) (hSound : server.registry.Sound)
    (hKnown : (server.registry.channel? id).isSome) :
    (∃ use, command = .session id use ∧ outcome = (server.registry.useSession id use).1 ∧
      after.registry.channel? id = (server.registry.channel? id).map use.onChannel) ∨
    ((∀ use, command ≠ .session id use) ∧
      after.registry.channel? id = server.registry.channel? id) := by
  cases hDone with
  | request hDoes => exact .inr ⟨by simp, hDoes.channel? hSound hKnown⟩
  | inbound hDoes => exact .inr ⟨by simp, hDoes.channel? hSound hKnown⟩
  | added h => exact .inr ⟨by simp, Registry.channel?_addPublication h id⟩
  | addRefused h =>
    obtain ⟨-, rfl⟩ := Registry.addPublication_error h
    exact .inr ⟨by simp, rfl⟩
  | subscribe | listener => exact .inr ⟨by simp, rfl⟩
  | @session used use =>
    have hUsed := server.registry.channel?_useSession used use id
    by_cases hId : id = used
    · subst hId
      rw [if_pos rfl] at hUsed
      exact .inl ⟨use, rfl, rfl, hUsed⟩
    · rw [if_neg hId] at hUsed
      exact .inr ⟨fun _ hEq => hId (by cases hEq; rfl), hUsed⟩

/-- Routing an event offers a session what its connection is due, if the session goes on. -/
theorem channel?_quietRoute (hSound : server.registry.Sound) (mutation : Mutation)
    (id : SessionId) :
    (server.quietRoute mutation).2.registry.channel? id =
      (server.registry.channel? id).map (fun channel =>
        if server.registry.state? id = some .opened then
          (server.registry.due mutation id.connection).foldl
            (fun channel delivery => (channel.offer delivery).2) channel
        else channel) := by
  -- the channel hangs on its own connection's publication alone
  have hAgree := quietRoute_agreeOn id.connection hSound mutation
  have hRoute : (server.quietRoute mutation).2.registry.channel? id =
      (server.routeFor id.connection mutation).registry.channel? id := by
    unfold Registry.channel?
    rw [hAgree.sessions id rfl]
  rw [hRoute]
  cases hHeld : server.registry.publication? id.connection mutation.service with
  | none =>
    rw [routeFor_of_none hHeld, Registry.due_of_none hHeld]
    simp
  | some publication =>
    by_cases hMatch : publication.predicate.evaluate
        (publication.testedOn server.registry.config mutation) = .ok true
    · obtain ⟨session, hub, hSession, hOpened, hRegistry, -⟩ :=
        routeFor_of_match hSound hHeld hMatch
      -- whether the connection is closed after it or not, the channel was offered the delivery
      have hChannel : (server.routeFor id.connection mutation).registry.channel? id =
          (server.registry.withDelivery publication.session session
            (mutation.deliveryTo server.registry.config id.connection) hub).channel? id := by
        rw [hRegistry]
        dsimp only
        split
        · exact Registry.channel?_closeConnection _ _ _
        · rfl
      -- the session of the publication is the one of the connection that goes on
      have hState : server.registry.state? id = some .opened ↔ id = publication.session := by
        have hLive := (hSound.held hHeld).2.2
        constructor
        · intro h
          rw [hSound.open_live h] at hLive
          exact Option.some.inj hLive
        · rintro rfl
          exact (hSound.live_open hLive).2
      rw [hChannel, Registry.channel?_withDelivery hSession, Registry.due_of_match hHeld hMatch]
      by_cases hId : id = publication.session
      · subst hId
        simp [hState]
      · simp [hState, hId]
    · obtain ⟨hub, hRegistry⟩ := routeFor_of_reject hHeld hMatch
      rw [hRegistry, Registry.due_of_reject hHeld hMatch]
      simp [Registry.channel?]

end Server

end Fanout
