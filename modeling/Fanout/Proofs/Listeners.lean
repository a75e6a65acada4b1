import Fanout.Proofs.Outlet
import Fanout.Proofs.Scope
import Mathlib.Data.Set.Card

/-!
# Fanout — what each listener of a hub gets

One report is offered to, kept from, lost for or the end of each of any number of
listeners. None of them has to do with the others: a listener that is held gets what
is in its scope, in order, except what finds its queue full, whatever else is done to
the hub, and what it reads is what it would read off a channel of its own. A listener
that was let go stays counted until the next report in its scope, and one that is held
is never forgotten.

## Main definitions

* `Hub.run` — things that are done to a hub, in order.
* `Hub.Step.heard`, `Hub.Step.admitted` — what a listener reads in a step, and what is queued for
  it.
* `Hub.Notice` — what of all that is done concerns one listener.
* `Hub.Released`, `Hub.Pruned` — a listener was let go, and was reached by a report after that.

## Results

* `Hub.listener?_subscribe`, `Hub.listener?_modify`, `Hub.listener?_emit` — a listener that is held
  after each thing that is done.
* `Hub.serves_run` — what a listener gets of a run.
* `Hub.roll_run` — which listeners a hub knows of.
* `Hub.fans_out` — both, for all runs.
-/

namespace Fanout

/-- A diagnostic of a connection, or of none, is for a listener: one without a scope gets all, and
one to a connection those of exactly that connection. -/
def ListenerId.Covers (id : ListenerId) (connection : Option ConnectionId) : Prop :=
  id.scope = none ∨ connection = id.scope

instance (id : ListenerId) (connection : Option ConnectionId) : Decidable (id.Covers connection) :=
  inferInstanceAs (Decidable (_ ∨ _))

theorem Listener.hears_iff {listener : Listener} {connection : Option ConnectionId} :
    listener.hears connection = true ↔ listener.id.Covers connection := by
  obtain ⟨⟨scope, index⟩, queue⟩ := listener
  cases scope <;> simp [hears, ListenerId.Covers]

namespace Hub

/-! ## Runs -/

/-- One thing that is done to a hub. -/
inductive Act where
  | subscribe (scope : Option ConnectionId)
  | emit (connection : Option ConnectionId) (diagnostic : Diagnostic)
  | use (id : ListenerId) (how : ListenerUse)

/-- Whether somebody comes to listen. -/
def Act.subscribes : Act → Bool
  | .subscribe _ => true
  | .emit _ _ | .use _ _ => false

/-- Do one thing. -/
def carry (hub : Hub) : Act → Outcome × Hub
  | .subscribe scope => (.listening (hub.subscribe scope).1, (hub.subscribe scope).2)
  | .emit connection diagnostic => (.done, hub.emit connection diagnostic)
  | .use id how => hub.useListener id how

/-- One step of a run. -/
structure Step where
  before : Hub
  act : Act
  outcome : Outcome
  after : Hub

/-- The step of doing one thing. -/
def step (hub : Hub) (act : Act) : Step := ⟨hub, act, (hub.carry act).1, (hub.carry act).2⟩

/-- Do things in order. -/
def run : Hub → List Act → List Step × Hub
  | hub, [] => ([], hub)
  | hub, act :: rest =>
    (hub.step act :: ((hub.carry act).2.run rest).1, ((hub.carry act).2.run rest).2)

theorem run_cons (hub : Hub) (act : Act) (rest : List Act) :
    hub.run (act :: rest) =
      (hub.step act :: ((hub.carry act).2.run rest).1, ((hub.carry act).2.run rest).2) := rfl

theorem run_append (hub : Hub) (acts later : List Act) :
    hub.run (acts ++ later) = ((hub.run acts).1 ++ ((hub.run acts).2.run later).1,
      ((hub.run acts).2.run later).2) := by
  induction acts generalizing hub with
  | nil => rfl
  | cons act rest ih =>
    rw [List.cons_append, run_cons, run_cons, ih]
    rfl

namespace Step

/-- What a listener reads in a step. -/
def heard (id : ListenerId) (step : Step) : List Diagnostic :=
  match step.act, step.outcome with
  | .use known .receive, .diagnostic report => if known = id then report.toList else []
  | .use known .drain, .diagnostics reports => if known = id then reports else []
  | _, _ => []

/-- What is emitted for a listener in a step and does not find its queue holding all it can. -/
def admitted (capacity : Nat) (id : ListenerId) (step : Step) : List Diagnostic :=
  match step.act with
  | .emit connection report =>
    if id.Covers connection ∧ (step.before.queued id).length ≠ capacity then [report] else []
  | _ => []

/-- The listener that came in a step. -/
def handle? (step : Step) : Option ListenerId :=
  match step.outcome with
  | .listening id => some id
  | _ => none

end Step

/-! ## A channel of its own -/

/-- What of all that is done concerns one listener. -/
inductive Notice where
  | offered (diagnostic : Diagnostic)
  | used (how : ListenerUse)

/-- What of an act concerns a listener. -/
def Act.notice? (id : ListenerId) : Act → Option Notice
  | .emit connection diagnostic =>
    if id.Covers connection then some (.offered diagnostic) else none
  | .use known how => if known = id then some (.used how) else none
  | .subscribe _ => none

namespace Act

variable {id known : ListenerId} {connection : Option ConnectionId}

theorem notice?_emit_of_covers (h : id.Covers connection) (diagnostic : Diagnostic) :
    (emit connection diagnostic).notice? id = some (.offered diagnostic) := if_pos h

theorem notice?_emit_of_not_covers (h : ¬id.Covers connection) (diagnostic : Diagnostic) :
    (emit connection diagnostic).notice? id = none := if_neg h

theorem notice?_use_self (how : ListenerUse) :
    (Act.use id how).notice? id = some (.used how) := if_pos rfl

theorem notice?_use_other (h : known ≠ id) (how : ListenerUse) :
    (Act.use known how).notice? id = none := if_neg h

end Act

namespace Notice

/-- What is read off a channel by what is done to it, and the channel after that. -/
def on (channel : Channel Diagnostic) : Notice → List Diagnostic × Channel Diagnostic
  | offered diagnostic => ([], (channel.offer diagnostic).2)
  | used .receive => (channel.receive.1.toList, channel.receive.2)
  | used .drain => channel.drain
  | used .release => ([], channel.release)

/-- What is read off a channel by things done to it in order, and the channel after them. -/
def allOn : Channel Diagnostic → List Notice → List Diagnostic × Channel Diagnostic
  | channel, [] => ([], channel)
  | channel, notice :: rest =>
    ((notice.on channel).1 ++ (allOn (notice.on channel).2 rest).1,
      (allOn (notice.on channel).2 rest).2)

theorem allOn_append (channel : Channel Diagnostic) (notices later : List Notice) :
    allOn channel (notices ++ later) =
      ((allOn channel notices).1 ++ (allOn (allOn channel notices).2 later).1,
        (allOn (allOn channel notices).2 later).2) := by
  induction notices generalizing channel with
  | nil => rfl
  | cons notice rest ih =>
    show ((notice.on channel).1 ++ (allOn _ (rest ++ later)).1, (allOn _ (rest ++ later)).2) = _
    rw [ih, ← List.append_assoc]
    rfl

end Notice

/-! ## Look-ups -/

section Lookup

variable {hub : Hub} {id : ListenerId} {queue : Channel Diagnostic}

theorem queued_of_listener? (h : hub.listener? id = some ⟨id, queue⟩) :
    hub.queued id = queue.queue := by
  unfold queued
  rw [h]

theorem listener?_subscribe (scope : Option ConnectionId) {listener : Listener}
    (h : hub.listener? id = some listener) :
    (hub.subscribe scope).2.listener? id = some listener := by
  unfold listener? at h ⊢
  show (hub.listeners ++ [_]).find? _ = _
  rw [List.find?_append, h]
  rfl

/-- A listener that comes is found under its number, which was not given out before. -/
theorem listener?_new (hub : Hub) (scope : Option ConnectionId) :
    (hub.subscribe scope).2.listener? (hub.subscribe scope).1 =
      some ⟨(hub.subscribe scope).1, { capacity := hub.capacity }⟩ := by
  have hAbsent : hub.listeners.find?
      (fun listener : Listener => listener.id == hub.nextId scope) = none := by
    refine List.find?_eq_none.mpr (fun listener hListener hSame => ?_)
    refine hub.nextId_notMem scope ?_
    rw [← beq_iff_eq.mp hSame]
    exact List.mem_map_of_mem hListener
  show (hub.listeners ++ [_]).find? (fun listener : Listener =>
    listener.id == hub.nextId scope) = _
  rw [List.find?_append, hAbsent]
  exact List.find?_cons_of_pos (p := fun listener : Listener => listener.id == hub.nextId scope)
    (beq_self_eq_true (hub.nextId scope))

theorem listener?_modify (known : ListenerId) (f : Channel Diagnostic → Channel Diagnostic)
    (h : hub.listener? id = some ⟨id, queue⟩) :
    (hub.modify known f).listener? id = some ⟨id, if id = known then f queue else queue⟩ := by
  -- what is done to a queue does not change whose queue it is
  have hSame : ((fun listener : Listener => listener.id == id) ∘ fun listener =>
      if listener.id = known then { listener with queue := f listener.queue } else listener) =
        fun listener => listener.id == id := by
    funext listener
    show ((if listener.id = known then _ else _ : Listener).id == id) = _
    split <;> rfl
  unfold listener? at h ⊢
  show (hub.listeners.map _).find? _ = _
  rw [List.find?_map, hSame, h, Option.map_some]
  split <;> rfl

/-- A report is the end of a listener that is reached and was let go, and of no other. -/
theorem after_eq (connection : Option ConnectionId) (report : Diagnostic) (listener : Listener) :
    listener.after connection report =
      if listener.id.Covers connection then
        if listener.queue.held then
          some { listener with queue := (listener.queue.offer report).2 }
        else none
      else some listener := by
  unfold Listener.after Listener.reach
  by_cases hCovers : listener.id.Covers connection
  · rw [if_pos (Listener.hears_iff.mpr hCovers), if_pos hCovers]
    cases hHeld : listener.queue.held with
    | false => simp [Channel.offer_of_released hHeld]
    | true =>
      by_cases hRoom : listener.queue.queue.length < listener.queue.capacity
      · simp [Channel.offer_of_room hHeld hRoom]
      · simp [Channel.offer_of_full hHeld (Nat.le_of_not_lt hRoom)]
  · rw [if_neg (fun hHears => hCovers (Listener.hears_iff.mp hHears)), if_neg hCovers]

theorem held_after {connection : Option ConnectionId} {report : Diagnostic}
    {listener kept : Listener} (h : listener.after connection report = some kept) :
    kept.queue.held = listener.queue.held := by
  rw [after_eq] at h
  split at h
  · split at h
    · cases h
      exact Channel.held_offer _ _
    · cases h
  · cases h
    rfl

/-- A listener that is held is offered what is for it. -/
theorem listener?_emit (connection : Option ConnectionId) (report : Diagnostic)
    (h : hub.listener? id = some ⟨id, queue⟩) (hHeld : queue.held = true) :
    (hub.emit connection report).listener? id =
      some ⟨id, if id.Covers connection then (queue.offer report).2 else queue⟩ := by
  have hAfter : Listener.after connection report ⟨id, queue⟩ =
      some ⟨id, if id.Covers connection then (queue.offer report).2 else queue⟩ := by
    rw [after_eq]
    dsimp only
    rw [if_pos hHeld]
    split <;> rfl
  -- the listeners before it have other ids, whether they stay or not
  have hFind : ∀ listeners : List Listener,
      listeners.find? (fun listener => listener.id == id) = some ⟨id, queue⟩ →
      (listeners.filterMap (Listener.after connection report)).find?
        (fun listener => listener.id == id) =
          some ⟨id, if id.Covers connection then (queue.offer report).2 else queue⟩ := by
    intro listeners
    induction listeners with
    | nil => intro hNone; cases hNone
    | cons listener rest ih =>
      intro hFound
      by_cases hId : listener.id = id
      · rw [List.find?_cons_of_pos (by simpa using hId)] at hFound
        cases hFound
        rw [List.filterMap_cons_some hAfter, List.find?_cons_of_pos (by simp)]
      · rw [List.find?_cons_of_neg (by simpa using hId)] at hFound
        cases hKept : listener.after connection report with
        | none => rw [List.filterMap_cons_none hKept, ih hFound]
        | some kept =>
          have hOther : kept.id ≠ id := Listener.id_after hKept ▸ hId
          rw [List.filterMap_cons_some hKept, List.find?_cons_of_neg (by simpa using hOther),
            ih hFound]
  unfold listener? at h ⊢
  rw [listeners_emit]
  exact hFind hub.listeners h

end Lookup

/-! ## What a listener gets -/

/-- What a listener with this queue gets of what is done: it is there with what is left of its
queue, what it reads and what is left are what was queued and what was admitted, and all is as if it
had a channel of its own. -/
structure Serves (hub : Hub) (id : ListenerId) (queue : Channel Diagnostic) (acts : List Act)
    (left : Channel Diagnostic) : Prop where
  found : (hub.run acts).2.listener? id = some ⟨id, left⟩
  held : left.held = true
  /-- Nothing is discarded: what is lost was never queued. -/
  moved : queue.Moves left ((hub.run acts).1.flatMap (Step.heard id)) []
    ((hub.run acts).1.flatMap (Step.admitted queue.capacity id))
  alone : Notice.allOn queue (acts.filterMap (Act.notice? id)) =
    ((hub.run acts).1.flatMap (Step.heard id), left)

namespace Serves

variable {hub : Hub} {id : ListenerId} {queue left last : Channel Diagnostic}

theorem refl (hFound : hub.listener? id = some ⟨id, queue⟩) (hHeld : queue.held = true) :
    Serves hub id queue [] queue :=
  ⟨hFound, hHeld, .refl queue, rfl⟩

/-- What it gets of one thing that is done. -/
theorem single {act : Act} (hFound : (hub.carry act).2.listener? id = some ⟨id, left⟩)
    (hHeld : left.held = true)
    (hMoved : queue.Moves left ((hub.step act).heard id) []
      ((hub.step act).admitted queue.capacity id))
    (hAlone : ((act.notice? id).map (Notice.on queue)).getD ([], queue) =
      ((hub.step act).heard id, left)) : Serves hub id queue [act] left where
  found := hFound
  held := hHeld
  moved := by
    show queue.Moves left ([hub.step act].flatMap _) [] ([hub.step act].flatMap _)
    rw [List.flatMap_singleton, List.flatMap_singleton]
    exact hMoved
  alone := by
    show _ = ([hub.step act].flatMap _, left)
    rw [List.flatMap_singleton, ← hAlone]
    cases hNotice : act.notice? id with
    | none => rw [List.filterMap_cons_none hNotice]; rfl
    | some notice =>
      rw [List.filterMap_cons_some hNotice]
      show ((notice.on queue).1 ++ [], (notice.on queue).2) = notice.on queue
      rw [List.append_nil]

theorem trans {acts later : List Act} (hFirst : Serves hub id queue acts left)
    (hSecond : Serves (hub.run acts).2 id left later last) (hFit : queue.Fit) :
    Serves hub id queue (acts ++ later) last where
  found := by
    rw [run_append]
    exact hSecond.found
  held := hSecond.held
  moved := by
    rw [run_append, List.flatMap_append, List.flatMap_append]
    -- both times the room is that of the first queue
    have hMoved := hSecond.moved
    rw [hFirst.moved.capacity] at hMoved
    exact hFirst.moved.trans hMoved hFit
  alone := by
    rw [run_append, List.filterMap_append, List.flatMap_append, Notice.allOn_append, hFirst.alone]
    dsimp only
    rw [hSecond.alone]

theorem subscribe (scope : Option ConnectionId) (hFound : hub.listener? id = some ⟨id, queue⟩)
    (hHeld : queue.held = true) : Serves hub id queue [.subscribe scope] queue :=
  single (listener?_subscribe scope hFound) hHeld (.refl queue) rfl

theorem emit (connection : Option ConnectionId) (report : Diagnostic)
    (hFound : hub.listener? id = some ⟨id, queue⟩) (hHeld : queue.held = true)
    (hFit : queue.Fit) : ∃ left, Serves hub id queue [.emit connection report] left := by
  have hAfter := listener?_emit connection report hFound hHeld
  have hQueued := queued_of_listener? hFound
  by_cases hCovers : id.Covers connection
  · rw [if_pos hCovers] at hAfter
    refine ⟨_, single hAfter ((Channel.held_offer _ _).trans hHeld) ?_ ?_⟩
    · -- it is admitted if there is room
      have hMoves := Channel.Moves.offer queue report
      rw [if_pos hHeld] at hMoves
      have hAdmitted : (hub.step (.emit connection report)).admitted queue.capacity id =
          if queue.queue.length < queue.capacity then [report] else [] := by
        show (if id.Covers connection ∧ (hub.queued id).length ≠ queue.capacity then _ else _) = _
        rw [hQueued]
        -- a queue never holds more than it can, so that it is full or has room
        have hRoom := hFit.room
        exact if_congr ⟨fun h => by omega, fun h => ⟨hCovers, by omega⟩⟩ rfl rfl
      rw [hAdmitted]
      exact hMoves
    · rw [Act.notice?_emit_of_covers hCovers]
      rfl
  · rw [if_neg hCovers] at hAfter
    refine ⟨queue, single hAfter hHeld ?_ ?_⟩
    · have hAdmitted : (hub.step (.emit connection report)).admitted queue.capacity id = [] :=
        if_neg (fun h => hCovers h.1)
      rw [hAdmitted]
      exact .refl queue
    · rw [Act.notice?_emit_of_not_covers hCovers]
      rfl

/-- Its own use of its queue, or another listener's. -/
theorem use (known : ListenerId) (how : ListenerUse)
    (hFound : hub.listener? id = some ⟨id, queue⟩) (hHeld : queue.held = true)
    (hKept : Act.use known how ≠ .use id .release) :
    ∃ left, Serves hub id queue [.use known how] left := by
  have hQueued := queued_of_listener? hFound
  by_cases hOwn : known = id
  · subst hOwn
    have hAfter : ∀ f, (hub.modify known f).listener? known = some ⟨known, f queue⟩ := by
      intro f
      rw [listener?_modify known f hFound, if_pos rfl]
    cases how with
    | receive =>
      have hHeard : (hub.step (.use known .receive)).heard known = queue.receive.1.toList := by
        show (if known = known then (hub.queued known).head?.toList else []) = _
        rw [if_pos rfl, hQueued, Channel.receive_eq]
      refine ⟨queue.receive.2, single (hAfter _) ?_ ?_ ?_⟩
      · rw [Channel.receive_eq]
        exact hHeld
      · rw [hHeard]
        exact .receive queue
      · rw [hHeard, Act.notice?_use_self]
        rfl
    | drain =>
      have hHeard : (hub.step (.use known .drain)).heard known = queue.queue := by
        show (if known = known then hub.queued known else []) = _
        rw [if_pos rfl, hQueued]
      refine ⟨queue.drain.2, single (hAfter _) hHeld ?_ ?_⟩
      · rw [hHeard]
        exact .drain queue
      · rw [hHeard, Act.notice?_use_self]
        rfl
    | release => exact absurd rfl hKept
  · -- what is done to another queue
    have hAfter : (hub.carry (.use known how)).2.listener? id = some ⟨id, queue⟩ := by
      cases how <;> exact (listener?_modify known _ hFound).trans (by rw [if_neg (Ne.symm hOwn)])
    -- and what another listener reads
    have hHeard : (hub.step (.use known how)).heard id = [] := by
      cases how with
      | receive => exact if_neg hOwn
      | drain => exact if_neg hOwn
      | release => rfl
    refine ⟨queue, single hAfter hHeld ?_ ?_⟩
    · rw [hHeard]
      exact .refl queue
    · rw [hHeard, Act.notice?_use_other hOwn]
      rfl

end Serves

/-- What a listener that is there and is kept gets of all that is done. -/
theorem serves_run {hub : Hub} {id : ListenerId} {queue : Channel Diagnostic} {acts : List Act}
    (hFound : hub.listener? id = some ⟨id, queue⟩) (hHeld : queue.held = true) (hFit : queue.Fit)
    (hKept : Act.use id .release ∉ acts) : ∃ left, Serves hub id queue acts left := by
  -- by induction on what is done: what is left of the queue goes into the next step
  induction acts generalizing hub queue with
  | nil => exact ⟨queue, .refl hFound hHeld⟩
  | cons act rest ih =>
    have hNotThis := List.ne_of_not_mem_cons hKept
    obtain ⟨left, hFirst⟩ : ∃ left, Serves hub id queue [act] left := by
      cases act with
      | subscribe scope => exact ⟨queue, .subscribe scope hFound hHeld⟩
      | emit connection report => exact Serves.emit connection report hFound hHeld hFit
      | use known how => exact Serves.use known how hFound hHeld hNotThis.symm
    obtain ⟨last, hRest⟩ := ih hFirst.found hFirst.held (hFirst.moved.fit hFit)
      (List.not_mem_of_not_mem_cons hKept)
    exact ⟨last, hFirst.trans hRest hFit⟩

/-! ## Which listeners there are -/

/-- At some step, something held of that step and of those before it. -/
def Happened (kind : List Step → Step → Prop) (steps : List Step) : Prop :=
  ∃ earlier step later, steps = earlier ++ step :: later ∧ kind earlier step

/-- The listeners that came, in order. -/
def handles (steps : List Step) : List ListenerId := steps.filterMap Step.handle?

/-- A listener came, and was let go after that. -/
def Released (id : ListenerId) : List Step → Prop :=
  Happened (fun earlier step => id ∈ handles earlier ∧ step.act = .use id .release)

/-- A listener came, was let go after that, and something was emitted for it after that. -/
def Pruned (id : ListenerId) : List Step → Prop :=
  Happened (fun earlier step => Released id earlier ∧
    ∃ connection diagnostic, step.act = .emit connection diagnostic ∧ id.Covers connection)

theorem happened_concat {kind : List Step → Step → Prop} {steps : List Step} {step : Step} :
    Happened kind (steps ++ [step]) ↔ Happened kind steps ∨ kind steps step := by
  constructor
  · rintro ⟨earlier, known, later, hSteps, hKind⟩
    rcases List.eq_nil_or_concat later with rfl | ⟨before, last, rfl⟩
    · -- it was the last step
      obtain ⟨rfl, hLast⟩ := List.append_inj' hSteps rfl
      cases hLast
      exact .inr hKind
    · rw [List.concat_eq_append, ← List.cons_append, ← List.append_assoc] at hSteps
      exact .inl ⟨earlier, known, before, (List.append_inj' hSteps rfl).1, hKind⟩
  · rintro (⟨earlier, known, later, rfl, hKind⟩ | hKind)
    · exact ⟨earlier, known, later ++ [step], by simp, hKind⟩
    · exact ⟨steps, step, [], rfl, hKind⟩

section Standing

variable {steps : List Step} {step : Step} {id : ListenerId}

theorem handles_concat : handles (steps ++ [step]) = handles steps ++ step.handle?.toList := by
  unfold handles
  rw [List.filterMap_append]
  cases h : step.handle? <;> simp [h]

theorem released_concat (h : step.act ≠ .use id .release) :
    Released id (steps ++ [step]) ↔ Released id steps :=
  happened_concat.trans (or_iff_left (fun hLast => h hLast.2))

theorem pruned_concat (h : ∀ connection diagnostic, step.act ≠ .emit connection diagnostic) :
    Pruned id (steps ++ [step]) ↔ Pruned id steps := by
  refine happened_concat.trans (or_iff_left ?_)
  rintro ⟨-, connection, diagnostic, hAct, -⟩
  exact h connection diagnostic hAct

theorem Released.mem_handles (h : Released id steps) : id ∈ handles steps := by
  obtain ⟨earlier, step, later, rfl, hHandle, -⟩ := h
  unfold handles
  rw [List.filterMap_append]
  exact List.mem_append_left _ hHandle

theorem Released.append (h : Released id steps) (later : List Step) :
    Released id (steps ++ later) := by
  obtain ⟨earlier, step, rest, rfl, hKind⟩ := h
  exact ⟨earlier, step, rest ++ later, by simp, hKind⟩

theorem Pruned.released (h : Pruned id steps) : Released id steps := by
  obtain ⟨earlier, step, later, rfl, hReleased, -⟩ := h
  exact hReleased.append _

end Standing

/-- How the listeners of a hub follow from what was done. -/
structure Roll (steps : List Step) (hub : Hub) : Prop where
  handles_nodup : (handles steps).Nodup
  /-- The next number in a scope is above those given out. -/
  numbered : ∀ id ∈ handles steps, id.index < hub.issued.count id.scope
  known : ∀ id, id ∈ hub.listeners.map Listener.id ↔ id ∈ handles steps ∧ ¬Pruned id steps
  held : ∀ listener ∈ hub.listeners,
    listener.queue.held = false ↔ Released listener.id steps

namespace Roll

variable {steps : List Step} {hub : Hub}

theorem start (capacity : Nat) : Roll [] { capacity } where
  handles_nodup := .nil
  numbered id h := by cases h
  known id := by
    show id ∈ [] ↔ id ∈ [] ∧ _
    simp
  held listener h := by cases h

theorem subscribe (hRoll : Roll steps hub) (scope : Option ConnectionId) :
    Roll (steps ++ [hub.step (.subscribe scope)]) (hub.subscribe scope).2 := by
  have hHandles : handles (steps ++ [hub.step (.subscribe scope)]) =
      handles steps ++ [(hub.subscribe scope).1] := handles_concat
  have hReleased : ∀ id, Released id (steps ++ [hub.step (.subscribe scope)]) ↔
      Released id steps := fun id => released_concat (fun hAct => by cases hAct)
  have hPruned : ∀ id, Pruned id (steps ++ [hub.step (.subscribe scope)]) ↔ Pruned id steps :=
    fun id => pruned_concat (fun _ _ hAct => by cases hAct)
  have hListeners : (hub.subscribe scope).2.listeners.map Listener.id =
      hub.listeners.map Listener.id ++ [(hub.subscribe scope).1] := by
    show (hub.listeners ++ [_]).map Listener.id = _
    rw [List.map_append]
    rfl
  -- its number was not given out before, so that nothing was done with it yet
  have hNew : (hub.subscribe scope).1 ∉ handles steps := fun hOld =>
    Nat.lt_irrefl _ (hRoll.numbered _ hOld)
  constructor
  case handles_nodup =>
    rw [hHandles]
    exact hRoll.handles_nodup.append (List.nodup_singleton _) (by simpa using hNew)
  case numbered =>
    intro id hId
    rw [hHandles] at hId
    show id.index < (hub.issued ++ [scope]).count id.scope
    rw [List.count_append]
    rcases List.mem_append.mp hId with hOld | hNow
    · exact Nat.lt_add_right _ (hRoll.numbered id hOld)
    · rw [List.mem_singleton.mp hNow]
      show hub.issued.count scope < hub.issued.count scope + [scope].count scope
      rw [List.count_singleton_self]
      exact Nat.lt_succ_self _
  case known =>
    intro id
    -- the new one is there, and was not let go before it came
    rw [hListeners, hHandles, List.mem_append, List.mem_append, hPruned, hRoll.known,
      List.mem_singleton, or_and_right]
    refine or_congr_right ⟨fun hId => ⟨hId, fun hGone => hNew ?_⟩, fun h => h.1⟩
    rw [← hId]
    exact hGone.released.mem_handles
  case held =>
    intro listener hListener
    rw [hReleased]
    rcases List.mem_append.mp hListener with hOld | hNow
    · exact hRoll.held listener hOld
    · rw [List.mem_singleton.mp hNow]
      exact iff_of_false (fun h => by cases h) (fun h => hNew h.mem_handles)

theorem emit (hRoll : Roll steps hub) (connection : Option ConnectionId) (report : Diagnostic) :
    Roll (steps ++ [hub.step (.emit connection report)]) (hub.emit connection report) := by
  have hHandles : handles (steps ++ [hub.step (.emit connection report)]) = handles steps :=
    handles_concat.trans (List.append_nil _)
  have hReleased : ∀ id, Released id (steps ++ [hub.step (.emit connection report)]) ↔
      Released id steps := fun id => released_concat (fun hAct => by cases hAct)
  have hPruned : ∀ id, Pruned id (steps ++ [hub.step (.emit connection report)]) ↔
      Pruned id steps ∨ Released id steps ∧ id.Covers connection := by
    intro id
    refine happened_concat.trans (or_congr_right (and_congr_right (fun _ => ?_)))
    refine ⟨?_, fun hCovers => ⟨connection, report, rfl, hCovers⟩⟩
    rintro ⟨_, _, hAct, hCovers⟩
    cases hAct
    exact hCovers
  -- a listener stays unless it is reached and was let go
  have hAfter : ∀ listener ∈ hub.listeners, (listener.after connection report).isSome ↔
      ¬(Released listener.id steps ∧ listener.id.Covers connection) := by
    intro listener hListener
    rw [← hRoll.held listener hListener, after_eq]
    by_cases hCovers : listener.id.Covers connection <;>
      cases listener.queue.held <;> simp [hCovers]
  constructor
  case handles_nodup =>
    rw [hHandles]
    exact hRoll.handles_nodup
  case numbered =>
    rw [hHandles]
    exact hRoll.numbered
  case known =>
    intro id
    rw [hHandles, hPruned, not_or, ← and_assoc, ← hRoll.known]
    simp only [List.mem_map]
    constructor
    · rintro ⟨kept, hKept, rfl⟩
      rw [listeners_emit] at hKept
      obtain ⟨listener, hListener, hSome⟩ := List.mem_filterMap.mp hKept
      rw [Listener.id_after hSome]
      exact ⟨⟨listener, hListener, rfl⟩,
        (hAfter listener hListener).mp (by rw [hSome]; rfl)⟩
    · rintro ⟨⟨listener, hListener, rfl⟩, hStays⟩
      obtain ⟨kept, hKept⟩ := Option.isSome_iff_exists.mp ((hAfter listener hListener).mpr hStays)
      refine ⟨kept, ?_, Listener.id_after hKept⟩
      rw [listeners_emit]
      exact List.mem_filterMap.mpr ⟨listener, hListener, hKept⟩
  case held =>
    intro kept hKept
    rw [listeners_emit] at hKept
    obtain ⟨listener, hListener, hSome⟩ := List.mem_filterMap.mp hKept
    rw [held_after hSome, Listener.id_after hSome, hReleased]
    exact hRoll.held listener hListener

/-- What is done to a queue lets go of it or not. -/
theorem modify (hRoll : Roll steps hub) (id : ListenerId) (how : ListenerUse)
    {f : Channel Diagnostic → Channel Diagnostic}
    (hLetGo : how = .release → ∀ queue, (f queue).held = false)
    (hKept : how ≠ .release → ∀ queue, (f queue).held = queue.held) :
    Roll (steps ++ [hub.step (.use id how)]) (hub.modify id f) := by
  have hHandles : handles (steps ++ [hub.step (.use id how)]) = handles steps := by
    rw [handles_concat]
    cases how <;> exact List.append_nil _
  have hPruned : ∀ known, Pruned known (steps ++ [hub.step (.use id how)]) ↔ Pruned known steps :=
    fun known => pruned_concat (fun _ _ hAct => by cases hAct)
  have hListeners : (hub.modify id f).listeners.map Listener.id =
      hub.listeners.map Listener.id := ids_modify hub.listeners id f
  constructor
  case handles_nodup =>
    rw [hHandles]
    exact hRoll.handles_nodup
  case numbered =>
    rw [hHandles]
    exact hRoll.numbered
  case known =>
    intro known
    rw [hListeners, hHandles, hPruned]
    exact hRoll.known known
  case held =>
    intro changed hChanged
    obtain ⟨listener, hListener, rfl⟩ := List.mem_map.mp hChanged
    have hHeld := hRoll.held listener hListener
    by_cases hOwn : listener.id = id
    · rw [if_pos hOwn]
      dsimp only
      by_cases hHow : how = .release
      · -- it is let go now, and it is one that came
        subst hHow
        refine iff_of_true (hLetGo rfl _) (happened_concat.mpr (.inr ⟨?_, ?_⟩))
        · exact ((hRoll.known _).mp (List.mem_map_of_mem hListener)).1
        · rw [hOwn]
          rfl
      · rw [hKept hHow, hHeld, released_concat (fun hAct => hHow (by cases hAct; rfl))]
    · rw [if_neg hOwn, hHeld, released_concat (fun hAct => hOwn (by cases hAct; rfl))]

theorem carry (hRoll : Roll steps hub) (act : Act) :
    Roll (steps ++ [hub.step act]) (hub.carry act).2 := by
  cases act with
  | subscribe scope => exact hRoll.subscribe scope
  | emit connection report => exact hRoll.emit connection report
  | use id how =>
    cases how with
    | receive =>
      show Roll _ (hub.modify id (fun queue => queue.receive.2))
      refine hRoll.modify id .receive (fun hHow => by cases hHow) (fun _ queue => ?_)
      rw [Channel.receive_eq]
    | drain =>
      show Roll _ (hub.modify id (fun queue => queue.drain.2))
      exact hRoll.modify id .drain (fun hHow => by cases hHow) (fun _ _ => rfl)
    | release => exact hRoll.modify id .release (fun _ _ => rfl) (fun hHow => absurd rfl hHow)

/-- The listeners that came are those there and those that are gone. -/
theorem count (hRoll : Roll steps hub) :
    hub.listenerCount + {id | Pruned id steps}.ncard = (handles steps).length := by
  -- the ids that are gone are those that came, less those there
  have hGone : {id | Pruned id steps} =
      ((handles steps).toFinset \ (hub.listeners.map Listener.id).toFinset :
        Finset ListenerId) := by
    ext id
    rw [Finset.mem_coe, Finset.mem_sdiff, List.mem_toFinset, List.mem_toFinset, hRoll.known]
    constructor
    · exact fun hPruned => ⟨hPruned.released.mem_handles, fun h => h.2 hPruned⟩
    · rintro ⟨hHandle, hNot⟩
      by_contra hPruned
      exact hNot ⟨hHandle, hPruned⟩
  have hThere : (hub.listeners.map Listener.id).toFinset ⊆ (handles steps).toFinset := by
    intro id hId
    rw [List.mem_toFinset] at hId ⊢
    exact ((hRoll.known id).mp hId).1
  have hCount := Finset.card_sdiff_add_card_eq_card hThere
  rw [List.toFinset_card_of_nodup hub.distinct, List.toFinset_card_of_nodup hRoll.handles_nodup,
    List.length_map] at hCount
  rw [hGone, Set.ncard_coe_finset, ← hCount, Nat.add_comm]
  rfl

end Roll

/-- The listeners of a hub follow from what was done. -/
theorem roll_run (capacity : Nat) (acts : List Act) :
    Roll (({ capacity } : Hub).run acts).1 (({ capacity } : Hub).run acts).2 := by
  -- by induction on what is done, the last thing coming last
  induction acts using List.reverseRecOn with
  | nil => exact .start capacity
  | append_singleton acts act ih =>
    rw [run_append]
    exact ih.carry act

/-- As many listeners came as there were subscriptions. -/
theorem length_handles (hub : Hub) (acts : List Act) :
    (handles (hub.run acts).1).length = acts.countP Act.subscribes := by
  unfold handles
  induction acts generalizing hub with
  | nil => rfl
  | cons act rest ih =>
    rw [run_cons, List.countP_cons, ← ih (hub.carry act).2]
    cases act with
    | subscribe | emit => rfl
    | use id how => cases how <;> rfl

theorem capacity_run (hub : Hub) (acts : List Act) : (hub.run acts).2.capacity = hub.capacity := by
  induction acts generalizing hub with
  | nil => rfl
  | cons act rest ih =>
    rw [run_cons]
    refine (ih _).trans ?_
    cases act with
    | subscribe | emit => rfl
    | use id how => cases how <;> rfl

/-- The queue of a listener never holds more than it can. -/
theorem Serves.length_le {hub : Hub} {id : ListenerId} {queue left : Channel Diagnostic}
    {acts : List Act} (hServes : Serves hub id queue acts left) (hFit : queue.Fit) :
    ((hub.run acts).2.queued id).length ≤ queue.capacity := by
  rw [queued_of_listener? hServes.found, ← hServes.moved.capacity]
  exact (hServes.moved.fit hFit).room

/-- What a hub does for its listeners, for every run. A listener is held from when it comes, at any
point of any run. What it reads and what is queued for it are, in order, what was emitted for it
since then, but for what was emitted while its queue held all it can; the queue never holds more;
and both are what it would read off, and find in, a channel of its own. The listeners that the hub
knows of are those that came and were not reached by a report after they were let go, and with
those that were they make up the subscriptions. -/
theorem fans_out (capacity : Nat) :
    (∀ past earlier hub scope id joined later steps last,
      ({ capacity } : Hub).run past = (earlier, hub) → hub.subscribe scope = (id, joined) →
      joined.run later = (steps, last) → Act.use id .release ∉ later →
      steps.flatMap (Step.heard id) ++ last.queued id =
        steps.flatMap (Step.admitted capacity id) ∧
      (last.queued id).length ≤ capacity ∧
      ∃ left, last.listener? id = some ⟨id, left⟩ ∧
        Notice.allOn { capacity } (later.filterMap (Act.notice? id)) =
          (steps.flatMap (Step.heard id), left)) ∧
    (∀ acts steps last, ({ capacity } : Hub).run acts = (steps, last) →
      (∀ id, id ∈ last.listeners.map Listener.id ↔ id ∈ handles steps ∧ ¬Pruned id steps) ∧
      last.listenerCount + {id | Pruned id steps}.ncard = acts.countP Act.subscribes) := by
  constructor
  · intro past earlier hub scope id joined later steps last hPast hJoined hLater hKept
    have hCapacity := capacity_run { capacity } past
    rw [hPast] at hCapacity
    have hFound := hub.listener?_new scope
    rw [hJoined] at hFound
    dsimp only at hFound hCapacity
    rw [hCapacity] at hFound
    -- it starts with an empty queue
    have hFit : ({ capacity } : Channel Diagnostic).Fit := ⟨Nat.zero_le _, fun _ => rfl⟩
    obtain ⟨left, hServes⟩ := serves_run hFound rfl hFit hKept
    have hLength := hServes.length_le hFit
    obtain ⟨hThere, -, hMoved, hAlone⟩ := hServes
    rw [hLater] at hThere hMoved hAlone hLength
    refine ⟨?_, hLength, left, hThere, hAlone⟩
    have hQueue := hMoved.queue
    rw [List.append_nil] at hQueue
    rw [queued_of_listener? hThere]
    exact hQueue
  · intro acts steps last hRun
    -- who is there, and so how many
    have hRoll := roll_run capacity acts
    have hLength := length_handles { capacity } acts
    rw [hRun] at hRoll hLength
    exact ⟨hRoll.known, hRoll.count.trans hLength⟩

/-- That a connection has given up its publication on a service. -/
def removal (service : String) : Diagnostic := .removePublication service []

/-- A listener to all diagnostics has its queue full, and is let go. -/
def Act.deserting : List Act :=
  [.subscribe none, .emit (some ⟨1⟩) (removal "a"), .use ⟨none, 0⟩ .release]

/-- Diagnostics of no connection and of one, of which the listener to that one reads the first. -/
def Act.listening : List Act :=
  [.emit none (removal "b"), .emit (some ⟨1⟩) (removal "c"), .emit (some ⟨1⟩) (removal "d"),
    .use ⟨some ⟨1⟩, 0⟩ .receive, .emit (some ⟨1⟩) (removal "e")]

/-- Both, with the subscription of that listener in between. -/
def Act.attended : List Act := Act.deserting ++ .subscribe (some ⟨1⟩) :: Act.listening

/-- With room for one, the listener gets all but the one that found its queue full, and the one that
was let go is gone. -/
theorem fans_out_attended :
    ∃ earlier hub joined steps last,
      ({ capacity := 1 } : Hub).run Act.deserting = (earlier, hub) ∧
      hub.subscribe (some ⟨1⟩) = (⟨some ⟨1⟩, 0⟩, joined) ∧
      joined.run Act.listening = (steps, last) ∧
      steps.flatMap (Step.heard ⟨some ⟨1⟩, 0⟩) ++ last.queued ⟨some ⟨1⟩, 0⟩ =
        [removal "c", removal "e"] ∧
      last.listenerCount = 1 ∧
      {id | Pruned id (({ capacity := 1 } : Hub).run Act.attended).1}.ncard = 1 := by
  obtain ⟨hGets, hCounts⟩ := fans_out 1
  refine ⟨_, _, _, _, _, rfl, rfl, rfl, ?_, ?_, ?_⟩
  · have hKept : Act.use ⟨some ⟨1⟩, 0⟩ .release ∉ Act.listening := by simp [Act.listening]
    have hGot := hGets Act.deserting _ _ (some ⟨1⟩) _ _ Act.listening _ _ rfl rfl rfl hKept
    exact hGot.1
  · rfl
  · have hCount := (hCounts Act.attended _ _
      (Prod.eta (({ capacity := 1 } : Hub).run Act.attended)).symm).2
    have hLeft : (({ capacity := 1 } : Hub).run Act.attended).2.listenerCount = 1 := rfl
    have hCame : Act.attended.countP Act.subscribes = 2 := rfl
    rw [hLeft, hCame] at hCount
    omega

end Hub

end Fanout
