import Fanout.Proofs.Chronicle
import Fanout.Proofs.Machine
import Fanout.Proofs.Tally

/-!
# Fanout — the journal of a routing

A routing leaves a summary and a server, and what happened to the single publications
does not show. Its journal has an entry for each trial: the record, the server that the
predicate was asked on and the one that it left, its answer, and the server after what
followed from that. Predicates may do anything on the way, also start routings of their
own, and all of it lies between the server asked and the server left.

Nothing is said about the order of the trials: whichever way a routing takes through
the publications on its service, it has a journal.

## Main definitions

* `Server.Trial` — the trial of one publication.
* `Trial.Lawful` — what a trial is, and what it does to the records of sessions.
* `Frame.Journal` — the trials of a routing so far.
* `Machine.Stands` — how far a routing under way has come.

## Results

* `Machine.Stands.step` — a step takes a routing from one stage to the next, or leaves it there.
* `Machine.During.journal` — a routing that comes to its end has a journal of all of its snapshot.
-/

namespace Fanout

open Server (Progress Views)

/-! ## Trials -/

/-- What the answer of a predicate comes to, on the registry that the predicate left. -/
def Verdict.of (registry : Registry) (delivery : Delivery) (publication : Publication) :
    Except FilterError Bool → Verdict
  | .ok true => .matched (registry.deliver publication.session delivery).1
  | .ok false => .suppressed
  | .error _ => .failed

namespace Server

/-- The trial of one publication in a routing. -/
structure Trial where
  connection : ConnectionId
  publication : Publication
  /-- The record that the publication was tested on. -/
  record : Json
  /-- The server that the predicate was asked on. -/
  asked : Server
  result : Except FilterError Bool
  /-- The server as the predicate left it. -/
  answered : Server
  /-- The server after what followed from the answer. -/
  concluded : Server

namespace Trial

/-- The publication with its connection, as it stands in a snapshot. -/
def entry (trial : Trial) : ConnectionId × Publication := (trial.connection, trial.publication)

/-- What became of the publication. -/
def verdict (trial : Trial) (config : Config) (mutation : Mutation) : Verdict :=
  .of trial.answered.registry (mutation.deliveryTo config trial.connection) trial.publication
    trial.result

/-- The connection of the publication, if the sink turned out to be gone. -/
def gone (trial : Trial) (config : Config) (mutation : Mutation) : List ConnectionId :=
  if trial.verdict config mutation = .matched .disconnected then [trial.connection] else []

/-- The predicate accepted the record, and the session that the publication was added in goes on
once it has done so. -/
def Hands (trial : Trial) : Prop :=
  trial.result = .ok true ∧
    trial.answered.registry.state? trial.publication.session = some .opened

/-- What a trial is, and what it does to the records of sessions. The predicate is carried out on
the record while the routings below stay as they are. -/
structure Lawful (trial : Trial) (config : Config) (mutation : Mutation) (outer : List Frame) :
    Prop where
  record : trial.record = trial.publication.testedOn config mutation
  carried : ∃ (frame : Frame) (acts : List Event),
    frame.focus = some (trial.entry, trial.publication.predicate.behave trial.record) ∧
    Machine.During outer.length ⟨trial.asked, frame :: outer⟩ acts
      ⟨trial.answered, frame.resume trial.entry (.answer trial.result) :: outer⟩
  /-- The delivery is put on the record of one session, with the answer of its sink. -/
  handed : trial.Hands → ∃ answer, ∀ id,
    trial.concluded.registry.log id = trial.answered.registry.log id ++
      if id = trial.publication.session then [(mutation.deliveryTo config trial.connection, answer)]
      else []
  /-- Otherwise nothing is handed to anybody. -/
  kept : ¬trial.Hands → ∀ id,
    trial.concluded.registry.log id = trial.answered.registry.log id

/-- Each trial starts on the server that the one before it concluded with. -/
def Linked : Server → List Trial → Server → Prop
  | before, [], after => before = after
  | before, trial :: later, after => trial.asked = before ∧ Linked trial.concluded later after

theorem Linked.concat {before : Server} {trials : List Trial} {trial : Trial}
    (h : Linked before trials trial.asked) : Linked before (trials ++ [trial]) trial.concluded := by
  induction trials generalizing before with
  | nil => exact ⟨h.symm, rfl⟩
  | cons first later ih => exact ⟨h.1, ih h.2⟩

end Trial

variable {mutation : Mutation} {views : Views}

/-! ## What follows from an answer -/

theorem Progress.summary_conclude (progress : Progress) (config : Config)
    (entry : ConnectionId × Publication) (result : Except FilterError Bool) :
    (progress.conclude mutation (Views.of (config.serverFieldsFor mutation.service) mutation) entry
        result).summary =
      progress.summary.plus (.tally [.of progress.server.registry
        (mutation.deliveryTo config entry.1) entry.2 result]) := by
  cases result with
  | error error => rfl
  | ok accepted =>
    cases accepted with
    | true => exact progress.summary_deliver entry.2 _
    | false => rfl

theorem Progress.gone_conclude (progress : Progress) (config : Config)
    (entry : ConnectionId × Publication) (result : Except FilterError Bool) :
    (progress.conclude mutation (Views.of (config.serverFieldsFor mutation.service) mutation) entry
        result).gone =
      progress.gone ++
        if Verdict.of progress.server.registry (mutation.deliveryTo config entry.1) entry.2 result =
          .matched .disconnected then [entry.1] else [] := by
  cases result with
  | error error => exact (List.append_nil _).symm
  | ok accepted =>
    cases accepted with
    | false => exact (List.append_nil _).symm
    | true =>
      show (progress.deliver entry.2 (mutation.deliveryTo config entry.1)).gone = _
      unfold Progress.deliver Verdict.of
      -- only a sink that is gone is noted
      generalize progress.server.registry.deliver entry.2.session _ = handed
      obtain ⟨outcome, registry⟩ := handed
      cases outcome with
      | disconnected => rfl
      | delivered | full | closed => exact (List.append_nil _).symm

/-- A match is put on the record of the session that its publication was added in, if that goes
on; whether the publication still stands in the registry plays no part. -/
theorem Progress.log_conclude_of_opened (progress : Progress) (config : Config)
    (entry : ConnectionId × Publication)
    (hOpened : progress.server.registry.state? entry.2.session = some .opened) :
    ∃ answer, ∀ id, (progress.conclude mutation
        (Views.of (config.serverFieldsFor mutation.service) mutation) entry
        (.ok true)).server.registry.log id =
      progress.server.registry.log id ++
        if id = entry.2.session then [(mutation.deliveryTo config entry.1, answer)] else [] := by
  obtain ⟨session, hSession, hState⟩ := Option.map_eq_some_iff.mp hOpened
  have hRegistry := (Progress.deliver_of_opened progress (mutation.deliveryTo config entry.1)
    hSession hState).1
  refine ⟨(session.sink.deliver (mutation.deliveryTo config entry.1)).1, fun id => ?_⟩
  show (progress.deliver entry.2 (mutation.deliveryTo config entry.1)).server.registry.log id = _
  rw [hRegistry, Registry.log_withDelivery hSession]

/-- Nothing else is put on record. -/
theorem Progress.log_conclude_of_kept (progress : Progress) (entry : ConnectionId × Publication)
    (result : Except FilterError Bool)
    (h : ¬(result = .ok true ∧
      progress.server.registry.state? entry.2.session = some .opened)) (id : SessionId) :
    (progress.conclude mutation views entry result).server.registry.log id =
      progress.server.registry.log id := by
  cases result with
  | error error => rfl
  | ok accepted =>
    cases accepted with
    | false => rfl
    | true =>
      have hNotOpened : progress.server.registry.state? entry.2.session ≠ some .opened :=
        fun hOpened => h ⟨rfl, hOpened⟩
      -- there is no such session, or it leaves its sink alone
      have hHanded : ∀ delivery,
          (progress.server.registry.deliver entry.2.session delivery).2.log id =
            progress.server.registry.log id := by
        intro delivery
        rw [Registry.deliver_snd, Registry.modifySession_eq_self]
        intro session hSession
        have hClosed : session.state = .closed := by
          rw [Registry.state?_of_get? hSession] at hNotOpened
          cases hState : session.state with
          | opened => exact absurd (congrArg some hState) hNotOpened
          | closed => rfl
        rw [Session.deliver_of_closed hClosed]
      show (progress.deliver _ _).server.registry.log id = _
      unfold Progress.deliver
      dsimp only
      split <;> exact hHanded _

end Server

open Server (Trial)

/-! ## Journals -/

/-- The trials of a routing so far, from the server that it started on to the one of now. -/
structure Frame.Journal (frame : Frame) (first : Server) (config : Config) (mutation : Mutation)
    (outer : List Frame) (trials : List Trial) (now : Server) : Prop where
  reached : ∃ during, Machine.During outer.length
    ⟨first, Frame.start first frame.counted mutation :: outer⟩ during ⟨now, frame :: outer⟩
  event : frame.mutation = mutation
  views : frame.views = Views.of (config.serverFieldsFor mutation.service) mutation
  /-- What has been tried and what is still to be tested are the publications of the snapshot. -/
  entries : (trials.map Trial.entry ++ frame.rest).Perm (first.registry.snapshot mutation.service)
  linked : Trial.Linked first trials now
  lawful : ∀ trial ∈ trials, trial.Lawful config mutation outer
  summary : frame.summary = .tally (trials.map (fun trial => trial.verdict config mutation))
  gone : frame.gone = trials.flatMap (fun trial => trial.gone config mutation)

namespace Frame

variable {first now asked : Server} {config : Config} {mutation : Mutation} {outer : List Frame}
  {trials : List Trial}

theorem Journal.start (first : Server) (counted : Bool) (mutation : Mutation)
    (outer : List Frame) :
    (start first counted mutation).Journal first first.registry.config mutation outer [] first where
  reached := ⟨[], .start⟩
  event := rfl
  views := rfl
  entries := .refl _
  linked := rfl
  lawful trial h := by cases h
  summary := rfl
  gone := rfl

/-- The trial of a publication whose predicate was asked on one server and has come to its answer on
another. -/
def trial (frame : Frame) (config : Config) (asked answered : Server)
    (entry : ConnectionId × Publication) (result : Except FilterError Bool) : Trial where
  connection := entry.1
  publication := entry.2
  record := entry.2.testedOn config frame.mutation
  asked
  result
  answered
  concluded := (frame.concluded answered entry result).server

/-- The trial of the publication under test is over, and goes into the journal. -/
theorem Journal.conclude {before : Frame} {answered : Server} {entry : ConnectionId × Publication}
    {rest : List (ConnectionId × Publication)} {result : Except FilterError Bool}
    {acts : List Event} (h : before.Journal first config mutation outer trials asked)
    (hFocus : before.focus = none) (hRest : before.rest.Perm (entry :: rest))
    (hActs : Machine.During outer.length ⟨asked, before.visit entry rest :: outer⟩ acts
      ⟨answered, (before.visit entry rest).resume entry (.answer result) :: outer⟩) :
    (((before.visit entry rest).resume entry (.answer result)).proceed
        (before.concluded answered entry result)).Journal first config mutation outer
      (trials ++ [before.trial config asked answered entry result])
      (before.concluded answered entry result).server := by
  obtain ⟨⟨during, hReached⟩, rfl, hViews, hEntries, hLinked, hLawful, hSummary, hGone⟩ := h
  have hConcluded : before.concluded answered entry result =
      Progress.conclude before.mutation
        (Views.of (config.serverFieldsFor before.mutation.service) before.mutation) entry result
        { server := answered, summary := before.summary, gone := before.gone } := by
    unfold concluded
    rw [hViews]
  constructor
  case reached =>
    have hVisit := hReached.step (.visit hFocus hRest) (Nat.lt_succ_self _)
    exact ⟨_, (hVisit.trans hActs).step (.conclude rfl) (Nat.lt_succ_self _)⟩
  case event => rfl
  case views => exact hViews
  case entries =>
    rw [List.map_append, List.append_assoc]
    exact (hRest.symm.append_left _).trans hEntries
  case linked => exact Trial.Linked.concat hLinked
  case lawful =>
    refine List.forall_mem_append.mpr ⟨hLawful, List.forall_mem_singleton.mpr ⟨rfl, ?_, ?_, ?_⟩⟩
    · refine ⟨before.visit entry rest, acts, ?_, hActs⟩
      show some (entry, entry.2.predicate.behave (before.views.tested entry.2)) = _
      rw [hViews, Views.tested_of]
      rfl
    · rintro ⟨hResult, hOpened⟩
      change result = .ok true at hResult
      subst hResult
      show ∃ answer, ∀ id, (before.concluded answered entry _).server.registry.log id = _
      rw [hConcluded]
      exact Progress.log_conclude_of_opened
        { server := answered, summary := before.summary, gone := before.gone } config entry hOpened
    · intro hKept id
      exact Progress.log_conclude_of_kept
        { server := answered, summary := before.summary, gone := before.gone } entry result hKept id
  case summary =>
    show (before.concluded answered entry result).summary = _
    rw [hConcluded, Progress.summary_conclude, hSummary, ← Summary.tally_append, List.map_append]
    rfl
  case gone =>
    show (before.concluded answered entry result).gone = _
    rw [hConcluded, Progress.gone_conclude, hGone, List.flatMap_append, List.flatMap_singleton]
    rfl

end Frame

/-! ## Routings under way -/

namespace Machine

variable {first : Server} {config : Config} {mutation : Mutation} {outer : List Frame}
  {machine next : Machine} {added : List Event}

/-- How far a routing on top of others has come: it is between two trials, or within one, with
whatever the predicate under test has started on top; or it closes the connections whose sinks
turned out to be gone. -/
inductive Stands (first : Server) (config : Config) (mutation : Mutation) (outer : List Frame) :
    Machine → Prop
  | between {trials} {frame : Frame} {now : Server}
      (hJournal : frame.Journal first config mutation outer trials now)
      (hFocus : frame.focus = none) : Stands first config mutation outer ⟨now, frame :: outer⟩
  | within {trials entry rest acts behaviour} {asked now : Server} (before : Frame)
      (inner : List Frame)
      (hJournal : before.Journal first config mutation outer trials asked)
      (hFocus : before.focus = none) (hRest : before.rest.Perm (entry :: rest))
      (hActs : During outer.length ⟨asked, before.visit entry rest :: outer⟩ acts
        ⟨now, inner ++ (before.visit entry rest).resume entry behaviour :: outer⟩) :
      Stands first config mutation outer
        ⟨now, inner ++ (before.visit entry rest).resume entry behaviour :: outer⟩
  | closing {trials left} {tested : Server} (frame : Frame) (closed : List ConnectionId)
      (hJournal : frame.Journal first config mutation outer trials tested)
      (hTested : frame.Tested) (hEager : config.closeOnDisconnect = true)
      (hGone : frame.gone = closed ++ left) :
      Stands first config mutation outer
        ⟨tested.closeAll closed, { frame with gone := left } :: outer⟩

/-- A routing that starts is before its first trial. -/
theorem Stands.start (first : Server) (counted : Bool) (mutation : Mutation) (outer : List Frame) :
    Stands first first.registry.config mutation outer
      ⟨first, Frame.start first counted mutation :: outer⟩ :=
  .between (.start first counted mutation outer) rfl

/-- A connection is closed, as is configured, when all trials are over. -/
theorem Stands.reap {trials : List Trial} {tested after : Server} {gone : List ConnectionId}
    {connection : ConnectionId} {reply : Reply} (frame : Frame) (closed : List ConnectionId)
    (hJournal : frame.Journal first config mutation outer trials tested) (hTested : frame.Tested)
    (hEager : config.closeOnDisconnect = true) (hGone : frame.gone = closed ++ connection :: gone)
    (hDoes : (tested.closeAll closed).Does (.closeConnection connection) added reply after) :
    Stands first config mutation outer ⟨after, { frame with gone } :: outer⟩ := by
  have hAfter : after = tested.closeAll (closed ++ [connection]) := by
    unfold Server.closeAll at hDoes ⊢
    rw [List.foldl_append]
    cases hDoes with
    | closed => rfl
    | notOpen h => exact (congrArg Prod.snd h).symm
  rw [hAfter]
  refine .closing frame _ hJournal hTested hEager ?_
  rw [hGone, List.append_assoc, List.singleton_append]

/-- A trial goes on, with what its predicate asks for, or is concluded. -/
theorem Stands.trial {trials : List Trial} {asked now : Server} {before : Frame}
    {entry : ConnectionId × Publication} {rest : List (ConnectionId × Publication)}
    {acts : List Event} {inner : List Frame} {behaviour : Behaviour}
    (hJournal : before.Journal first config mutation outer trials asked)
    (hFocus : before.focus = none) (hRest : before.rest.Perm (entry :: rest))
    (hActs : During outer.length ⟨asked, before.visit entry rest :: outer⟩ acts
      ⟨now, inner ++ (before.visit entry rest).resume entry behaviour :: outer⟩)
    (hStep : Step ⟨now, inner ++ (before.visit entry rest).resume entry behaviour :: outer⟩ added
      next)
    (hHigh : outer.length < next.routings.length) : Stands first config mutation outer next := by
  have hLater := During.step hActs hStep hHigh
  cases inner with
  | nil =>
    cases hStep with
    | visit hNone => cases hNone
    | reap hTested => cases hTested.focus
    | act hActing =>
      cases hActing
      exact .within before [] hJournal hFocus hRest hLater
    | nest => exact .within before [_] hJournal hFocus hRest hLater
    | conclude hAnswer =>
      cases hAnswer
      exact .between (hJournal.conclude hFocus hRest hActs) rfl
    | yield | finish => exact absurd hHigh (Nat.lt_irrefl _)
  | cons top inner =>
    obtain ⟨server, routings⟩ := next
    rcases hStep.above with ⟨others, hSame⟩ | ⟨known, published, resumed, reply, hWaits, hReply⟩
    · cases hSame
      exact .within before others hJournal hFocus hRest hLater
    · cases hWaits
      cases hReply
      exact .within before [] hJournal hFocus hRest hLater

/-- A step that leaves a routing under way takes it from one stage to the next, or leaves it where
it is. -/
theorem Stands.step (h : Stands first config mutation outer machine)
    (hStep : Step machine added next) (hHigh : outer.length < next.routings.length)
    (hConfig : machine.server.registry.config = config) :
    Stands first config mutation outer next := by
  cases h with
  | between hJournal hFocus =>
    cases hStep with
    | visit _ hRest => exact .within _ [] hJournal hFocus hRest .start
    | act hActs | nest hActs | conclude hActs =>
      rw [hFocus] at hActs
      cases hActs
    | reap hTested hEager hGone hDoes =>
      rw [hConfig] at hEager
      exact .reap _ [] hJournal hTested hEager hGone hDoes
    | yield | finish => exact absurd hHigh (Nat.lt_irrefl _)
  | within before inner hJournal hFocus hRest hActs =>
    exact .trial hJournal hFocus hRest hActs hStep hHigh
  | closing frame closed hJournal hTested hEager hGone =>
    cases hStep with
    | visit _ hRest =>
      rw [hTested.rest] at hRest
      cases hRest.nil_eq
    | act hActs | nest hActs | conclude hActs =>
      rw [hTested.focus] at hActs
      cases hActs
    | reap _ _ hLeft hDoes =>
      subst hLeft
      exact .reap frame closed hJournal hTested hEager hGone hDoes
    | yield | finish => exact absurd hHigh (Nat.lt_irrefl _)

theorem During.stands {first : Server} {counted : Bool} {during : List Event}
    (h : During outer.length ⟨first, Frame.start first counted mutation :: outer⟩ during machine) :
    Stands first first.registry.config mutation outer machine := by
  induction h with
  | start => exact .start first counted mutation outer
  | step hDuring hStep hHigh ih => exact ih.step hStep hHigh hDuring.run.follows.config

/-- A routing that comes to its end has tried all of its snapshot, and has closed the connections
whose sinks turned out to be gone if that is configured. -/
theorem During.journal {first after : Server} {counted : Bool} {frame : Frame}
    {during : List Event}
    (h : During outer.length ⟨first, Frame.start first counted mutation :: outer⟩ during
      ⟨after, frame :: outer⟩)
    (hDone : frame.Done after) :
    ∃ trials tested, ∃ last : Frame,
      last.Journal first first.registry.config mutation outer trials tested ∧
      last.rest = [] ∧ last.summary = frame.summary ∧ last.counted = frame.counted ∧
      after = if first.registry.config.closeOnDisconnect then tested.closeAll last.gone
        else tested := by
  have hConfig : after.registry.config = first.registry.config := h.run.follows.config
  generalize hMachine : (⟨after, frame :: outer⟩ : Machine) = machine at h
  cases h.stands with
  | @between trials known now hJournal hFocus =>
    cases hMachine
    refine ⟨trials, after, frame, hJournal, hDone.rest, rfl, rfl, ?_⟩
    split
    · rename_i hEager
      rw [hDone.gone (hConfig ▸ hEager)]
      rfl
    · rfl
  | @within trials entry rest acts behaviour asked now before inner hJournal hNone hRest hActs =>
    -- it is under way on top of the others alone, and nothing is under test
    have hFocus := hDone.focus
    cases inner with
    | nil =>
      cases hMachine
      cases hFocus
    | cons top inner =>
      have hLength := congrArg (fun machine : Machine => machine.routings.length) hMachine
      simp only [List.length_append, List.length_cons] at hLength
      omega
  | @closing trials left tested known closed hJournal hTested hEager hGone =>
    cases hMachine
    refine ⟨trials, tested, known, hJournal, hTested.rest, rfl, rfl, ?_⟩
    have hLeft : left = [] := hDone.gone (hConfig ▸ hEager)
    rw [if_pos hEager, hGone, hLeft, List.append_nil]

end Machine

end Fanout
