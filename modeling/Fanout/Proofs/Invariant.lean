import Fanout.Proofs.Adequacy

/-!
# Fanout — what holds all along a run

Every state that the machine reaches from a new server has a sound registry, and
the filters and the configuration are those it started with.

## Results

* `Machine.Run.follows` — every state of the machine follows the first one.
* `Server.follows_of_run` — so does the server after a run of commands.
-/

namespace Fanout

open Server (Progress Views)

/-- A server that may come after another one on a run: still sound, and set up in the same way. -/
structure Server.Follows (before after : Server) : Prop where
  sound : before.registry.Sound → after.registry.Sound
  config : after.registry.config = before.registry.config
  filters : after.filters = before.filters

variable {before server after : Server}

namespace Server

theorem Follows.refl (server : Server) : server.Follows server := ⟨id, rfl, rfl⟩

theorem Follows.trans (hFirst : before.Follows server) (hSecond : server.Follows after) :
    before.Follows after :=
  ⟨fun h => hSecond.sound (hFirst.sound h), hSecond.config.trans hFirst.config,
    hSecond.filters.trans hFirst.filters⟩

theorem follows_closeConnection (server : Server) (connection : ConnectionId) :
    server.Follows (server.closeConnection connection).2 :=
  ⟨fun h => h.closeConnection connection, Registry.config_closeConnection, rfl⟩

theorem follows_addFrom {module : FilterModule} {connection : ConnectionId} {service : String}
    {spec : PublicationSpec} {publication : Publication} {registry : Registry}
    (h : server.registry.addPublication connection service module spec =
      (.ok publication, registry)) :
    server.Follows { server with registry } := by
  refine ⟨fun hSound => hSound.addPublication h, ?_, rfl⟩
  obtain ⟨-, -, -, -, -, -, rfl⟩ := Registry.addPublication_ok h
  rfl

theorem Does.follows {request : Request} {events : List Event} {reply : Reply}
    (hDoes : server.Does request events reply after) : server.Follows after := by
  cases hDoes using Server.Does.elim with
  | attended => exact .refl _
  | opened h =>
    refine ⟨fun hSound => hSound.openConnection h, ?_, rfl⟩
    obtain ⟨-, -, rfl⟩ := Registry.openConnection_ok h
    rfl
  | openRefused h => exact .refl _
  | closed h => exact follows_closeConnection _ _
  | notOpen h => exact .refl _
  | added h => exact follows_addFrom h
  | addRefused h => exact .refl _
  | removed h =>
    refine ⟨fun hSound => hSound.removePublication h, ?_, rfl⟩
    obtain ⟨-, -, rfl⟩ := Registry.removePublication_ok h
    rfl
  | removeRefused h => exact .refl _

theorem AtOnce.follows {command : Command} {outcome : Outcome} {events : List Event}
    (hDone : server.AtOnce command outcome events after) : server.Follows after := by
  cases hDone with
  | request hDoes => exact hDoes.follows
  | inbound hDoes => exact hDoes.follows
  | added h => exact follows_addFrom h
  | addRefused h =>
    obtain ⟨-, rfl⟩ := Registry.addPublication_error h
    exact .refl _
  | subscribe => exact ⟨fun h => h.of_state?_eq rfl rfl (fun _ => rfl), rfl, rfl⟩
  | @session id use =>
    -- a client leaves its session as open as it was
    rw [Registry.useSession_snd]
    exact ⟨fun h => h.modifySession id (fun session => (use.change_keeps session).1),
      Registry.config_modifySession, rfl⟩
  | listener => exact ⟨fun h => h.of_state?_eq rfl rfl (fun _ => rfl), rfl, rfl⟩

theorem follows_deliver (server : Server) (id : SessionId) (delivery : Delivery) :
    server.Follows { server with registry := (server.registry.deliver id delivery).2 } := by
  refine ⟨fun hSound => hSound.deliver id delivery, ?_, rfl⟩
  rw [Registry.deliver_snd]
  exact Registry.config_modifySession

theorem follows_emit (server : Server) (connection : ConnectionId) (diagnostic : Diagnostic) :
    server.Follows (server.emit connection diagnostic) :=
  ⟨fun hSound => hSound.emit connection diagnostic, rfl, rfl⟩

theorem Progress.follows_deliver (progress : Progress) (publication : Publication)
    (delivery : Delivery) :
    progress.server.Follows (progress.deliver publication delivery).server := by
  -- the session is handed the delivery, and what follows is at most a report
  have hHanded := Server.follows_deliver progress.server publication.session delivery
  unfold Progress.deliver
  dsimp only
  split
  · exact hHanded
  · exact hHanded.trans (follows_emit _ _ _)
  · exact hHanded.trans (follows_emit _ _ _)
  · exact hHanded

theorem Progress.follows_conclude (progress : Progress) (mutation : Mutation) (views : Views)
    (entry : ConnectionId × Publication) (result : Except FilterError Bool) :
    progress.server.Follows (progress.conclude mutation views entry result).server := by
  unfold Progress.conclude
  split
  · exact progress.follows_deliver _ _
  · exact .refl _
  · exact follows_emit _ _ _

theorem follows_arrive (counted : Bool) (server : Server) :
    server.Follows (Frame.arrive counted server) := by
  unfold Frame.arrive
  split
  · exact ⟨id, rfl, rfl⟩
  · exact .refl _

theorem follows_settle (frame : Frame) (server : Server) :
    server.Follows (frame.settle server) := by
  unfold Frame.settle
  split
  · exact ⟨id, rfl, rfl⟩
  · exact .refl _

end Server

namespace Machine

theorem Step.follows {machine next : Machine} {new : List Event} (hStep : Step machine new next) :
    machine.server.Follows next.server := by
  -- of the routings under way, only an action, an answer and a closing touch the server
  cases hStep with
  | visit => exact .refl _
  | act hFocus hDoes => exact hDoes.follows
  | nest => exact Server.follows_arrive true _
  | @conclude server frame =>
    exact Progress.follows_conclude { server, summary := frame.summary, gone := frame.gone } _ _ _ _
  | reap hTested hConfig hGone hDoes => exact hDoes.follows
  | yield => exact Server.follows_settle _ _
  | finish => exact Server.follows_settle _ _

theorem Issue.follows {machine next : Machine} {command : Command} {new : List Event}
    (hIssue : Issue machine command new next) : machine.server.Follows next.server := by
  cases hIssue with
  | atOnce hDone => exact hDone.follows
  | routing => exact Server.follows_arrive _ _

theorem Run.follows {first machine : Machine} {commands : List Command} {events : List Event}
    (hRun : Run first commands events machine) : first.server.Follows machine.server := by
  induction hRun with
  | start => exact .refl _
  | issue _ hIssue ih => exact ih.trans hIssue.follows
  | step _ hStep ih => exact ih.trans hStep.follows

end Machine

theorem Server.follows_of_execute {depth : Nat} {command : Command} {outcome : Outcome}
    (h : server.execute depth command = some (outcome, after)) : server.Follows after := by
  obtain ⟨events, hRun⟩ := Server.execute_run h
  exact hRun.follows

/-- A run of commands leaves a server that follows the one it started with. -/
theorem Server.follows_of_run {depth : Nat} {commands : List Command} {steps : List Server.Step}
    (h : server.run depth commands = some (steps, after)) : server.Follows after := by
  obtain ⟨events, hRun⟩ := Server.run_run h
  exact hRun.follows

end Fanout
