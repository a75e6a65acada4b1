import Fanout.Proofs.Agreement
import Fanout.Proofs.Closing

/-!
# Fanout — diagnostics as a log

What is reported of a connection says what became of its publications. Replaying the
reports from the first one on gives the publications of the connection as they are
in the registry, at every point of a run: every change of a publication is reported
once, right after it was made, under the connection that it concerns.

## Main definitions

* `Diagnostic.replay` — what a report makes of the publications known so far.
* `Diagnostic.Lawful` — what a report says of them.
* `Registry.logbook` — the publications of a connection, as reports describe them.
* `Registry.Tells` — what is reported between two registries accounts for their difference.

## Results

* `Server.Does.tells`, `Server.tells_conclude` — what is done to a server is reported.
* `Machine.Run.logged` — the reports of a connection tell its publications at every point of a run.
* `Registry.Logged.since` — so do those after a time when it had none.
-/

namespace Fanout

open Server (Progress Views)

/-! ## Replaying reports -/

/-- What reports say of a publication. -/
structure Listing where
  name : String
  params : List Json
  flags : Flags

/-- A publication as reports describe it. -/
def Publication.listing (publication : Publication) : Listing :=
  ⟨publication.name, publication.params, publication.flags⟩

/-- The publications of a connection, by service. -/
abbrev Logbook := Table String Listing

namespace Diagnostic

/-- What a report makes of the publications of its connection. -/
def replay (book : Logbook) : Diagnostic → Logbook
  | .addPublication service name params flags _ => book.insert service ⟨name, params, flags⟩
  | .removePublication service _ => book.erase service
  | .connectionClosed _ _ => Table.empty
  | .predicateError _ _ _ _ | .deliveryDropped _ _ _ => book

/-- What reports in order make of the publications. -/
def replayAll (book : Logbook) (reports : List Diagnostic) : Logbook := reports.foldl replay book

/-- A report of a connection is right about itself and about the publications before it. What it
says was added, one of the known modules compiles. -/
def Lawful (modules : FilterModule → Prop) (connection : ConnectionId) (book : Logbook) :
    Diagnostic → Prop
  | .addPublication _ name params flags store =>
    store = flags ∧ ∃ module, modules module ∧ ∃ predicate, module.compile name params = .ok predicate
  | .removePublication _ keys => keys = []
  | .connectionClosed known released => known = connection ∧ released = book.keys
  | .predicateError _ known _ _ => known = connection
  | .deliveryDropped _ known _ => known = connection

/-- Reports in order that are each lawful after those before. -/
def AllLawful (modules : FilterModule → Prop) (connection : ConnectionId) :
    Logbook → List Diagnostic → Prop
  | _, [] => True
  | book, report :: later =>
    report.Lawful modules connection book ∧ AllLawful modules connection (report.replay book) later

theorem replayAll_append (book : Logbook) (first second : List Diagnostic) :
    replayAll book (first ++ second) = replayAll (replayAll book first) second :=
  List.foldl_append

theorem allLawful_append {modules : FilterModule → Prop} {connection : ConnectionId}
    {book : Logbook} {first second : List Diagnostic} :
    AllLawful modules connection book (first ++ second) ↔
      AllLawful modules connection book first ∧
        AllLawful modules connection (replayAll book first) second := by
  induction first generalizing book with
  | nil => simp [AllLawful, replayAll]
  | cons report rest ih =>
    show _ ∧ AllLawful _ _ _ (rest ++ second) ↔ (_ ∧ _) ∧ _
    rw [ih, and_assoc]
    rfl

theorem AllLawful.lawful {modules : FilterModule → Prop} {connection : ConnectionId}
    {book : Logbook} {past future : List Diagnostic} {report : Diagnostic}
    (h : AllLawful modules connection book (past ++ report :: future)) :
    report.Lawful modules connection (replayAll book past) :=
  (allLawful_append.mp h).2.1

end Diagnostic

/-! ## The registry as a logbook -/

/-- The reports of a connection, in order. -/
def Hub.reports (hub : Hub) (connection : ConnectionId) : List Diagnostic :=
  ((hub.scopedTo connection).history.map Prod.snd).reverse

/-- A hub after reports of a connection. -/
def Hub.tell (hub : Hub) (connection : ConnectionId) (reports : List Diagnostic) : Hub :=
  reports.foldl (fun hub report => hub.emit (some connection) report) hub

theorem Hub.reports_of_tell {before after : Hub} {connection : ConnectionId}
    {reports : List Diagnostic}
    (h : after.scopedTo connection = (before.scopedTo connection).tell connection reports) :
    after.reports connection = before.reports connection ++ reports := by
  -- the history has the latest report first
  have hHistory : ∀ (reports : List Diagnostic) (hub : Hub),
      (hub.tell connection reports).history =
        (reports.map (fun report => (some connection, report))).reverse ++ hub.history := by
    intro reports
    induction reports with
    | nil => intro hub; rfl
    | cons report rest ih =>
      intro hub
      refine (ih (hub.emit (some connection) report)).trans ?_
      rw [List.map_cons, List.reverse_cons, List.append_assoc]
      rfl
  unfold Hub.reports
  rw [h, hHistory]
  simp [Function.comp_def]

namespace Registry

/-- The publications of a connection, as reports describe them. -/
def logbook (registry : Registry) (connection : ConnectionId) : Logbook :=
  registry.services.filterMap (fun _ publications =>
    (publications.get? connection).map Publication.listing)

/-- What is reported of a connection between two registries accounts for what its publications are
afterwards. -/
structure Tells (modules : FilterModule → Prop) (connection : ConnectionId) (before : Registry)
    (reports : List Diagnostic) (after : Registry) : Prop where
  told : after.hub.scopedTo connection = (before.hub.scopedTo connection).tell connection reports
  replayed : Diagnostic.replayAll (before.logbook connection) reports = after.logbook connection
  lawful : Diagnostic.AllLawful modules connection (before.logbook connection) reports

variable {modules : FilterModule → Prop} {connection other : ConnectionId} {service : String}
  {registry before after : Registry}

theorem get?_logbook (registry : Registry) (connection : ConnectionId) (service : String) :
    (registry.logbook connection).get? service =
      (registry.publication? connection service).map Publication.listing := by
  unfold logbook
  rw [Table.get?_filterMap, publication?_eq_bind]
  cases registry.services.get? service <;> rfl

theorem logbook_congr (h : ∀ service,
      after.publication? connection service = before.publication? connection service) :
    after.logbook connection = before.logbook connection := by
  refine Table.ext_get? (fun service => ?_)
  rw [get?_logbook, get?_logbook, h]

/-- The logbook of a connection has the services that the connection publishes on. -/
theorem keys_logbook (registry : Registry) (connection : ConnectionId) :
    (registry.logbook connection).keys = registry.servicesFor connection := by
  refine eq_of_ascending_of_mem_iff (registry.logbook connection).keys_ascending
    (registry.servicesFor_ascending connection) (fun service => ?_)
  rw [Table.mem_keys_iff, get?_logbook, mem_servicesFor_iff, Option.isSome_map]

theorem logbook_of_none (h : ∀ service, registry.publication? connection service = none) :
    registry.logbook connection = Table.empty := by
  refine Table.ext_get? (fun service => ?_)
  rw [get?_logbook, h]
  rfl

namespace Tells

/-- Nothing is reported, and no publication of the connection changes. -/
theorem of_same (hHub : after.hub.scopedTo connection = before.hub.scopedTo connection)
    (hPublications : ∀ service,
      after.publication? connection service = before.publication? connection service) :
    before.Tells modules connection [] after :=
  ⟨hHub, (logbook_congr hPublications).symm, trivial⟩

theorem refl (registry : Registry) : registry.Tells modules connection [] registry :=
  of_same rfl (fun _ => rfl)

theorem trans {first second : List Diagnostic}
    (hFirst : before.Tells modules connection first registry)
    (hSecond : registry.Tells modules connection second after) :
    before.Tells modules connection (first ++ second) after where
  told := by
    rw [hSecond.told, hFirst.told]
    exact List.foldl_append.symm
  replayed := by rw [Diagnostic.replayAll_append, hFirst.replayed, hSecond.replayed]
  lawful := by
    rw [Diagnostic.allLawful_append, hFirst.replayed]
    exact ⟨hFirst.lawful, hSecond.lawful⟩

/-- A change and then its report, under the connection that it is made for. -/
theorem report (changed : Registry) {report : Diagnostic} (hHub : changed.hub = before.hub)
    (hOwn : other = connection → report.Lawful modules connection (before.logbook connection) ∧
      report.replay (before.logbook connection) = changed.logbook connection)
    (hOther : other ≠ connection → ∀ service,
      changed.publication? connection service = before.publication? connection service) :
    ∃ reports, before.Tells modules connection reports (changed.emit other report) := by
  by_cases hSame : other = connection
  · obtain ⟨hLawful, hReplayed⟩ := hOwn hSame
    subst hSame
    refine ⟨[report], ?_, hReplayed, hLawful, trivial⟩
    show (changed.hub.emit (some other) report).scopedTo other = _
    rw [Hub.scopedTo_emit_self, hHub]
    rfl
  · -- what is reported of another connection is no report of this one
    refine ⟨[], of_same ?_ (hOther hSame)⟩
    show (changed.hub.emit (some other) report).scopedTo connection = _
    rw [Hub.scopedTo_emit_other report hSame, hHub]

end Tells

/-! ## Operations -/

theorem tells_emit (registry : Registry) (report : Diagnostic)
    (hLawful : ∀ book, report.Lawful modules other book)
    (hReplay : ∀ book, report.replay book = book) :
    ∃ reports, registry.Tells modules connection reports (registry.emit other report) := by
  refine Tells.report registry rfl ?_ (fun _ _ => rfl)
  rintro rfl
  exact ⟨hLawful _, hReplay _⟩

theorem tells_closeConnection {id : SessionId} {session : Session}
    (h : registry.liveSession? other = some (id, session)) :
    ∃ reports, registry.Tells modules connection reports (registry.closeConnection other).2 := by
  rw [closeConnection_of_live h]
  refine Tells.report _ rfl ?_ (fun hOther service => ?_)
  · rintro rfl
    refine ⟨⟨rfl, (registry.keys_logbook other).symm⟩, ?_⟩
    -- nothing is left of the connection
    refine (logbook_of_none (fun service => ?_)).symm
    rw [publication?_afterClose, if_pos rfl]
  · rw [publication?_afterClose, if_neg (Ne.symm hOther)]

theorem tells_addPublication {module : FilterModule} {spec : PublicationSpec}
    {publication : Publication} (hModule : modules module)
    (h : registry.addPublication other service module spec = (.ok publication, after)) :
    ∃ reports, registry.Tells modules connection reports after := by
  obtain ⟨id, session, predicate, -, hCompile, hPublication, rfl⟩ := addPublication_ok h
  refine Tells.report { registry with
      sessions := registry.sessions.insert id { session with adds := session.adds + 1 }
      services := registry.services.insert service
        ((registry.publicationsOn service).insert other publication) } rfl ?_
    (fun hOther stored => ?_)
  · rintro rfl
    refine ⟨⟨rfl, module, hModule, predicate, hCompile⟩, Table.ext_get? (fun stored => ?_)⟩
    -- the service has what was added, and the other services what they had
    rw [get?_logbook, publication?_of_store registry rfl]
    show (Table.insert _ _ _).get? stored = _
    rw [Table.get?_insert, get?_logbook]
    by_cases hStored : stored = service
    · rw [if_pos hStored, if_pos ⟨rfl, hStored⟩, hPublication]
      rfl
    · rw [if_neg hStored, if_neg (fun hBoth => hStored hBoth.2)]
  · rw [publication?_of_store registry rfl, if_neg (fun hBoth => hOther hBoth.1.symm)]

theorem tells_removePublication {names : List String}
    (h : registry.removePublication other service = (.ok names, after)) :
    ∃ reports, registry.Tells modules connection reports after := by
  obtain ⟨-, -, rfl⟩ := removePublication_ok h
  refine Tells.report { registry with services := registry.servicesWithout other service } rfl ?_
    (fun hOther stored => ?_)
  · rintro rfl
    refine ⟨rfl, Table.ext_get? (fun stored => ?_)⟩
    rw [get?_logbook, publication?_of_drop registry rfl]
    show (Table.erase _ _).get? stored = _
    rw [Table.get?_erase, get?_logbook]
    by_cases hStored : stored = service
    · rw [if_pos hStored, if_pos ⟨rfl, hStored⟩]
      rfl
    · rw [if_neg hStored, if_neg (fun hBoth => hStored hBoth.2)]
  · rw [publication?_of_drop registry rfl, if_neg (fun hBoth => hOther hBoth.1.symm)]

end Registry

/-- What was compiled once is added again to any open connection, with its params as a list, and
stored as it was. -/
theorem Registry.addPublication_again {registry : Registry} {connection : ConnectionId}
    {module : FilterModule} {name : String} {params : List Json} {predicate : Predicate}
    (hCompile : module.compile name params = .ok predicate)
    (hOpen : registry.isOpen connection = true) (service : String) (flags : Flags) :
    ∃ publication after, registry.addPublication connection service module
        ⟨name, .array params, flags.ifServer, flags.checkBefore⟩ = (.ok publication, after) ∧
      publication.listing = ⟨name, params, flags⟩ ∧
      after.publication? connection service = some publication := by
  obtain ⟨⟨result, after⟩, hAdd⟩ : ∃ done, registry.addPublication connection service module
      ⟨name, .array params, flags.ifServer, flags.checkBefore⟩ = done := ⟨_, rfl⟩
  rw [hAdd]
  cases result with
  | error error =>
    rcases addPublication_error hAdd with ⟨⟨hClosed, -⟩ | ⟨-, hRejected⟩, -⟩
    · unfold isOpen at hOpen
      rw [hClosed] at hOpen
      cases hOpen
    · rw [show module.compile name params = .error error from hRejected] at hCompile
      cases hCompile
  | ok publication =>
    obtain ⟨id, session, compiled, -, -, hPublication, rfl⟩ := addPublication_ok hAdd
    refine ⟨publication, _, rfl, by rw [hPublication]; rfl, ?_⟩
    rw [publication?_of_store registry rfl, if_pos ⟨rfl, rfl⟩]

/-! ## What is done to a server -/

namespace Server

variable {modules : FilterModule → Prop} {connection : ConnectionId} {server after : Server}
  {events : List Event}

theorem Does.tells {request : Request} {reply : Reply}
    (hDoes : server.Does request events reply after) (hFilters : modules server.filters) :
    ∃ reports, server.registry.Tells modules connection reports after.registry := by
  cases hDoes using Server.Does.elim with
  | attended | openRefused | notOpen | addRefused | removeRefused => exact ⟨[], .refl _⟩
  | opened h =>
    -- a connection that is opened has no publications yet, and nothing is reported
    obtain ⟨-, -, rfl⟩ := Registry.openConnection_ok h
    exact ⟨[], .of_same rfl (fun _ => rfl)⟩
  | closed h => exact Registry.tells_closeConnection h
  | added h => exact Registry.tells_addPublication hFilters h
  | removed h => exact Registry.tells_removePublication h

/-- A session in place of another, and what else there is beside publications and the hub. -/
theorem tells_modifySession (registry : Registry) (id : SessionId) (f : Session → Session) :
    registry.Tells modules connection [] (registry.modifySession id f) := by
  refine .of_same ?_ (Registry.publication?_congr Registry.services_modifySession connection)
  unfold Registry.modifySession
  split <;> rfl

/-- A match reports at most that its delivery was lost. -/
theorem tells_deliver (progress : Progress) (publication : Publication) (delivery : Delivery) :
    ∃ reports, progress.server.registry.Tells modules connection reports
      (progress.deliver publication delivery).server.registry := by
  have hHanded : progress.server.registry.Tells modules connection []
      (progress.server.registry.deliver publication.session delivery).2 := by
    rw [Registry.deliver_snd]
    exact tells_modifySession _ _ _
  have hLost : ∀ reason, ∃ reports, progress.server.registry.Tells modules connection reports
      ((progress.server.registry.deliver publication.session delivery).2.emit delivery.connection
        (.deliveryDropped delivery.service delivery.connection reason)) := by
    intro reason
    obtain ⟨reports, hTells⟩ := Registry.tells_emit
      (progress.server.registry.deliver publication.session delivery).2
      (.deliveryDropped delivery.service delivery.connection reason) (fun _ => rfl) (fun _ => rfl)
    exact ⟨reports, hHanded.trans hTells⟩
  unfold Progress.deliver
  dsimp only
  split
  · exact ⟨[], hHanded⟩
  · exact hLost .bufferFull
  · exact hLost .disconnected
  · exact ⟨[], hHanded⟩

theorem tells_conclude (progress : Progress) (mutation : Mutation) (views : Views)
    (entry : ConnectionId × Publication) (result : Except FilterError Bool) :
    ∃ reports, progress.server.registry.Tells modules connection reports
      (progress.conclude mutation views entry result).server.registry := by
  unfold Progress.conclude
  split
  · exact tells_deliver progress _ _
  · exact ⟨[], .refl _⟩
  · exact Registry.tells_emit _ _ (fun _ => rfl) (fun _ => rfl)

end Server

namespace Command

/-- The command is about listeners, and about nothing else. -/
def Listens : Command → Prop
  | subscribe _ | listener _ _ => True
  | request _ | inbound _ | addFrom _ _ _ _ | route _ | session _ _ => False

/-- What the command compiles from, if it brings a module along, is one of these. -/
def CompilesFrom (modules : FilterModule → Prop) : Command → Prop
  | addFrom module _ _ _ => modules module
  | request _ | inbound _ | route _ | subscribe _ | session _ _ | listener _ _ => True

end Command

theorem Server.AtOnce.tells {modules : FilterModule → Prop} {connection : ConnectionId}
    {server after : Server} {command : Command} {outcome : Outcome} {events : List Event}
    (hDone : server.AtOnce command outcome events after) (hFilters : modules server.filters)
    (hCommand : command.CompilesFrom modules) (hListens : ¬command.Listens) :
    ∃ reports, server.registry.Tells modules connection reports after.registry := by
  cases hDone with
  | request hDoes => exact hDoes.tells hFilters
  | inbound hDoes => exact hDoes.tells hFilters
  | added h => exact Registry.tells_addPublication hCommand h
  | addRefused h =>
    obtain ⟨-, rfl⟩ := Registry.addPublication_error h
    exact ⟨[], .refl _⟩
  | subscribe | listener => exact absurd trivial hListens
  | session =>
    rw [Registry.useSession_snd]
    exact ⟨[], Server.tells_modifySession _ _ _⟩

/-! ## Runs -/

namespace Machine

variable {modules : FilterModule → Prop} {connection : ConnectionId} {first machine next : Machine}
  {command : Command} {commands : List Command} {events new : List Event}

theorem Step.tells (hStep : Step machine new next) (hFilters : modules machine.server.filters) :
    ∃ reports, machine.server.registry.Tells modules connection reports next.server.registry := by
  cases hStep with
  | visit | nest => exact ⟨[], .refl _⟩
  | act hFocus hDoes => exact hDoes.tells hFilters
  | @conclude server frame =>
    exact Server.tells_conclude { server, summary := frame.summary, gone := frame.gone } _ _ _ _
  | reap hTested hConfig hGone hDoes => exact hDoes.tells hFilters
  | yield | finish =>
    rw [Frame.registry_settle]
    exact ⟨[], .refl _⟩

theorem Issue.tells (hIssue : Issue machine command new next)
    (hFilters : modules machine.server.filters) (hCommand : command.CompilesFrom modules)
    (hListens : ¬command.Listens) :
    ∃ reports, machine.server.registry.Tells modules connection reports next.server.registry := by
  cases hIssue with
  | atOnce hDone => exact hDone.tells hFilters hCommand hListens
  | routing =>
    rw [Frame.registry_arrive]
    exact ⟨[], .refl _⟩

/-- The module of a server is known from its start on. -/
theorem Run.knows_filters (hRun : Run first commands events machine)
    (hFilters : modules first.server.filters) : modules machine.server.filters := by
  rw [hRun.follows.filters]
  exact hFilters

/-- What is reported along a run tells what becomes of the publications, as long as nobody comes
or goes to listen. -/
theorem Run.tells (hRun : Run first commands events machine)
    (hFilters : modules first.server.filters)
    (hCommands : ∀ command ∈ commands, command.CompilesFrom modules ∧ ¬command.Listens) :
    ∃ reports, first.server.registry.Tells modules connection reports machine.server.registry := by
  induction hRun with
  | start => exact ⟨[], .refl _⟩
  | issue hRun hIssue ih =>
    obtain ⟨hPast, hLast⟩ := List.forall_mem_append.mp hCommands
    obtain ⟨hCommand, hListens⟩ := hLast _ (List.mem_singleton.mpr rfl)
    obtain ⟨earlier, hEarlier⟩ := ih hPast
    obtain ⟨reports, hTells⟩ := hIssue.tells (hRun.knows_filters hFilters) hCommand hListens
    exact ⟨earlier ++ reports, hEarlier.trans hTells⟩
  | step hRun hStep ih =>
    obtain ⟨earlier, hEarlier⟩ := ih hCommands
    obtain ⟨reports, hTells⟩ := hStep.tells (hRun.knows_filters hFilters)
    exact ⟨earlier ++ reports, hEarlier.trans hTells⟩

end Machine

/-! ## The reports from the first one on -/

/-- All that was ever reported of a connection tells its publications. -/
structure Registry.Logged (modules : FilterModule → Prop) (connection : ConnectionId)
    (registry : Registry) : Prop where
  replayed : Diagnostic.replayAll Table.empty (registry.hub.reports connection) =
    registry.logbook connection
  lawful : Diagnostic.AllLawful modules connection Table.empty (registry.hub.reports connection)

namespace Registry.Logged

variable {modules : FilterModule → Prop} {connection : ConnectionId} {before after : Registry}
  {reports : List Diagnostic}

theorem new (modules : FilterModule → Prop) (connection : ConnectionId) (config : Config) :
    (Registry.new config).Logged modules connection :=
  ⟨rfl, trivial⟩

theorem tells (hLogged : before.Logged modules connection)
    (hTells : before.Tells modules connection reports after) :
    after.Logged modules connection := by
  have hReports := Hub.reports_of_tell hTells.told
  constructor
  case replayed =>
    rw [hReports, Diagnostic.replayAll_append, hLogged.replayed, hTells.replayed]
  case lawful =>
    rw [hReports, Diagnostic.allLawful_append, hLogged.replayed]
    exact ⟨hLogged.lawful, hTells.lawful⟩

/-- Listeners come and go, and nothing is reported. -/
theorem listening (hLogged : before.Logged modules connection) {hub : Hub}
    (hHistory : hub.history = before.hub.history) :
    ({ before with hub } : Registry).Logged modules connection := by
  have hReports : hub.reports connection = before.hub.reports connection := by
    unfold Hub.reports Hub.scopedTo
    rw [hHistory]
  constructor
  case replayed =>
    show Diagnostic.replayAll Table.empty (hub.reports connection) = before.logbook connection
    rw [hReports, hLogged.replayed]
  case lawful =>
    show Diagnostic.AllLawful modules connection Table.empty (hub.reports connection)
    rw [hReports]
    exact hLogged.lawful

/-- What is reported after a time when the connection had no publications tells them by itself. -/
theorem since {known : FilterModule → Prop} (hBefore : before.Logged known connection)
    (hNone : ∀ service, before.publication? connection service = none)
    (hAfter : after.Logged modules connection)
    (hReports : after.hub.reports connection = before.hub.reports connection ++ reports) :
    Diagnostic.replayAll Table.empty reports = after.logbook connection ∧
      Diagnostic.AllLawful modules connection Table.empty reports := by
  -- the earlier reports come to nothing
  have hEmpty := hBefore.replayed
  rw [logbook_of_none hNone] at hEmpty
  obtain ⟨hReplayed, hLawful⟩ := hAfter
  rw [hReports, Diagnostic.replayAll_append, hEmpty] at hReplayed
  rw [hReports, Diagnostic.allLawful_append, hEmpty] at hLawful
  exact ⟨hReplayed, hLawful.2⟩

end Registry.Logged

theorem Machine.Issue.logged {modules : FilterModule → Prop} {connection : ConnectionId}
    {machine next : Machine} {command : Command} {new : List Event}
    (hIssue : Issue machine command new next) (hFilters : modules machine.server.filters)
    (hCommand : command.CompilesFrom modules)
    (hLogged : machine.server.registry.Logged modules connection) :
    next.server.registry.Logged modules connection := by
  by_cases hListens : command.Listens
  · cases hIssue with
    | atOnce hDone =>
      cases hDone with
      | subscribe => exact hLogged.listening rfl
      | @listener id use => exact hLogged.listening (by cases use <;> rfl)
      | request | inbound | added | addRefused | session => exact absurd hListens not_false
    | routing =>
      rw [Frame.registry_arrive]
      exact hLogged
  · obtain ⟨reports, hTells⟩ := hIssue.tells hFilters hCommand hListens
    exact hLogged.tells hTells

/-- At every point of a run, also in the middle of a routing, the reports of a connection tell its
publications. -/
theorem Machine.Run.logged {filters : FilterModule} {config : Config} {modules : FilterModule → Prop}
    {machine : Machine} {commands : List Command} {events : List Event}
    (hRun : Run ⟨Server.new filters config, []⟩ commands events machine) (hFilters : modules filters)
    (hCommands : ∀ command ∈ commands, command.CompilesFrom modules) (connection : ConnectionId) :
    machine.server.registry.Logged modules connection := by
  induction hRun with
  | start => exact .new modules connection config
  | issue hRun hIssue ih =>
    obtain ⟨hPast, hLast⟩ := List.forall_mem_append.mp hCommands
    exact hIssue.logged (hRun.knows_filters hFilters) (hLast _ (List.mem_singleton.mpr rfl)) (ih hPast)
  | step hRun hStep ih =>
    obtain ⟨reports, hTells⟩ := hStep.tells (hRun.knows_filters hFilters)
    exact (ih hCommands).tells hTells

end Fanout
