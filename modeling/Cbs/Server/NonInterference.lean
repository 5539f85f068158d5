import Cbs.Server.BuildQueries
import Cbs.Server.Operations

/-!
# Builds of other users

What a caller who may only see and revoke their own builds learns about those of others.  Two
servers that agree on the builds of the caller answer every request in the same way, with one
exception.
-/

namespace Cbs

open Checks Concurrency Service

variable {Json : Type}

def Service.Owns (service : Service) (user : AuthUser) (id : BuildId) : Prop :=
  ∃ row, service.state.builds.getBuild id = some row ∧ row.userEmail = user.email

/-- Two servers that look the same to the owner of some builds: they may differ in the accounts of
others and in everything about the builds of others. -/
structure AgreeFor (user : AuthUser) (first second : Service) : Prop where
  account : first.site.accounts.getUser user.email = second.site.accounts.getUser user.email
  channels : first.site.channels = second.site.channels
  rows : ∀ id row, row.userEmail = user.email →
    (first.state.builds.getBuild id = some row ↔ second.state.builds.getBuild id = some row)
  logRows : ∀ id, first.Owns user id →
    first.state.buildLogs.lookup id = second.state.buildLogs.lookup id
  logFiles : ∀ id, first.Owns user id →
    first.openLog (logPath id) = second.openLog (logPath id)
  storedLogFiles : ∀ id, first.Owns user id → ∀ row, first.state.buildLogs.lookup id = some row →
    first.openLog row.logPath = second.openLog row.logPath
  indices : ∀ id, first.Owns user id →
    first.state.seqIndices.lookup id = second.state.seqIndices.lookup id
  watchers : ∀ id, first.Owns user id →
    (id ∈ first.state.logWatchers ↔ id ∈ second.state.logWatchers)
  active : ∀ id, first.Owns user id →
    (first.state.queue.active.get id).isSome = (second.state.queue.active.get id).isSome

/-- Everything that the server keeps about a build. -/
structure BuildView where
  row : Option BuildRow
  waiting : Priority → List QueuedBuild
  active : Option ActiveBuild
  logRow : Option BuildLogRow
  logFile : Option String
  index : Option (List (Nat × Nat))
  watched : Bool
  ackTimers : List AckTimer
  revokeTimers : Nat

/-- What a state holds about a build. -/
def AppState.viewOf (state : AppState) (id : BuildId) : BuildView where
  row := state.builds.getBuild id
  waiting := fun priority => (state.queue.lane priority).filter (·.buildId = id)
  active := state.queue.active.get id
  logRow := state.buildLogs.lookup id
  logFile := state.logFiles.lookup id
  index := state.seqIndices.lookup id
  watched := decide (id ∈ state.logWatchers)
  ackTimers := state.ackTimers.filter (·.buildId = id)
  revokeTimers := state.revokeTimers.count id

/-- The build that a route looks up before it checks the capabilities of the caller. -/
def BuildRequest.shown : BuildRequest → Option BuildId
  | list .. => none
  | get id | tail id _ | follow id _ | full id => some id
  | revoke _ => none

section Agreement

variable {user : AuthUser} {first second : Service} {env : ReadEnv Json} {id : BuildId}

theorem AgreeFor.listRecord_eq (agree : AgreeFor user first second) {row : BuildRow}
    (owned : row.userEmail = user.email) (id : BuildId) :
    first.listRecord id row = second.listRecord id row := by
  simp only [listRecord, owned, agree.account, agree.channels]

/-- The record of a build, if it belongs to the caller. -/
def Service.ownRecord (env : ReadEnv Json) (service : Service) (user : AuthUser) (id : BuildId) :
    Option (BuildRecord Json) :=
  (service.getBuildRecord env id).filter (·.userEmail = user.email)

variable {service : Service} {record : BuildRecord Json}

theorem owns_of_ownRecord
    (shown : service.ownRecord env user id = some record) : service.Owns user id := by
  obtain ⟨found, owned⟩ := Option.filter_eq_some_iff.mp shown
  obtain ⟨row, stored, rfl⟩ := Option.map_eq_some_iff.mp found
  exact ⟨row, stored, of_decide_eq_true owned⟩

theorem ownRecord_eq_some :
    service.ownRecord env user id = some record ↔
      ∃ row, row.userEmail = user.email ∧ service.state.builds.getBuild id = some row ∧
        record =
          { service.listRecord id row with buildReport := row.buildReport.bind env.fromStr } := by
  rw [ownRecord, Option.filter_eq_some_iff, getBuildRecord,
    Option.map_eq_some_iff]
  constructor
  · rintro ⟨⟨row, stored, rfl⟩, owned⟩
    exact ⟨row, of_decide_eq_true owned, stored, rfl⟩
  · rintro ⟨row, owned, stored, rfl⟩
    exact ⟨⟨row, stored, rfl⟩, decide_eq_true owned⟩

theorem AgreeFor.ownRecord_eq (agree : AgreeFor user first second) (env : ReadEnv Json)
    (id : BuildId) : first.ownRecord env user id = second.ownRecord env user id := by
  refine Option.ext fun record => ?_
  rw [ownRecord_eq_some, ownRecord_eq_some]
  refine exists_congr fun row => and_congr_right fun owned => ?_
  rw [agree.rows id row owned, agree.listRecord_eq owned id]

/-- A caller who may list their own builds only finds those. -/
theorem viewBuild_of_listOwn (restricted : ¬ user.hasCap "builds:list:any" = true)
    (lists : user.hasCap "builds:list:own" = true) :
    service.viewBuild env user id =
      orError ⟨.notFound, "build not found"⟩ (service.ownRecord env user id) := by
  unfold viewBuild ownRecord
  cases service.getBuildRecord env id with
  | none => rfl
  | some record =>
    by_cases owned : record.userEmail = user.email <;>
      simp [orError, require, restricted, lists, owned, bind, Except.bind, pure, Except.pure,
        Option.filter]

/-- A caller who may list nothing learns whether the build exists. -/
theorem viewBuild_of_not_listOwn (restricted : ¬ user.hasCap "builds:list:any" = true)
    (lists : ¬ user.hasCap "builds:list:own" = true) :
    service.viewBuild env user id =
      .error (if (service.state.builds.getBuild id).isSome then
        ⟨.forbidden, "missing required capability: builds:list:own or builds:list:any"⟩
        else ⟨.notFound, "build not found"⟩) := by
  unfold viewBuild getBuildRecord
  cases service.state.builds.getBuild id with
  | none => rfl
  | some row =>
    simp [orError, require, restricted, lists, bind, Except.bind]

end Agreement

section Routes

variable {user : AuthUser} {first second : Service} {env : ReadEnv Json} {id : BuildId}

/-- What the caller sees of one build is the same, unless they may list nothing and the build
exists in one of the servers only. -/
theorem AgreeFor.viewBuild_eq (agree : AgreeFor user first second)
    (restricted : ¬ user.hasCap "builds:list:any" = true)
    (quiet : user.hasCap "builds:list:own" = true ∨
      (first.state.builds.getBuild id).isSome = (second.state.builds.getBuild id).isSome) :
    first.viewBuild env user id = second.viewBuild env user id := by
  by_cases lists : user.hasCap "builds:list:own" = true
  · rw [viewBuild_of_listOwn restricted lists, viewBuild_of_listOwn restricted lists,
      agree.ownRecord_eq env id]
  · have both := quiet.resolve_left lists
    rw [viewBuild_of_not_listOwn restricted lists, viewBuild_of_not_listOwn restricted lists, both]

variable {service : Service}

theorem owns_of_viewBuild {record : BuildRecord Json}
    (restricted : ¬ user.hasCap "builds:list:any" = true)
    (shown : service.viewBuild env user id = .ok record) : service.Owns user id := by
  by_cases lists : user.hasCap "builds:list:own" = true
  · rw [viewBuild_of_listOwn restricted lists, orError_eq_ok] at shown
    exact owns_of_ownRecord shown
  · rw [viewBuild_of_not_listOwn restricted lists] at shown
    cases shown

theorem AgreeFor.sseFollow_eq (agree : AgreeFor user first second)
    (owned : first.Owns user id) (lastEventId : Option UInt64) :
    first.sseFollow env id lastEventId = second.sseFollow env id lastEventId := by
  have ⟨row, stored, isOwn⟩ := owned
  have storedToo := (agree.rows id row isOwn).mp stored
  unfold sseFollow
  rw [stored, storedToo, ← agree.logRows id owned]
  refine bind_congr_ok rfl fun _ _ => bind_congr_ok rfl fun logRow found => ?_
  rw [orError_eq_ok] at found
  simp only [agree.storedLogFiles id owned logRow found, agree.watchers id owned,
    getSeqOffset, agree.indices id owned]

theorem AgreeFor.listBuilds_eq (agree : AgreeFor user first second)
    (restricted : ¬ user.hasCap "builds:list:any" = true) (userParam stateParam : Option String) :
    first.listBuilds user userParam stateParam = second.listBuilds user userParam stateParam := by
  have isOwn : ∀ row, passesFilters (some user.email) stateParam row = true →
      row.userEmail = user.email := by
    intro row passes
    rw [passesFilters, Bool.and_eq_true] at passes
    exact of_decide_eq_true passes.1
  have sameEntries : ∀ check : BuildRow → Bool,
      (∀ row, check row = true → row.userEmail = user.email) →
        (first.state.builds.rows.selectDescending fun _ row => check row) =
          second.state.builds.rows.selectDescending fun _ row => check row := by
    intro check owned
    exact Dictionary.selectDescending_congr fun id row checked =>
      agree.rows id row (owned row checked)
  refine bind_congr_ok rfl fun _ _ => congrArg pure ?_
  rw [if_neg restricted, listBuildRecords, listBuildRecords,
    sameEntries _ isOwn]
  apply List.map_congr_left
  rintro ⟨id, row⟩ inside
  exact agree.listRecord_eq (isOwn row (Dictionary.mem_selectDescending.mp inside).2) id

variable {state : AppState}

/-- A build that is not the caller's is not found, and the request changes nothing. -/
theorem run_revokeBuild_of_not_owned (restricted : ¬ user.hasCap "builds:revoke:any" = true)
    (foreign : ∀ row, state.builds.getBuild id = some row → row.userEmail ≠ user.email) :
    (revokeBuild user id).run state =
      (state, .error (if user.hasCap "builds:revoke:own" then ⟨.notFound, "build not found"⟩
        else ⟨.forbidden,
          "missing required capability: builds:revoke:own or builds:revoke:any"⟩)) := by
  unfold revokeBuild
  by_cases revokes : user.hasCap "builds:revoke:own" = true
  · cases stored : state.builds.getBuild id with
    | none => simp [restricted, revokes, Routine.run_bind, Handler.getBuild, stored]
    | some row =>
      simp [restricted, revokes, Routine.run_bind, Handler.getBuild, stored, foreign row stored]
  · simp [restricted, revokes]

/-- The revocation of an assigned build fails exactly when no worker has it. -/
theorem response_revokeAssigned (id : BuildId) (state : AppState) :
    ((revokeAssigned id).run state).2 =
      if (state.queue.active.get id).isSome then
        .ok ("build " ++ toString id ++ " revoke sent — now revoking")
      else .error ⟨.internalServerError, "failed to send revoke"⟩ := by
  simp only [revokeAssigned, sendBuildRevoke, Routine.bind_eq, Routine.run_bind, Handler.lockFor,
    Routine.run_step]
  cases state.queue.active.get id <;> rfl

/-- The response to the owner of a build depends on the row and on whether a worker has the
build. -/
theorem AgreeFor.revokeBuild_eq (agree : AgreeFor user first second)
    (restricted : ¬ user.hasCap "builds:revoke:any" = true) :
    ((revokeBuild user id).run first.state).2 = ((revokeBuild user id).run second.state).2 := by
  by_cases owned : first.Owns user id
  · have ⟨row, stored, isOwn⟩ := owned
    have storedToo := (agree.rows id row isOwn).mp stored
    have active := agree.active id owned
    unfold revokeBuild
    split
    · rfl
    · simp only [Routine.bind_eq, Routine.run_bind, Handler.getBuild, Routine.run_step, stored,
        storedToo, isOwn]
      split
      · rfl
      · cases row.state with
        | dispatched | started => simp only [response_revokeAssigned, active]
        | _ => rfl
  · have foreign : ∀ row, first.state.builds.getBuild id = some row →
        row.userEmail ≠ user.email := fun row stored isOwn => owned ⟨row, stored, isOwn⟩
    have foreignToo : ∀ row, second.state.builds.getBuild id = some row →
        row.userEmail ≠ user.email := fun row stored isOwn =>
      foreign row ((agree.rows id row isOwn).mpr stored) isOwn
    rw [run_revokeBuild_of_not_owned restricted foreign,
      run_revokeBuild_of_not_owned restricted foreignToo]

variable {request : BuildRequest}

/-- Every request gets the same response, unless it tells whether a build exists. -/
theorem AgreeFor.respond_eq (agree : AgreeFor user first second)
    (listsOwn : ¬ user.hasCap "builds:list:any" = true)
    (revokesOwn : ¬ user.hasCap "builds:revoke:any" = true)
    (quiet : user.hasCap "builds:list:own" = true ∨ ∀ id, request.shown = some id →
      (first.state.builds.getBuild id).isSome = (second.state.builds.getBuild id).isSome) :
    request.respond env first user = request.respond env second user := by
  have seen : ∀ id, request.shown = some id →
      first.viewBuild env user id = second.viewBuild env user id := by
    intro id shown
    exact agree.viewBuild_eq listsOwn (quiet.imp_right fun same => same id shown)
  have owns : ∀ id (record : BuildRecord Json), first.viewBuild env user id = .ok record →
      first.Owns user id := fun _ _ => owns_of_viewBuild listsOwn
  cases request with
  | list userParam stateParam =>
    rw [BuildRequest.respond, agree.listBuilds_eq listsOwn]
    rfl
  | get id =>
    rw [BuildRequest.respond, getBuild, seen id rfl]
    rfl
  | tail id lines =>
    refine congrArg (Except.map _) (bind_congr_ok (seen id rfl) fun record shown => ?_)
    rw [agree.logFiles id (owns id record shown)]
  | follow id lastEventId =>
    refine congrArg (Except.map _) (bind_congr_ok (seen id rfl) fun record shown => ?_)
    exact agree.sseFollow_eq (owns id record shown) lastEventId
  | full id =>
    refine congrArg (Except.map _) (bind_congr_ok (seen id rfl) fun record shown => ?_)
    rw [agree.logFiles id (owns id record shown)]
  | revoke id =>
    rw [BuildRequest.respond, agree.revokeBuild_eq revokesOwn]
    rfl

/-- A caller who may list nothing is refused in one way or the other. -/
theorem respond_of_shown
    (shown : request.shown = some id) (listsOwn : ¬ user.hasCap "builds:list:any" = true)
    (lists : ¬ user.hasCap "builds:list:own" = true) :
    request.respond env service user =
      .error (if (service.state.builds.getBuild id).isSome then
        ⟨.forbidden, "missing required capability: builds:list:own or builds:list:any"⟩
        else ⟨.notFound, "build not found"⟩) := by
  cases request with
  | list | revoke => cases shown
  | get other | tail other | follow other | full other =>
    obtain rfl := Option.some.inj shown
    simp only [BuildRequest.respond, getBuild, logsTail, logsFollow,
      logsFull, viewBuild_of_not_listOwn listsOwn lists]
    rfl

variable {other : BuildId}

theorem viewOf_revokeQueued (different : other ≠ id) :
    ((revokeQueued id).run state).1.viewOf other = state.viewOf other := by
  simp [revokeQueued, Routine.run_bind, Handler.lockFor, Handler.execute, AppState.viewOf,
    BuildsTable.updateBuildState, BuildQueue.active_removeById, different,
    state.queue.filter_lane_removeById different]

theorem viewOf_revokeAssigned (different : other ≠ id) :
    ((revokeAssigned id).run state).1.viewOf other = state.viewOf other := by
  simp only [revokeAssigned, sendBuildRevoke, Routine.bind_eq, Routine.run_bind, Handler.lockFor,
    Routine.run_step]
  cases state.queue.active.get id with
  | none => rfl
  | some build =>
    simp [Routine.run_bind, Handler.execute, Handler.sendTextToConnection, AppState.viewOf,
      AppState.deliver, BuildsTable.setBuildRevoking, different, List.count_append,
      Ne.symm different]

/-- A revocation request changes nothing about a build that is not the caller's. -/
theorem viewOf_revokeBuild {row : BuildRow} (restricted : ¬ user.hasCap "builds:revoke:any" = true)
    (stored : state.builds.getBuild other = some row) (foreign : row.userEmail ≠ user.email) :
    ((revokeBuild user id).run state).1.viewOf other = state.viewOf other := by
  by_cases owned : ∃ row, state.builds.getBuild id = some row ∧ row.userEmail = user.email
  · obtain ⟨ownRow, storedOwn, isOwn⟩ := owned
    have different : other ≠ id := by
      rintro rfl
      rw [stored] at storedOwn
      exact foreign (Option.some.inj storedOwn ▸ isOwn)
    unfold revokeBuild
    split
    · rfl
    · simp only [Routine.bind_eq, Routine.run_bind, Handler.getBuild, Routine.run_step, storedOwn]
      split
      · rfl
      · cases ownRow.state with
        | queued =>
          simp only [Routine.run_bind, Routine.pure_eq, Routine.run_done]
          exact viewOf_revokeQueued different
        | dispatched | started => exact viewOf_revokeAssigned different
        | _ => rfl
  · rw [run_revokeBuild_of_not_owned restricted fun row stored isOwn =>
      owned ⟨row, stored, isOwn⟩]

end Routes

/-- Two servers that agree on the caller's builds give the same responses, and a revocation leaves
the builds of others alone, exactly when the caller may list builds or the request is not for a
build that exists in only one of the servers. -/
theorem sees_nothing_of_others_iff (env : ReadEnv Json) (user : AuthUser) (request : BuildRequest)
    {first second : Service} (listsOwn : ¬ user.hasCap "builds:list:any" = true)
    (revokesOwn : ¬ user.hasCap "builds:revoke:any" = true) (agree : AgreeFor user first second) :
    (request.respond env first user = request.respond env second user ∧
        ∀ id other row, first.state.builds.getBuild other = some row →
          row.userEmail ≠ user.email →
            ((revokeBuild user id).run first.state).1.viewOf other = first.state.viewOf other) ↔
      (user.hasCap "builds:list:own" = true ∨ ∀ id, request.shown = some id →
        (first.state.builds.getBuild id).isSome = (second.state.builds.getBuild id).isSome) := by
  constructor
  · rintro ⟨same, -⟩
    by_cases lists : user.hasCap "builds:list:own" = true
    · exact Or.inl lists
    · refine Or.inr fun id shown => ?_
      rw [respond_of_shown shown listsOwn lists, respond_of_shown shown listsOwn lists] at same
      by_contra differs
      cases inFirst : (first.state.builds.getBuild id).isSome <;>
        cases inSecond : (second.state.builds.getBuild id).isSome <;>
        simp [inFirst, inSecond] at same differs
  · intro quiet
    refine ⟨agree.respond_eq listsOwn revokesOwn quiet, fun id other row stored foreign => ?_⟩
    exact viewOf_revokeBuild revokesOwn stored foreign

def bob : AuthUser where
  email := "bob@example.com"
  name := "Bob"
  caps := ["builds:create", "builds:list:own", "builds:revoke:own"]
  isRobot := false

/-- The same user with a role that only lets them submit builds. -/
def submittingBob : AuthUser :=
  { bob with caps := ["builds:create"] }

/-- A server with one build, which belongs to that user. -/
def ownServer : AppState :=
  (execAll .smooth [.submit { cephSubmission with userEmail := "bob@example.com" }]
    freshServer).getD freshServer

/-- The server after another user has submitted a build, too. -/
def sharedServer : AppState :=
  (execAll .smooth [.submit cephSubmission] ownServer).getD ownServer

/-- The site of both servers with its builds. -/
def ownService : Service := ⟨restrictedSite, ownServer⟩

@[inherit_doc ownService]
def sharedService : Service := ⟨restrictedSite, sharedServer⟩

theorem reachable_ownServer : Reachable ownServer :=
  reachable_freshServer.execAll (by simp [Operation.NoDatabaseError, Env.smooth]) (by decide)

theorem reachable_sharedServer : Reachable sharedServer :=
  reachable_ownServer.execAll (by simp [Operation.NoDatabaseError, Env.smooth]) (by decide)

theorem agreeFor_bob {user : AuthUser} (isBob : user.email = "bob@example.com") :
    AgreeFor user sharedService ownService := by
  have shared : ∀ entry ∈ sharedServer.builds.rows.entries,
      entry.2.userEmail = "bob@example.com" → entry ∈ ownServer.builds.rows.entries := by decide
  have kept : ∀ entry ∈ ownServer.builds.rows.entries,
      entry ∈ sharedServer.builds.rows.entries := by decide
  have onlyFirst : ∀ entry ∈ sharedServer.builds.rows.entries,
      entry.2.userEmail = "bob@example.com" → entry.1 = 1 := by decide
  have first : ∀ {id}, sharedService.Owns user id → id = 1 := by
    rintro id ⟨row, stored, isOwn⟩
    exact onlyFirst ⟨id, row⟩ (AList.mem_lookup_iff.mp stored) (isOwn.trans isBob)
  constructor
  case account => rfl
  case channels => rfl
  case rows =>
    intro id row isOwn
    constructor
    · intro stored
      exact AList.mem_lookup_iff.mpr
        (shared ⟨id, row⟩ (AList.mem_lookup_iff.mp stored) (isOwn.trans isBob))
    · intro stored
      exact AList.mem_lookup_iff.mpr (kept ⟨id, row⟩ (AList.mem_lookup_iff.mp stored))
  all_goals
    intro id owned
    obtain rfl := first owned
  case logRows => decide
  case logFiles => rfl
  case storedLogFiles => exact fun row _ => rfl
  case indices => decide
  case watchers => decide
  case active => decide

/-- A user who may list their own builds gets the same answers, whether the other build exists or
not. -/
theorem bob_sees_nothing_of_others :
    (BuildRequest.get 2).respond ⟨some, fun _ _ => none⟩ sharedService bob =
      (BuildRequest.get 2).respond ⟨some, fun _ _ => none⟩ ownService bob :=
  ((sees_nothing_of_others_iff ⟨some, fun _ _ => none⟩ bob (.get 2) (by decide) (by decide)
    (agreeFor_bob rfl)).mpr (Or.inl (by decide))).1

/-- Without the capability the same request tells the servers apart. -/
theorem existence_revealed :
    Reachable sharedServer ∧ Reachable ownServer ∧
      submittingBob.hasCap "builds:list:any" = false ∧
      submittingBob.hasCap "builds:revoke:any" = false ∧
      AgreeFor submittingBob sharedService ownService ∧
      (BuildRequest.get 2).respond ⟨some, fun _ _ => none⟩ sharedService submittingBob =
        .error ⟨.forbidden,
          "missing required capability: builds:list:own or builds:list:any"⟩ ∧
      (BuildRequest.get 2).respond ⟨some, fun _ _ => none⟩ ownService submittingBob =
        .error ⟨.notFound, "build not found"⟩ :=
  ⟨reachable_sharedServer, reachable_ownServer, by decide, by decide, agreeFor_bob rfl, rfl, rfl⟩

end Cbs
