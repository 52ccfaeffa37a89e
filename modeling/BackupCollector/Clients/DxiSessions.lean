/-
# The DXi session

A DXi is reached over SSH, through a jump host where one is configured.  A session opens up to
three things (the jump client, a channel through it, the client of the device), runs the commands
one after another, and closes what it opened in a `finally` clause.  The SSH library is a
parameter, and it may raise at ANY step, at a closing too.

Two accounts are given of a session, and both hold whatever the library raises.

* What it does (`session_ends`).  A session does a part of its plan, from the start and in order,
  and then closes what that part opened, the client of the device first.  One that returned did all
  of its plan.  The exception is a session whose client could not be created, because the known
  hosts cannot be loaded: it did nothing and there was nothing to close.
* What it reports (`session_reported`).  A collection that returned has the output of every
  configured command and of no other, and an error for exactly those that failed.

The shape of the first proof is a plan and a run that FOLLOWS it: `Py/Requests` has the notion,
each part of a session follows its part of the plan, and the parts are put together by a rule.  The
second is a loop invariant over the commands.

A closing that raises ends the clause, as it does in the source, and what was to be closed after it
stays open; that is the `unless` of `Ended`.  What the commands print is no concern of this module.
-/
import BackupCollector.Collectors.DxiCli
import BackupCollector.Core.Loader
import BackupCollector.Py.Requests

namespace BackupCollector.DxiCli

open Py

/-! ## 1. What a session asks of the SSH library

The steps are what a session asks of the library and in which order; the arguments of a connection
are part of the step, since they decide whether a jump host is used. -/

/-- What a session opens. -/
inductive Resource where
  | client | channel | jumpClient
deriving DecidableEq, Repr

/-- The arguments of `connect`; `sock` says whether the channel is one of them. -/
structure ConnectKwargs where
  hostname : Option Str
  port : Int
  username : Option Str
  password : Option Str
  keyFilename : Option Str
  timeout : Int
  bannerTimeout : Int
  authTimeout : Int
  lookForKeys : Bool
  allowAgent : Bool
  disabledPubkeys : List Str
  sock : Bool
deriving DecidableEq

/-- A step of a session.  A client is created with a policy for unknown host keys: to reject them, or
to add them. -/
inductive SshStep where
  | created (resource : Resource) (rejectsUnknown : Bool)
  | connect (resource : Resource) (kwargs : ConnectKwargs)
  | openChannel (kind : Str) (destAddr : Option Str × Int) (srcAddr : Str × Int)
  | channelOpened
  | run (name : Str) (command : Json) (timeout : Int)
  | close (resource : Resource)
deriving DecidableEq

/-- What a command came to, its streams decoded. -/
structure CommandOutput where
  exitStatus : Int
  stdout : Str
  stderr : Str

/-- What the SSH library returns or raises, step by step. -/
structure Paramiko where
  loadHostKeys : Resource → Except Err Unit
  connect : Resource → Except Err Unit
  transportActive : Except Err Bool
  openChannel : Except Err Unit
  run : Str → Except Err CommandOutput
  close : Resource → Except Err Unit

/-! ## 2. The client

The functions of the client under their names, with a log of the steps. -/

/-- `config.ssh_port or config.port or 22` -/
def sshPort (c : CollectorConfig) : Int :=
  if c.sshPort.getD 0 ≠ 0 then c.sshPort.getD 0 else if c.port ≠ 0 then c.port else 22

/-- `_connect_kwargs` -/
def connectKwargs (c : CollectorConfig) (sock : Bool) : ConnectKwargs where
  hostname := c.host
  port := sshPort c
  username := c.username
  password := if given c.sshKeyPath then none else c.password
  keyFilename := if given c.sshKeyPath then c.sshKeyPath else none
  timeout := c.commandTimeout
  bannerTimeout := c.commandTimeout
  authTimeout := c.commandTimeout
  lookForKeys := false
  allowAgent := false
  disabledPubkeys := ["rsa-sha2-512", "rsa-sha2-256"]
  sock := sock

/-- `_jump_connect_kwargs` -/
def jumpConnectKwargs (c : CollectorConfig) : ConnectKwargs where
  hostname := c.jumpHost
  port := c.jumpPort
  username := c.jumpUsername
  password := none
  keyFilename := if given c.jumpSshKeyPath then c.jumpSshKeyPath else c.sshKeyPath
  timeout := c.commandTimeout
  bannerTimeout := c.commandTimeout
  authTimeout := c.commandTimeout
  lookForKeys := false
  allowAgent := false
  disabledPubkeys := []
  sock := false

section Client

variable (c : CollectorConfig) (paramiko : Paramiko)

/-- `_new_client`: with known hosts, a client rejects the hosts that are not among them. -/
def newClient (resource : Resource) : Requests SshStep Err Unit := do
  if given c.sshKnownHostsPath then
    Requests.lift (paramiko.loadHostKeys resource)
    Requests.ask (.created resource true) ()
  else Requests.ask (.created resource false) ()

/-- The way to the device: whether there is a channel to it. -/
def openChannel : Requests SshStep Err Bool := do
  if given c.jumpHost then
    newClient c paramiko .jumpClient
    Requests.attempt (.connect .jumpClient (jumpConnectKwargs c)) (paramiko.connect .jumpClient)
    let active ← Requests.lift paramiko.transportActive
    if active then
      Requests.attempt (.openChannel "direct-tcpip" (c.host, sshPort c) ("127.0.0.1", 0)) paramiko.openChannel
      Requests.ask .channelOpened true
    else Requests.lift (.error ⟨.runtimeError, "SSH jump transport is not active"⟩)
  else return false

/-- `_run_command` of a command that was run: its output, and its error when it failed. -/
def readCommand (name : Str) (answer : CommandOutput) : Str × Option Json :=
  if answer.exitStatus = 0 then (answer.stdout, none)
  else
    let message := orText (Str.strip answer.stderr) (Str.strip answer.stdout)
    if name = lit "service_tickets" ∧ lit "No open tickets available" <:+: message then ([], none)
    else (answer.stdout, some (.obj [("exit_status", .int answer.exitStatus), ("message", .str message)]))

/-- `outputs[name] = output`, and `errors[name] = error` when there is one. -/
def addCommand (result : DxiCliResult) (name : Str) (read : Str × Option Json) : DxiCliResult where
  outputs := Dict.set result.outputs name read.1
  errors := read.2.elim result.errors fun error => Dict.set result.errors name error

/-- One pass of the loop over the commands. -/
def runCommand (result : DxiCliResult) (command : Str × Json) : Requests SshStep Err DxiCliResult := do
  let answer ← Requests.attempt (.run command.1 command.2 c.commandTimeout) (paramiko.run command.1)
  return addCommand result command.1 (readCommand command.1 answer)

/-- The body of the `try`. -/
def session : Requests SshStep Err DxiCliResult := do
  let sock ← openChannel c paramiko
  Requests.attempt (.connect .client (connectKwargs c sock)) (paramiko.connect .client)
  c.commands.foldlM (runCommand c paramiko) ⟨[], []⟩

/-- What a step opens. -/
def SshStep.opens : SshStep → Option Resource
  | .created resource _ => some resource
  | .channelOpened => some .channel
  | _ => none

/-- The `finally` clause: the client is always closed, the others when they were opened. -/
def closeAll (done : List SshStep) : Requests SshStep Err Unit := do
  Requests.attempt (.close .client) (paramiko.close .client)
  if .channel ∈ done.filterMap SshStep.opens then
    Requests.attempt (.close .channel) (paramiko.close .channel)
  if .jumpClient ∈ done.filterMap SshStep.opens then
    Requests.attempt (.close .jumpClient) (paramiko.close .jumpClient)

/-- `run_commands` -/
def runCommands : Requests SshStep Err DxiCliResult := do
  newClient c paramiko .client
  (session c paramiko).andFinally (closeAll paramiko)

end Client

/-! ## 3. The plan

The plan of a session is written down once, as a list.  The functions of the client follow it. -/

section Plan

variable (c : CollectorConfig)

/-- The way through the jump host. -/
def jumpPlan : List SshStep :=
  if given c.jumpHost then
    [.created .jumpClient (given c.sshKnownHostsPath), .connect .jumpClient (jumpConnectKwargs c),
     .openChannel "direct-tcpip" (c.host, sshPort c) ("127.0.0.1", 0), .channelOpened]
  else []

/-- All that a session does that nothing disturbs. -/
def sessionPlan : List SshStep :=
  jumpPlan c ++ .connect .client (connectKwargs c (given c.jumpHost)) ::
    c.commands.map fun command => .run command.1 command.2 c.commandTimeout

/-- What is to be closed after a part of a session, the client first. -/
def closings (done : List SshStep) : List SshStep :=
  .close .client :: ((if .channel ∈ done.filterMap SshStep.opens then [.close .channel] else []) ++
    if .jumpClient ∈ done.filterMap SshStep.opens then [.close .jumpClient] else [])

end Plan

section Session

variable {c : CollectorConfig} {paramiko : Paramiko}

theorem newClient_follows (resource : Resource) :
    Requests.Follows (newClient c paramiko resource) [.created resource (given c.sshKnownHostsPath)] := by
  unfold newClient
  cases hhosts : given c.sshKnownHostsPath with
  | true => exact (Requests.follows_lift _).bind fun _ _ => Requests.follows_ask _ _
  | false => exact Requests.follows_ask _ _

/-- The way to the device follows the way through the jump host. -/
theorem openChannel_follows : Requests.Follows (openChannel c paramiko) (jumpPlan c) := by
  unfold openChannel jumpPlan
  cases hjump : given c.jumpHost with
  | false => exact Requests.follows_pure _
  | true =>
    refine (newClient_follows .jumpClient).bind fun _ _ => ?_
    refine (Requests.follows_attempt _ _).bind fun _ _ => ?_
    refine (Requests.follows_lift _).bind fun active _ => ?_
    cases active with
    | false => exact Requests.follows_raise _ _
    | true => exact (Requests.follows_attempt _ _).bind fun _ _ => Requests.follows_ask _ _

/-- There is a channel when there is a jump host. -/
theorem openChannel_outcome {sock : Bool} (h : (openChannel c paramiko).outcome = .ok sock) : sock = given c.jumpHost := by
  unfold openChannel at h
  cases hjump : given c.jumpHost with
  | false =>
    rw [hjump] at h
    exact (Except.ok.inj h).symm
  | true =>
    rw [hjump] at h
    obtain ⟨_, -, h⟩ := Requests.outcome_bind.mp h
    obtain ⟨_, -, h⟩ := Requests.outcome_bind.mp h
    obtain ⟨active, -, h⟩ := Requests.outcome_bind.mp h
    cases active with
    | false => cases h
    | true =>
      obtain ⟨_, -, h⟩ := Requests.outcome_bind.mp h
      exact (Except.ok.inj h).symm

theorem runCommand_follows (result : DxiCliResult) (command : Str × Json) :
    Requests.Follows (runCommand c paramiko result command) [.run command.1 command.2 c.commandTimeout] :=
  (Requests.follows_attempt _ _).bind fun _ _ => Requests.follows_pure _

/-- Whatever raises, a session does its plan from the start. -/
theorem session_follows : Requests.Follows (session c paramiko) (sessionPlan c) := by
  refine openChannel_follows.bind fun sock hsock => ?_
  rw [← openChannel_outcome hsock]
  refine (Requests.follows_attempt _ _).bind fun _ _ => ?_
  rw [List.map_eq_flatMap]
  exact Requests.follows_foldlM runCommand_follows c.commands _

theorem closeAll_follows (done : List SshStep) : Requests.Follows (closeAll paramiko done) (closings done) := by
  have hjump : Requests.Follows
      (if .jumpClient ∈ done.filterMap SshStep.opens then Requests.attempt (.close .jumpClient) (paramiko.close .jumpClient)
        else pure () : Requests SshStep Err Unit)
      (if .jumpClient ∈ done.filterMap SshStep.opens then [.close .jumpClient] else []) := by
    split
    · exact Requests.follows_attempt _ _
    · exact Requests.follows_pure _
  unfold closeAll closings
  refine (Requests.follows_attempt _ _).bind fun _ _ => ?_
  by_cases hchannel : .channel ∈ done.filterMap SshStep.opens
  · simp only [if_pos hchannel]
    exact (Requests.follows_attempt _ _).bind fun _ _ => hjump
  · simp only [if_neg hchannel]
    exact hjump

/-! ## 4. How a session ends

`closings` says what a part of the plan has opened and not closed, so that a session which is cut
short closes exactly that. -/

/-- What is closed after a session that nothing disturbed. -/
def allClosings (c : CollectorConfig) : List SshStep :=
  if given c.jumpHost then [.close .client, .close .channel, .close .jumpClient] else [.close .client]

theorem closings_sessionPlan : closings (sessionPlan c) = allClosings c := by
  unfold closings sessionPlan jumpPlan allClosings
  cases given c.jumpHost with
  | true => simp [SshStep.opens]
  | false => simp [SshStep.opens]

/-- A session that created its client does a part of its plan from the start, and closes what that
part opened, in order; all of it, unless a closing raises. -/
def Ended (c : CollectorConfig) (paramiko : Paramiko) (log : List SshStep) : Prop :=
  ∃ done after, log = .created .client (given c.sshKnownHostsPath) :: (done ++ after) ∧ done <+: sessionPlan c ∧
    after <+: closings done ∧ ((∀ resource, (paramiko.close resource).isOk = true) → after = closings done)

/-- When no closing raises, neither does the clause. -/
theorem closeAll_outcome (hclose : ∀ resource, (paramiko.close resource).isOk = true) (done : List SshStep) :
    (closeAll paramiko done).outcome = .ok () := by
  have hclosed : ∀ resource, (Requests.attempt (.close resource) (paramiko.close resource) :
      Requests SshStep Err Unit).outcome = .ok () := by
    intro resource
    obtain ⟨_, h⟩ := isOk_iff.mp (hclose resource)
    exact h
  unfold closeAll
  refine Requests.outcome_bind.mpr ⟨(), hclosed .client, ?_⟩
  by_cases hchannel : .channel ∈ done.filterMap SshStep.opens
  · simp only [if_pos hchannel]
    refine Requests.outcome_bind.mpr ⟨(), hclosed .channel, ?_⟩
    split
    · exact hclosed .jumpClient
    · rfl
  · simp only [if_neg hchannel]
    split
    · exact hclosed .jumpClient
    · rfl

/-- A client cannot be created when its known hosts cannot be loaded, and then nothing was done. -/
theorem newClient_raises {resource : Resource} {e : Err} (h : (newClient c paramiko resource).outcome = .error e) :
    given c.sshKnownHostsPath = true ∧ (paramiko.loadHostKeys resource).isOk = false ∧
      (newClient c paramiko resource).log = [] := by
  unfold newClient at h ⊢
  cases hhosts : given c.sshKnownHostsPath with
  | false =>
    rw [hhosts] at h
    cases h
  | true =>
    rw [hhosts] at h
    cases hload : paramiko.loadHostKeys resource with
    | ok u =>
      have hcreated : (do Requests.lift (paramiko.loadHostKeys resource); Requests.ask (.created resource true) () :
          Requests SshStep Err Unit).outcome = .ok () := Requests.outcome_bind.mpr ⟨u, hload, rfl⟩
      rw [if_pos rfl, hcreated] at h
      cases h
    | error e => exact ⟨rfl, rfl, rfl⟩

/-- **Every session ends closed.**  Either its client could not be created, because the known hosts
could not be loaded, or it did a part of its plan and closed what that part opened; one that
returned did all of its plan and closed all of it.  Where a closing itself raises, the closings end
there. -/
theorem session_ends (c : CollectorConfig) (paramiko : Paramiko) :
    ((given c.sshKnownHostsPath = true ∧ (paramiko.loadHostKeys .client).isOk = false ∧ (runCommands c paramiko).log = []) ∨
      Ended c paramiko (runCommands c paramiko).log) ∧
    ∀ result, (runCommands c paramiko).outcome = .ok result → (runCommands c paramiko).log =
      .created .client (given c.sshKnownHostsPath) :: (sessionPlan c ++ allClosings c) := by
  have hnew := @newClient_follows c paramiko .client
  obtain ⟨done, after, hlog, hdone, hafter, hcleaned, hreturned⟩ :=
    Requests.log_andFinally (@session_follows c paramiko) (@closeAll_follows paramiko)
  cases hcreated : (newClient c paramiko .client).outcome with
  | error e =>
    have hraised : runCommands c paramiko = ⟨(newClient c paramiko .client).log, .error e⟩ :=
      Requests.bind_of_error hcreated _
    refine ⟨Or.inl ?_, fun result hresult => ?_⟩
    · rw [hraised]
      exact newClient_raises hcreated
    · rw [hraised] at hresult
      cases hresult
  | ok u =>
    have hran : runCommands c paramiko = ⟨(newClient c paramiko .client).log ++
        ((session c paramiko).andFinally (closeAll paramiko)).log,
        ((session c paramiko).andFinally (closeAll paramiko)).outcome⟩ := Requests.bind_of_ok hcreated _
    rw [hran, hnew.completes u hcreated, hlog]
    refine ⟨Or.inr ⟨done, after, rfl, hdone, hafter, fun hclose => hcleaned (closeAll_outcome hclose done)⟩, ?_⟩
    intro result hresult
    obtain ⟨rfl, rfl⟩ := hreturned result hresult
    rw [closings_sessionPlan]
    rfl

/-! ## 5. What a session reports

A command that failed has both, an error and whatever output there was. -/

theorem addCommand_outputs (result : DxiCliResult) (name : Str) (read : Str × Option Json) (k : Str) :
    Dict.get? (addCommand result name read).outputs k = if name = k then some read.1 else Dict.get? result.outputs k :=
  Dict.get?_set _ _ _ _

theorem addCommand_errors (result : DxiCliResult) (name : Str) (read : Str × Option Json) (k : Str) :
    Dict.get? (addCommand result name read).errors k =
      if name = k then read.2.or (Dict.get? result.errors k) else Dict.get? result.errors k := by
  unfold addCommand
  cases read.2 with
  | none => simp
  | some error => simp [Dict.get?_set]

/-- What a result says of a command: its output is that of the run, and it has an error exactly
when the run came to one.  A command that is not configured is not reported. -/
def Reports (paramiko : Paramiko) (result : DxiCliResult) (name : Str) : Prop :=
  ∃ answer, paramiko.run name = .ok answer ∧ Dict.get? result.outputs name = some (readCommand name answer).1 ∧
    Dict.get? result.errors name = (readCommand name answer).2

/-- The loop reports the commands it runs, and leaves the others as they are. -/
theorem loop_reports {commands : Obj} {start result : DxiCliResult} (hnodup : (Dict.keys commands).Nodup)
    (h : (commands.foldlM (runCommand c paramiko) start).outcome = .ok result) :
    (∀ name ∉ Dict.keys commands, Dict.get? result.outputs name = Dict.get? start.outputs name ∧
      Dict.get? result.errors name = Dict.get? start.errors name) ∧
    ∀ command ∈ commands, Dict.get? start.errors command.1 = none → Reports paramiko result command.1 := by
  induction commands generalizing start with
  | nil =>
    obtain rfl : start = result := Except.ok.inj h
    exact ⟨fun _ _ => ⟨rfl, rfl⟩, fun _ hmem => absurd hmem List.not_mem_nil⟩
  | cons command commands ih =>
    rw [List.foldlM_cons] at h
    obtain ⟨next, hnext, h⟩ := Requests.outcome_bind.mp h
    obtain ⟨answer, hanswer, hadd⟩ := Requests.outcome_bind.mp hnext
    obtain rfl := Except.ok.inj hadd
    obtain ⟨hfresh, hrest⟩ := List.nodup_cons.mp hnodup
    obtain ⟨hframe, heach⟩ := ih hrest h
    constructor
    · intro name hname
      obtain ⟨hne, hother⟩ := not_or.mp (fun hor => hname (List.mem_cons.mpr hor))
      obtain ⟨houtputs, herrors⟩ := hframe name hother
      rw [houtputs, herrors, addCommand_outputs, addCommand_errors, if_neg (Ne.symm hne), if_neg (Ne.symm hne)]
      exact ⟨rfl, rfl⟩
    · intro ran hran hnone
      rcases List.mem_cons.mp hran with rfl | hran
      · obtain ⟨houtputs, herrors⟩ := hframe ran.1 hfresh
        refine ⟨answer, hanswer, ?_, ?_⟩
        · rw [houtputs, addCommand_outputs, if_pos rfl]
        · rw [herrors, addCommand_errors, if_pos rfl, hnone, Option.or_none]
      · have hne : command.1 ≠ ran.1 := fun heq => hfresh (heq ▸ List.mem_map_of_mem hran)
        exact heach ran hran (by rw [addCommand_errors, if_neg hne]; exact hnone)

/-- A result reports every command that is configured, and nothing else. -/
theorem runCommands_reports (hnodup : (Dict.keys c.commands).Nodup) {result : DxiCliResult}
    (h : (runCommands c paramiko).outcome = .ok result) :
    (∀ name ∉ Dict.keys c.commands, Dict.get? result.outputs name = none ∧ Dict.get? result.errors name = none) ∧
      ∀ name ∈ Dict.keys c.commands, Reports paramiko result name := by
  obtain ⟨_, -, h⟩ := Requests.outcome_bind.mp h
  obtain ⟨hsession, -⟩ := Requests.outcome_andFinally h
  obtain ⟨_, -, hsession⟩ := Requests.outcome_bind.mp hsession
  obtain ⟨_, -, hloop⟩ := Requests.outcome_bind.mp hsession
  obtain ⟨hframe, heach⟩ := loop_reports hnodup hloop
  refine ⟨hframe, fun name hname => ?_⟩
  obtain ⟨command, hcommand, rfl⟩ := List.mem_map.mp hname
  exact heach command hcommand rfl

/-- The commands with an output are those that are configured. -/
theorem mem_outputs (hnodup : (Dict.keys c.commands).Nodup) {result : DxiCliResult}
    (h : (runCommands c paramiko).outcome = .ok result) {command : Str} :
    command ∈ Dict.keys result.outputs ↔ command ∈ Dict.keys c.commands := by
  obtain ⟨hframe, heach⟩ := runCommands_reports hnodup h
  rw [← Dict.get?_isSome_iff]
  constructor
  · intro hsome
    by_contra hnone
    rw [(hframe command hnone).1] at hsome
    cases hsome
  · intro hmem
    obtain ⟨answer, -, houtput, -⟩ := heach command hmem
    rw [houtput]
    rfl

/-- The commands with an error are the configured ones that failed. -/
theorem mem_errors (hnodup : (Dict.keys c.commands).Nodup) {result : DxiCliResult}
    (h : (runCommands c paramiko).outcome = .ok result) {command : Str} :
    command ∈ Dict.keys result.errors ↔ command ∈ Dict.keys c.commands ∧ ∃ answer,
      paramiko.run command = .ok answer ∧ (readCommand command answer).2.isSome = true := by
  obtain ⟨hframe, heach⟩ := runCommands_reports hnodup h
  rw [← Dict.get?_isSome_iff]
  constructor
  · intro hsome
    by_cases hmem : command ∈ Dict.keys c.commands
    · obtain ⟨answer, hanswer, -, herror⟩ := heach command hmem
      exact ⟨hmem, answer, hanswer, herror ▸ hsome⟩
    · rw [(hframe command hmem).2] at hsome
      cases hsome
  · rintro ⟨hmem, answer, hanswer, herror⟩
    obtain ⟨answer', hanswer', -, herror'⟩ := heach command hmem
    obtain rfl : answer = answer' := Except.ok.inj (hanswer.symm.trans hanswer')
    exact herror' ▸ herror

end Session

section Report

variable [Unicode] {c : CollectorConfig} {paramiko : Paramiko}

/-- The payload of a result is a success when the result has no error. -/
theorem status_success_iff {result : DxiCliResult} {name : Str} {payload : Obj}
    (hpayload : collectPayload result name = .ok payload) :
    Obj.get payload "collection_status" = .str "success" ↔ result.errors = [] := by
  obtain ⟨summary, -, hpayload⟩ := bind_eq_ok.mp hpayload
  rw [← Except.ok.inj hpayload]
  cases herrors : result.errors with
  | nil => simp
  | cons error errors => simp

/-- **A collection reports every command**: one that returned has the output of each configured
command and of no other, the errors of exactly those that failed, and is a success when none did. -/
theorem session_reported (hnodup : (Dict.keys c.commands).Nodup) {result : DxiCliResult}
    (h : (runCommands c paramiko).outcome = .ok result) {name : Str} {payload : Obj}
    (hpayload : collectPayload result name = .ok payload) :
    (∀ command, command ∈ Dict.keys result.outputs ↔ command ∈ Dict.keys c.commands) ∧
    (∀ command, command ∈ Dict.keys result.errors ↔ command ∈ Dict.keys c.commands ∧ ∃ answer,
      paramiko.run command = .ok answer ∧ (readCommand command answer).2.isSome = true) ∧
    (∀ command ∈ Dict.keys c.commands, Reports paramiko result command) ∧
    (Obj.get payload "collection_status" = .str "success" ↔
      ∀ command ∈ Dict.keys c.commands, ∃ answer,
        paramiko.run command = .ok answer ∧ (readCommand command answer).2 = none) := by
  refine ⟨fun command => mem_outputs hnodup h, fun command => mem_errors hnodup h, (runCommands_reports hnodup h).2, ?_⟩
  rw [status_success_iff hpayload]
  constructor
  · intro hempty command hmem
    obtain ⟨answer, hanswer, -, herror⟩ := (runCommands_reports hnodup h).2 command hmem
    rw [hempty] at herror
    exact ⟨answer, hanswer, herror.symm⟩
  · intro hall
    have hnone : Dict.keys result.errors = [] := by
      refine List.eq_nil_iff_forall_not_mem.mpr fun command herror => ?_
      obtain ⟨hmem, answer, hanswer, hfailed⟩ := (mem_errors hnodup h).mp herror
      obtain ⟨answer', hanswer', hfine⟩ := hall command hmem
      obtain rfl : answer = answer' := Except.ok.inj (hanswer.symm.trans hanswer')
      rw [hfine] at hfailed
      cases hfailed
    exact List.map_eq_nil_iff.mp hnone

end Report

section Example

attribute [local instance] Unicode.ascii

/-- A DXi behind a jump host, with two commands. -/
def jumpDxi : CollectorConfig where
  name := "dxi01"
  type := "DXi"
  protocol := "cli"
  enabled := true
  host := some "192.0.2.10"
  username := some "dxi-user"
  password := some "s3cret"
  jumpHost := some "192.0.2.1"
  commands := [("capacity", .str "show capacity"), ("service_tickets", .str "show tickets")]

/-- It has no open tickets, which the second command reports as a failure. -/
def ticketless : Paramiko where
  loadHostKeys := fun _ => .ok ()
  connect := fun _ => .ok ()
  transportActive := .ok true
  openChannel := .ok ()
  run := fun name => .ok (if name = lit "capacity" then ⟨0, "Disk Capacity = 1.5 TB", []⟩
    else ⟨1, [], "No open tickets available"⟩)
  close := fun _ => .ok ()

theorem session_reported_ticketless : ∃ result payload, (runCommands jumpDxi ticketless).outcome = .ok result ∧
    collectPayload result "dxi01" = .ok payload ∧
    (∀ command, command ∈ Dict.keys result.outputs ↔ command ∈ Dict.keys jumpDxi.commands) ∧
    (∀ command, command ∈ Dict.keys result.errors ↔ command ∈ Dict.keys jumpDxi.commands ∧ ∃ answer,
      ticketless.run command = .ok answer ∧ (readCommand command answer).2.isSome = true) ∧
    (∀ command ∈ Dict.keys jumpDxi.commands, Reports ticketless result command) ∧
    (Obj.get payload "collection_status" = .str "success" ↔ ∀ command ∈ Dict.keys jumpDxi.commands,
      ∃ answer, ticketless.run command = .ok answer ∧ (readCommand command answer).2 = none) := by
  have hreturns : ((runCommands jumpDxi ticketless).outcome.bind fun result => collectPayload result "dxi01").isOk = true := by
    decide +kernel
  obtain ⟨payload, hboth⟩ := isOk_iff.mp hreturns
  obtain ⟨result, hresult, hpayload⟩ := bind_eq_ok.mp hboth
  exact ⟨result, payload, hresult, hpayload, session_reported (by decide) hresult hpayload⟩

end Example

end BackupCollector.DxiCli
