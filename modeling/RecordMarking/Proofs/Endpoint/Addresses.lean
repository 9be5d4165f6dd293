import RecordMarking.Proofs.Endpoint.Departure

/-!
# The addresses of a connection

A transport reports the addresses of both of its ends, each in the form that its family has. Of an
address with four parts an endpoint keeps host and port, whatever the family: `hostAndPort_reported`
gives what is kept of every address, and `kept_eq_faithful_iff` says that all are kept as they
should be but the paths of four characters or octets.

`Lasts` says that a connection was made and has not been dismissed since, in the midst of all that
an endpoint does. `reported_addresses_are_kept` says that the addresses of a connection are known
for as long as it lasts.
-/

namespace RecordMarking

/-- The address of an end of a connection, as a transport reports it. -/
inductive Address where
  /-- No address is known. -/
  | absent
  | inet (host : String) (port : Int)
  /-- An address with its flow information and its scope. -/
  | inet6 (host : String) (port flow scope : Int)
  /-- The path of a local socket, as a text. -/
  | path (name : String)
  /-- The path of a local socket, as octets. -/
  | rawPath (name : Octets)
deriving DecidableEq, Repr

namespace Address

/-- The value that a transport reports for an address. -/
def reported : Address → Value
  | .absent => .absent
  | .inet host port => .tuple [.text host, .integer port]
  | .inet6 host port flow scope =>
    .tuple [.text host, .integer port, .integer flow, .integer scope]
  | .path name => .text name
  | .rawPath name => .octets name

/-- An address as it should be known: as it is reported, but for flow information and scope. -/
def faithful : Address → Value
  | .inet6 host port _ _ => .tuple [.text host, .integer port]
  | address => address.reported

/-- A path that has as many items as an address with flow information and scope has parts. -/
def IsPathOfFour : Address → Prop
  | .path name => name.toList.length = 4
  | .rawPath name => name.length = 4
  | .absent | .inet .. | .inet6 .. => False

/-- What is kept of an address. Of a path of four that is its first two items. -/
def kept : Address → Value
  | .path name =>
    match name.toList with
    | [first, second, _, _] => .tuple [.text first.toString, .text second.toString]
    | _ => .text name
  | .rawPath name =>
    match name with
    | [first, second, _, _] => .tuple [.integer first.toNat, .integer second.toNat]
    | _ => .octets name
  | address => address.faithful

/-- What an endpoint keeps of the value that is reported for an address. -/
theorem hostAndPort_reported (address : Address) :
    hostAndPort address.reported = .ok address.kept := by
  cases address with
  | absent | inet | inet6 => rfl
  | path name =>
    simp only [reported, kept, hostAndPort, Value.items?]
    match name.toList with
    | [] | [_] | [_, _] | [_, _, _] | [_, _, _, _] | _ :: _ :: _ :: _ :: _ :: _ => rfl
  | rawPath name =>
    match name with
    | [] | [_] | [_, _] | [_, _, _] | [_, _, _, _] | _ :: _ :: _ :: _ :: _ :: _ => rfl

/-- Only paths of four are not kept as they should be. -/
theorem kept_eq_faithful_iff (address : Address) :
    address.kept = address.faithful ↔ ¬ address.IsPathOfFour := by
  cases address with
  | absent | inet | inet6 => exact iff_of_true rfl id
  | path name =>
    simp only [kept, faithful, reported, IsPathOfFour]
    match name.toList with
    | [] | [_] | [_, _] | [_, _, _] | _ :: _ :: _ :: _ :: _ :: _ => simp
    | [_, _, _, _] => simp
  | rawPath name =>
    match name with
    | [] | [_] | [_, _] | [_, _, _] | _ :: _ :: _ :: _ :: _ :: _ =>
      simp [kept, faithful, reported, IsPathOfFour]
    | [_, _, _, _] => simp [kept, faithful, reported, IsPathOfFour]

end Address

/-- A task that neither makes a connection nor dismisses one that was lost. -/
def Task.LeavesPeer : Task → Prop
  | .act (.connect _) | .dismiss => False
  | .act _ | .parse | .endCallback _ => True

instance Task.decidableLeavesPeer (task : Task) : Decidable task.LeavesPeer :=
  match task with
  | .act (.connect _) | .dismiss => .isFalse id
  | .act (.receive _) | .act (.receiveNumbers _) | .act (.send _) | .act (.lose _) | .act .close
  | .act (.setLimit _) | .act (.raise _) | .parse | .endCallback _ => .isTrue trivial

namespace Endpoint

variable {endpoint : Endpoint}

theorem Attends.peer_eq {outcome : Outcome Endpoint (List Task)}
    (attends : Attends endpoint outcome) : outcome.state.peer = endpoint.peer := by
  obtain ⟨records, writes, closes, assembler, left⟩ := attends.state_eq
  rw [left, peer_progressed]

/-- Between its arrival and its dismissal no task changes what is known about the peer. -/
theorem peer_perform {task : Task} (leaves : task.LeavesPeer) (endpoint : Endpoint) :
    (task.perform.run endpoint).state.peer = endpoint.peer := by
  cases task with
  | parse =>
    obtain ⟨⟨records, closes, assembler, left⟩, _⟩ :=
      @progress_of_parse endpoint (fun _ => True) (fun _ _ _ _ _ _ _ => trivial) trivial trivial
    rw [left, peer_progressed]
  | dismiss => exact leaves.elim
  | endCallback callback => rfl
  | act action =>
    cases action with
    | connect connection => exact leaves.elim
    | lose reason => rw [run_lose]
    | setLimit limit => rfl
    | receive octets => exact (attends_receive octets endpoint).peer_eq
    | receiveNumbers numbers => exact (attends_receiveNumbers numbers endpoint).peer_eq
    | send data => exact (@attends_of_standsAside (.send data) trivial endpoint).peer_eq
    | close => exact (@attends_of_standsAside .close trivial endpoint).peer_eq
    | raise fault => exact (@attends_of_standsAside (.raise fault) trivial endpoint).peer_eq

/-- In the history of an endpoint a connection was made, and since then no other one was made and
none that was lost dismissed. -/
def Lasts (connection : Connection) (history : List (Task × Endpoint)) : Prop :=
  ∃ before made since, history = before ++ (.act (.connect connection), made) :: since ∧
    ∀ entry ∈ since, entry.1.LeavesPeer

/-- A connection that lasts behind a task was made by the task, or lasts already and is left. -/
theorem lasts_concat {connection : Connection} {history : List (Task × Endpoint)} {task : Task}
    (lasts : Lasts connection (history ++ [(task, endpoint)])) :
    task = .act (.connect connection) ∨ Lasts connection history ∧ task.LeavesPeer := by
  obtain ⟨before, made, since, parts, left⟩ := lasts
  rcases List.eq_nil_or_concat since with rfl | ⟨between, last, rfl⟩
  · obtain ⟨_, same⟩ := List.append_inj' parts rfl
    exact .inl (congrArg Prod.fst (List.singleton_inj.1 same))
  · rw [List.concat_eq_append] at parts left
    have whole : history ++ [(task, endpoint)] =
        (before ++ (.act (.connect connection), made) :: between) ++ [last] := by simpa using parts
    obtain ⟨rfl, same⟩ := List.append_inj' whole rfl
    obtain rfl : (task, endpoint) = last := List.singleton_inj.1 same
    obtain ⟨earlier, latest⟩ := List.forall_mem_append.1 left
    exact .inr ⟨⟨before, made, between, rfl, earlier⟩, latest _ List.mem_cons_self⟩

/-- An endpoint that knows the addresses of both ends of its connection, as they should be known
unless they are paths of four. -/
structure Knows (remote own : Address) (endpoint : Endpoint) : Prop where
  remote_eq : endpoint.peer.remoteAddress = remote.kept
  own_eq : endpoint.peer.localAddress = own.kept
  remote_faithful : endpoint.peer.remoteAddress = remote.faithful ↔ ¬ remote.IsPathOfFour
  own_faithful : endpoint.peer.localAddress = own.faithful ↔ ¬ own.IsPathOfFour

theorem knows_of_kept {remote own : Address}
    (remote_eq : endpoint.peer.remoteAddress = remote.kept)
    (own_eq : endpoint.peer.localAddress = own.kept) : endpoint.Knows remote own where
  remote_eq := remote_eq
  own_eq := own_eq
  remote_faithful := remote_eq ▸ remote.kept_eq_faithful_iff
  own_faithful := own_eq ▸ own.kept_eq_faithful_iff

/-- What is known about the addresses depends on the peer alone. -/
theorem Knows.of_peer_eq {remote own : Address} {next : Endpoint}
    (knows : endpoint.Knows remote own) (same : next.peer = endpoint.peer) :
    next.Knows remote own :=
  knows_of_kept (same ▸ knows.remote_eq) (same ▸ knows.own_eq)

section Connection

variable {connection : Connection} {remote own : Address}

/-- Once a connection was made, its addresses are known. -/
theorem knows_of_connect (remoteReported : connection.remoteAddress = remote.reported)
    (ownReported : connection.localAddress = own.reported) (endpoint : Endpoint) :
    ((Task.act (.connect connection)).perform.run endpoint).state.Knows remote own := by
  have remoteKept : hostAndPort connection.remoteAddress = .ok remote.kept := by
    rw [remoteReported, remote.hostAndPort_reported]
  have ownKept : hostAndPort connection.localAddress = .ok own.kept := by
    rw [ownReported, own.hostAndPort_reported]
  rw [@run_connect_of_kept connection _ _ remoteKept ownKept endpoint]
  exact knows_of_kept rfl rfl

/-- While a connection lasts, its addresses are known, whatever is done to the endpoint and whatever
its callbacks do. They are known as the transport reports them, without flow information and scope,
unless they are paths of four characters or octets. -/
theorem reported_addresses_are_kept (remoteReported : connection.remoteAddress = remote.reported)
    (ownReported : connection.localAddress = own.reported) (calls : List Action)
    (endpoint : Endpoint) :
    (∀ history entry later, (serve calls endpoint).performed = history ++ entry :: later →
      Lasts connection history → entry.2.Knows remote own) ∧
    (Lasts connection (serve calls endpoint).performed →
      (serve calls endpoint).endpoint.Knows remote own) := by
  have step : ∀ history task (endpoint : Endpoint), True →
      (Lasts connection history → endpoint.Knows remote own) →
      Maintains (fun _ => True)
        (fun next => Lasts connection (history ++ [(task, endpoint)]) → next.Knows remote own)
        (task.perform.run endpoint) := by
    intro history task endpoint _ known
    refine ⟨fun lasts => ?_, fun _ _ _ _ => trivial⟩
    rcases lasts_concat lasts with rfl | ⟨already, leaves⟩
    · exact knows_of_connect remoteReported ownReported endpoint
    · exact (known already).of_peer_eq (peer_perform leaves endpoint)
  have nothing : Lasts connection [] → endpoint.Knows remote own := by
    rintro ⟨before, made, since, parts, _⟩
    exact absurd parts.symm (by simp)
  obtain ⟨afterwards, during⟩ :=
    @serve_history _ (fun history endpoint => Lasts connection history → endpoint.Knows remote own)
      step calls endpoint (fun _ _ => trivial) [] nothing
  exact ⟨fun history entry later parts => (during history entry later parts).2, afterwards⟩

end Connection

/-- A connection over which a record arrives and which is then lost. Its addresses are known up to
the dismissal, behind the callback for the departure, and forgotten with it. -/
theorem reported_addresses_are_kept_until_dismissal :
    let remote : Address := .inet6 "::1" 5000 0 0
    let own : Address := .path "/run/s"
    let connection : Connection := ⟨remote.reported, own.reported, ⟨[0, 0, 0, 0, 0], rfl⟩, [], []⟩
    let endpoint : Endpoint :=
      ⟨1, true, .integer 16, .empty, .unconnected, none, 0, ⟨some [], none, some [[.close]]⟩⟩
    let service := serve [.connect connection, .receive [128, 0, 0, 1, 97], .lose none] endpoint
    ∃ history last, service.performed = history ++ [(.dismiss, last)] ∧
      Lasts connection history ∧ last.Knows remote own ∧
      last.peer.remoteAddress = .tuple [.text "::1", .integer 5000] ∧
      last.peer.localAddress = .text "/run/s" ∧ service.endpoint.peer = .lost := by
  intro remote own connection endpoint service
  let history := service.performed.dropLast
  let last := (service.performed.getLast?.map Prod.snd).getD endpoint
  have parts : service.performed = history ++ [(.dismiss, last)] := by decide +kernel
  have lasts : Lasts connection history :=
    ⟨[], endpoint, history.tail, by decide +kernel, by decide +kernel⟩
  have knows : last.Knows remote own :=
    (reported_addresses_are_kept rfl rfl _ endpoint).1 history (.dismiss, last) [] parts lasts
  exact ⟨history, last, parts, lasts, knows, knows.remote_eq, knows.own_eq, by decide +kernel⟩

/-- An endpoint that is created and connected, and knows the path of its own end by its first two
characters. -/
theorem path_of_four_is_cut :
    let own : Address := .path "sock"
    let created : Endpoint :=
      ⟨1, true, .integer 16, .empty, .unconnected, none, 0, ⟨none, none, none⟩⟩
    let service :=
      serve [.connect ⟨Address.reported (.path ""), own.reported, ⟨[0, 0, 0, 0, 0], rfl⟩, [], []⟩]
        created
    create 1 (.integer 16) ⟨none, none, none⟩ = .ok created ∧ service.results = [.ok ()] ∧
      own.reported = .text "sock" ∧ own.faithful = .text "sock" ∧
      service.endpoint.peer.localAddress = .tuple [.text "s", .text "o"] ∧
      service.endpoint.peer.localAddress ≠ own.faithful := by
  decide +kernel

end Endpoint

end RecordMarking
