import DSEmu.Transport.SynchronousResult

/-!
# Finding the other phone

`acceptOne` and `connect` of `DSEmu/TwoPhone/BonjourTransport.swift`. The callbacks of the listener
or browser and of the one connection that is started run on one queue and may come in any order,
also after the call has ended; beside them is the thread that waits for the `SynchronousResult`,
which may take its steps, the timeout among them, between any two of theirs and between the lock
section and the signal of a `resolve`.

A connection is known by its identity, and a `BonjourTransport` by its connection. What is assumed
of the Network framework is that a connection stays open until it fails or is cancelled. A transport
that was handed to a `resolve` which stored nothing goes away with the call, and its `deinit`
cancels its connection. One that was stored does not go away while the connection is open: the
handler of the connection holds the result, and the result the transport.
-/

namespace DSEmu

open Automaton (exec exec_append_eq_some exec_concat_eq_some exec_invariant)

/-- The states that a listener, a browser or a connection reports. -/
inductive NWState where
  | setup
  | preparing
  | waiting (error : String)
  | ready
  | failed (error : String)
  | cancelled

/-- What a browser finds. -/
inductive NWEndpoint where
  | service (name : String)
  /-- An endpoint of another kind. -/
  | other

/-- What has become of a connection. -/
structure Candidate where
  /-- The listener has offered it, or `connect` has made it. -/
  created : Bool := false
  started : Bool := false
  failed : Bool := false
  cancelled : Bool := false

/-- A call of `acceptOne` or `connect`. -/
structure Discovery (τ κ : Type) where
  /-- `result`. -/
  completion : SynchronousResult τ κ := {}
  /-- `hasAcceptedConnection`, or `isConnecting`. -/
  isConnecting : Bool := false
  connections : κ → Candidate := fun _ => {}

/-- A callback, or a step of `result`. -/
inductive DiscoveryEvent (τ κ ι : Type) where
  /-- The `stateUpdateHandler` of the listener or browser. -/
  | monitorState (state : NWState) (call : τ)
  /-- The `newConnectionHandler` or the `browseResultsChangedHandler`. -/
  | arrived (arrival : ι)
  /-- The `stateUpdateHandler` of a connection that has been started. -/
  | candidateState (candidate : κ) (state : NWState) (call : τ)
  | completion (e : ResultEvent τ κ)

namespace Discovery

variable {τ κ ι : Type} [DecidableEq τ] [DecidableEq κ]

/-- A candidate is changed. -/
def modify (candidate : κ) (f : Candidate → Candidate) (s : Discovery τ κ) : Discovery τ κ :=
  { s with connections := Function.update s.connections candidate (f (s.connections candidate)) }

/-- A connection is made. -/
def create (candidate : κ) : Discovery τ κ → Discovery τ κ :=
  modify candidate fun c => { c with created := true }

/-- `start(queue:)`. -/
def start (candidate : κ) : Discovery τ κ → Discovery τ κ :=
  modify candidate fun c => { c with started := true }

/-- `cancel()`. -/
def cancel (candidate : κ) : Discovery τ κ → Discovery τ κ :=
  modify candidate fun c => { c with cancelled := true }

/-- The connection fails by itself. -/
def fail (candidate : κ) : Discovery τ κ → Discovery τ κ :=
  modify candidate fun c => { c with failed := true }

/-- `result.resolve(_:)` is called. -/
def resolve (call : τ) (newResult : Except BonjourTransportError κ) (s : Discovery τ κ) :
    Option (Discovery τ κ) :=
  (s.completion.step (.called call newResult)).map fun completion => { s with completion }

/-- `listener.stateUpdateHandler`, which is also `browser.stateUpdateHandler`. -/
def stateUpdateHandler (state : NWState) (call : τ) (s : Discovery τ κ) : Option (Discovery τ κ) :=
  match state with
  | .failed error => s.resolve call (.error (.connectionFailed error))
  | _ => some s

/-- `candidate.stateUpdateHandler`, which is also `connection.stateUpdateHandler`. -/
def candidateStateUpdateHandler (candidate : κ) (state : NWState) (call : τ) (s : Discovery τ κ) :
    Option (Discovery τ κ) :=
  match state with
  | .ready => s.resolve call (.ok candidate)
  | .failed error => (s.fail candidate).resolve call (.error (.connectionFailed error))
  | _ => some s

/-- `listener.newConnectionHandler`. -/
def newConnectionHandler (candidate : κ) (s : Discovery τ κ) : Discovery τ κ :=
  if s.isConnecting then
    (s.create candidate).cancel candidate
  else
    ({ s.create candidate with isConnecting := true }).start candidate

/-- The endpoint is the one that `browser.browseResultsChangedHandler` looks for. -/
def isSought (serviceName : Option String) (endpoint : NWEndpoint) : Bool :=
  match serviceName with
  | none => true
  | some serviceName =>
    match endpoint with
    | .service name => name == serviceName
    | .other => false

/-- `browser.browseResultsChangedHandler`, with the connection that `NWConnection(to:using:)` makes
where it is called. -/
def browseResultsChangedHandler (serviceName : Option String) (results : List NWEndpoint × κ)
    (s : Discovery τ κ) : Discovery τ κ :=
  match results.1.find? (isSought serviceName) with
  | none => s
  | some _ =>
    if s.isConnecting then
      s
    else
      (({ s with isConnecting := true }).create results.2).start results.2

/-- The transport that a lock section of `resolve` does not store goes away. -/
def discard (call : τ) (s : Discovery τ κ) : Discovery τ κ :=
  match s.completion.calls call, s.completion.result with
  | .locking (.ok candidate), some _ => s.cancel candidate
  | _, _ => s

/-- A step of `result` that is not the call of a handler. -/
def complete (e : ResultEvent τ κ) (s : Discovery τ κ) : Option (Discovery τ κ) :=
  match e with
  | .called _ _ => none
  | .locked call =>
    (s.completion.step (.locked call)).map fun completion => { s.discard call with completion }
  | e => (s.completion.step e).map fun completion => { s with completion }

/-- One step, for the handler `arrive` of arrivals, each with its connection. -/
def step (arrive : ι → Discovery τ κ → Discovery τ κ) (connection : ι → κ) (s : Discovery τ κ) :
    DiscoveryEvent τ κ ι → Option (Discovery τ κ)
  | .monitorState state call => s.stateUpdateHandler state call
  | .arrived arrival =>
    -- The listener offers a connection once, and the initialiser makes a new one.
    if (s.connections (connection arrival)).created then none else some (arrive arrival s)
  | .candidateState candidate state call =>
    if (s.connections candidate).started then
      s.candidateStateUpdateHandler candidate state call
    else none
  | .completion e => s.complete e

/-- `acceptOne(timeout:serviceName:status:)`. -/
def acceptOne : Discovery τ κ → DiscoveryEvent τ κ κ → Option (Discovery τ κ) :=
  step newConnectionHandler id

/-- `connect(timeout:serviceName:status:)`. -/
def connect (serviceName : Option String) :
    Discovery τ κ → DiscoveryEvent τ κ (List NWEndpoint × κ) → Option (Discovery τ κ) :=
  step (browseResultsChangedHandler serviceName) Prod.snd

/-- The call has ended, and a connection that is not the returned one is open. -/
def Leaks (s : Discovery τ κ) : Prop :=
  s.completion.ended = true ∧ ∃ c, (s.connections c).created = true ∧
    s.completion.returned ≠ some c ∧
    (s.connections c).cancelled = false ∧ (s.connections c).failed = false

end Discovery

/-! ### What the events say -/

namespace DiscoveryEvent

variable {τ κ ι : Type}

/-- The step of `result` that an event takes. -/
def result? : DiscoveryEvent τ κ ι → Option (ResultEvent τ κ)
  | monitorState (.failed error) call => some (.called call (.error (.connectionFailed error)))
  | candidateState candidate .ready call => some (.called call (.ok candidate))
  | candidateState _ (.failed error) call => some (.called call (.error (.connectionFailed error)))
  | completion (.called _ _) => none
  | completion e => some e
  | _ => none

/-- The steps of `result`. -/
def results (es : List (DiscoveryEvent τ κ ι)) : List (ResultEvent τ κ) :=
  es.filterMap result?

/-- The connection that an arrival is about, where it is about one. -/
def arrival? (starts : ι → Option κ) : DiscoveryEvent τ κ ι → Option κ
  | arrived arrival => starts arrival
  | _ => none

/-- The connection of the first arrival. -/
def firstArrival (starts : ι → Option κ) (es : List (DiscoveryEvent τ κ ι)) : Option κ :=
  es.findSome? (arrival? starts)

/-- A connection has reported that it failed. -/
def HasFailed (es : List (DiscoveryEvent τ κ ι)) (c : κ) : Prop :=
  ∃ error call, candidateState c (.failed error) call ∈ es

/-- The wait has timed out, or has read the value. -/
def HasEnded (es : List (DiscoveryEvent τ κ ι)) : Prop :=
  completion .timedOut ∈ es ∨ completion .read ∈ es

variable [DecidableEq τ]

/-- After the events `es`, the step is the lock section of a call that resolves with the connection,
and another has stored its value. -/
def ResolvesLate (c : κ) (es : List (DiscoveryEvent τ κ ι)) : DiscoveryEvent τ κ ι → Prop
  | completion (.locked call) =>
    (results es).findSome? (ResultEvent.newResult? call) = some (.ok c) ∧
      ResultEvent.firstResolved (results es) ≠ none
  | _ => False

/-- A call has resolved with the connection after another. -/
def HasResolvedLate (es : List (DiscoveryEvent τ κ ι)) (c : κ) : Prop :=
  ∃ pre e post, es = pre ++ e :: post ∧ ResolvesLate c pre e

/-- After the events `es`, the step leaves no connection open. Where the wait times out, the
connection of the first arrival has failed before, or has resolved after another call; where the
wait reads the value, this holds too, or the value is that connection; and no connection is the
first to arrive after the end. -/
def Settles (starts : ι → Option κ) (es : List (DiscoveryEvent τ κ ι)) :
    DiscoveryEvent τ κ ι → Prop
  | completion .timedOut =>
    ∀ c, firstArrival starts es = some c → HasFailed es c ∨ HasResolvedLate es c
  | completion .read =>
    ∀ c, firstArrival starts es = some c → HasFailed es c ∨ HasResolvedLate es c ∨
      ResultEvent.firstResolved (results es) = some (.ok c)
  | arrived arrival =>
    HasEnded es → firstArrival starts es = none → starts arrival = none
  | _ => True

omit [DecidableEq τ] in
/-- A candidate fails with one more event. -/
theorem hasFailed_concat {es : List (DiscoveryEvent τ κ ι)} {e : DiscoveryEvent τ κ ι} {c : κ} :
    HasFailed (es ++ [e]) c ↔
      HasFailed es c ∨ ∃ error call, e = candidateState c (.failed error) call := by
  simp only [HasFailed, List.mem_append, List.mem_singleton, exists_or, @eq_comm _ e]

/-- A candidate resolves late with one more event. -/
theorem hasResolvedLate_concat {es : List (DiscoveryEvent τ κ ι)} {e : DiscoveryEvent τ κ ι}
    {c : κ} : HasResolvedLate (es ++ [e]) c ↔ HasResolvedLate es c ∨ ResolvesLate c es e :=
  Automaton.exists_split_concat

omit [DecidableEq τ] in
/-- The first arrival stays the first one. -/
theorem firstArrival_concat (starts : ι → Option κ) (es : List (DiscoveryEvent τ κ ι))
    (e : DiscoveryEvent τ κ ι) :
    firstArrival starts (es ++ [e]) = (firstArrival starts es).or (arrival? starts e) := by
  unfold firstArrival
  rw [List.findSome?_append, List.findSome?_singleton]

omit [DecidableEq τ] in
/-- What one more event does to the result. -/
theorem results_concat (es : List (DiscoveryEvent τ κ ι)) (e : DiscoveryEvent τ κ ι) :
    results (es ++ [e]) = results es ++ (result? e).toList := by
  unfold results
  rw [List.filterMap_append]
  cases he : result? e with
  | none => rw [List.filterMap_cons_none he, List.filterMap_nil, Option.toList_none]
  | some e' => rw [List.filterMap_cons_some he, List.filterMap_nil, Option.toList_some]

/-- A call that resolves with a connection is made where the connection is ready. -/
theorem mem_of_newResult {es : List (DiscoveryEvent τ κ ι)} {call : τ} {c : κ}
    (h : (results es).findSome? (ResultEvent.newResult? call) = some (.ok c)) :
    candidateState c .ready call ∈ es := by
  obtain ⟨e', he', hnew⟩ := List.exists_of_findSome?_eq_some h
  obtain ⟨e, he, hresult⟩ := List.mem_filterMap.mp he'
  unfold ResultEvent.newResult? at hnew
  split at hnew
  case h_2 => contradiction
  case h_1 call' newResult =>
    rw [Option.ite_none_right_eq_some] at hnew
    obtain ⟨rfl, hnew⟩ := hnew
    obtain rfl := Option.some.inj hnew
    -- the handler of the ready connection is the only one that resolves with a value
    unfold result? at hresult
    split at hresult <;> cases hresult
    case h_2 => exact he
    case h_5 hcalled => exact absurd rfl (hcalled call' (.ok c))

/-- A candidate that resolves late has become ready. -/
theorem ready_of_resolvesLate {es : List (DiscoveryEvent τ κ ι)} {c : κ}
    (h : HasResolvedLate es c) : ∃ call, candidateState c .ready call ∈ es := by
  obtain ⟨pre, e, post, rfl, hlate⟩ := h
  unfold ResolvesLate at hlate
  split at hlate
  case h_1 call =>
    exact ⟨call, List.mem_append_left _ (mem_of_newResult hlate.1)⟩
  case h_2 => contradiction

end DiscoveryEvent

/-! ### What becomes of a connection -/

namespace Discovery

open DiscoveryEvent

variable {τ κ ι : Type} [DecidableEq τ]

/-- What the events say of one connection. -/
structure Tracks (starts : ι → Option κ) (es : List (DiscoveryEvent τ κ ι)) (c : κ)
    (x : Candidate) : Prop where
  started : x.started = true ↔ firstArrival starts es = some c
  created : x.started = true ∨ x.failed = true ∨ x.cancelled = true → x.created = true
  rejected : x.created = true → x.started = true ∨ x.cancelled = true
  failed : x.failed = true ↔ HasFailed es c
  cancelled : x.started = true → (x.cancelled = true ↔ HasResolvedLate es c)
  ready : ∀ call, candidateState c .ready call ∈ es → x.started = true

namespace Tracks

variable {starts : ι → Option κ} {es : List (DiscoveryEvent τ κ ι)} {c : κ} {x : Candidate}

/-- A connection that has been made by nobody has done nothing. -/
theorem fresh (h : Tracks starts es c x) (hx : x.created = false) :
    x.started = false ∧ x.failed = false ∧ x.cancelled = false := by
  have hnone : ¬ (x.started = true ∨ x.failed = true ∨ x.cancelled = true) :=
    fun hany => Bool.false_ne_true (hx.symm.trans (h.created hany))
  simpa only [not_or, Bool.not_eq_true] using hnone

end Tracks

/-- The event moves no connection. -/
structure Still (starts : ι → Option κ) (es : List (DiscoveryEvent τ κ ι)) (c : κ) (x : Candidate)
    (e : DiscoveryEvent τ κ ι) : Prop where
  arrival : firstArrival starts es = none → arrival? starts e ≠ some c
  failed : ∀ error call, e ≠ candidateState c (.failed error) call
  late : ¬ ResolvesLate c es e
  ready : ∀ call, e = candidateState c .ready call → x.started = true

namespace Tracks

variable {starts : ι → Option κ} {es : List (DiscoveryEvent τ κ ι)} {c : κ} {x : Candidate}
  {e : DiscoveryEvent τ κ ι}

/-- A candidate that an event does not concern. -/
theorem still (h : Tracks starts es c x) (he : Still starts es c x e) :
    Tracks starts (es ++ [e]) c x := by
  constructor
  case started =>
    rw [h.started, firstArrival_concat]
    cases hfirst : firstArrival starts es with
    | none =>
      rw [Option.none_or]
      exact ⟨nofun, fun hc => absurd hc (he.arrival hfirst)⟩
    | some d => rw [Option.some_or]
  case created => exact h.created
  case rejected => exact h.rejected
  case failed =>
    rw [h.failed, hasFailed_concat]
    refine ⟨.inl, fun hfailed => hfailed.resolve_right ?_⟩
    rintro ⟨error, call, heq⟩
    exact he.failed error call heq
  case cancelled =>
    intro hstarted
    rw [h.cancelled hstarted, hasResolvedLate_concat]
    exact ⟨.inl, fun hlate => hlate.resolve_right he.late⟩
  case ready =>
    intro call hmem
    rcases List.mem_append.mp hmem with hmem | hmem
    · exact h.ready call hmem
    · exact he.ready call (List.mem_singleton.mp hmem).symm

/-- A started connection fails. -/
theorem fail (h : Tracks starts es c x) (hx : x.started = true) (error : String) (call : τ) :
    Tracks starts (es ++ [.candidateState c (.failed error) call]) c { x with failed := true } := by
  constructor
  case started =>
    rw [firstArrival_concat, show arrival? starts (.candidateState c (.failed error) call) = none
      from rfl, Option.or_none]
    exact h.started
  case created => exact fun _ => h.created (.inl hx)
  case rejected => exact h.rejected
  case failed => exact ⟨fun _ => hasFailed_concat.mpr (.inr ⟨error, call, rfl⟩), fun _ => rfl⟩
  case cancelled =>
    intro hstarted
    rw [h.cancelled hstarted, hasResolvedLate_concat]
    exact ⟨.inl, fun hlate => hlate.resolve_right id⟩
  case ready => exact fun _ _ => hx

/-- The transport over a connection that a late call does not store cancels it. -/
theorem cancel (h : Tracks starts es c x) {call : τ}
    (hlate : ResolvesLate c es (.completion (.locked call))) :
    Tracks starts (es ++ [.completion (.locked call)]) c { x with cancelled := true } := by
  have hx : x.started = true := h.ready call (mem_of_newResult hlate.1)
  constructor
  case started =>
    rw [firstArrival_concat, show arrival? starts (.completion (.locked call)) = none from rfl,
      Option.or_none]
    exact h.started
  case created => exact fun _ => h.created (.inl hx)
  case rejected => exact fun _ => .inl hx
  case failed =>
    rw [h.failed, hasFailed_concat]
    refine ⟨.inl, fun hfailed => hfailed.resolve_right ?_⟩
    rintro ⟨error, call', heq⟩
    exact nomatch heq
  case cancelled => exact fun _ => ⟨fun _ => hasResolvedLate_concat.mpr (.inr hlate), fun _ => rfl⟩
  case ready => exact fun _ _ => hx

/-- The connection of the first arrival is started. -/
theorem first (h : Tracks starts es c x) (hx : x.created = false) {arrival : ι}
    (harrival : starts arrival = some c) (hfirst : firstArrival starts es = none) :
    Tracks starts (es ++ [.arrived arrival]) c { x with created := true, started := true } := by
  obtain ⟨hstarted, hfailed, hcancelled⟩ := h.fresh hx
  constructor
  case started =>
    rw [firstArrival_concat, hfirst, Option.none_or]
    exact ⟨fun _ => harrival, fun _ => rfl⟩
  case created => exact fun _ => rfl
  case rejected => exact fun _ => .inl rfl
  case failed =>
    rw [h.failed, hasFailed_concat]
    refine ⟨.inl, fun hany => hany.resolve_right ?_⟩
    rintro ⟨error, call, heq⟩
    exact nomatch heq
  case cancelled =>
    intro _
    rw [hasResolvedLate_concat]
    show x.cancelled = true ↔ _
    rw [hcancelled]
    refine ⟨nofun, fun hlate => ?_⟩
    -- Nothing has been resolved with a connection that is new.
    obtain ⟨call, hready⟩ := ready_of_resolvesLate (hlate.resolve_right id)
    exact absurd (h.ready call hready) (hstarted ▸ Bool.false_ne_true)
  case ready => exact fun _ _ => rfl

/-- The connection of a later arrival is cancelled. -/
theorem reject (h : Tracks starts es c x) (hx : x.created = false) (arrival : ι) {d : κ}
    (hfirst : firstArrival starts es = some d) :
    Tracks starts (es ++ [.arrived arrival]) c { x with created := true, cancelled := true } := by
  obtain ⟨hstarted, -, -⟩ := h.fresh hx
  constructor
  case started =>
    rw [firstArrival_concat, hfirst, Option.some_or, ← hfirst]
    exact h.started
  case created => exact fun _ => rfl
  case rejected => exact fun _ => .inr rfl
  case failed =>
    rw [h.failed, hasFailed_concat]
    refine ⟨.inl, fun hany => hany.resolve_right ?_⟩
    rintro ⟨error, call, heq⟩
    exact nomatch heq
  case cancelled => exact fun hs => absurd (hstarted.symm.trans hs) Bool.false_ne_true
  case ready =>
    intro call hmem
    rcases List.mem_append.mp hmem with hmem | hmem
    · exact h.ready call hmem
    · exact nomatch List.mem_singleton.mp hmem

end Tracks

/-! ### Every run -/

variable [DecidableEq κ]

omit [DecidableEq τ] in
/-- After a modification of one connection something holds of each of them, if it holds of what
the modification makes of this one, and held of the others. -/
theorem forall_modify {P : κ → Candidate → Prop} {candidate : κ} {f : Candidate → Candidate}
    {s : Discovery τ κ} (hself : P candidate (f (s.connections candidate)))
    (hkept : ∀ c, c ≠ candidate → P c (s.connections c)) (c : κ) :
    P c ((s.modify candidate f).connections c) := by
  by_cases heq : c = candidate
  · subst heq
    have hupdate : (s.modify c f).connections c = f (s.connections c) := Function.update_self _ _ _
    rw [hupdate]
    exact hself
  · have hupdate : (s.modify candidate f).connections c = s.connections c :=
      Function.update_of_ne heq _ _
    rw [hupdate]
    exact hkept c heq

/-- What a handler of arrivals does: it takes the connection of the first one, and a later one moves
nothing, or is cancelled. -/
structure Arrives (arrive : ι → Discovery τ κ → Discovery τ κ) (connection : ι → κ)
    (starts : ι → Option κ) : Prop where
  connection : ∀ a c, starts a = some c → connection a = c
  ignored : ∀ a s, starts a = none → arrive a s = s
  first : ∀ a s c, starts a = some c → s.isConnecting = false → arrive a s =
    { s with isConnecting := true }.modify c fun x => { x with created := true, started := true }
  later : ∀ a s c, starts a = some c → s.isConnecting = true → arrive a s = s ∨
    arrive a s = s.modify c fun x => { x with created := true, cancelled := true }

/-- What the events say of the call. -/
structure Tracked (starts : ι → Option κ) (es : List (DiscoveryEvent τ κ ι)) (s : Discovery τ κ) :
    Prop where
  run : exec SynchronousResult.step {} (results es) = some s.completion
  isConnecting : s.isConnecting = (firstArrival starts es).isSome
  connections : ∀ c, Tracks starts es c (s.connections c)

omit [DecidableEq κ] in
/-- A step of `result` lengthens its run. -/
theorem run_concat {es : List (DiscoveryEvent τ κ ι)} {e : DiscoveryEvent τ κ ι}
    {completion completion' : SynchronousResult τ κ} {e' : ResultEvent τ κ}
    (h : exec SynchronousResult.step {} (results es) = some completion) (he : result? e = some e')
    (hstep : completion.step e' = some completion') :
    exec SynchronousResult.step {} (results (es ++ [e])) = some completion' := by
  rw [results_concat, he]
  exact exec_concat_eq_some.mpr ⟨completion, h, hstep⟩

omit [DecidableEq κ] in
/-- An event that does not concern the result. -/
theorem run_still {es : List (DiscoveryEvent τ κ ι)} {e : DiscoveryEvent τ κ ι}
    {completion : SynchronousResult τ κ}
    (h : exec SynchronousResult.step {} (results es) = some completion) (he : result? e = none) :
    exec SynchronousResult.step {} (results (es ++ [e])) = some completion := by
  rw [results_concat, he, Option.toList_none, List.append_nil]
  exact h

namespace Tracked

variable {starts : ι → Option κ} {es : List (DiscoveryEvent τ κ ι)} {s t : Discovery τ κ}

omit [DecidableEq κ] in
/-- An event that is no arrival leaves the flag. -/
theorem isConnecting_concat (h : Tracked starts es s) {e : DiscoveryEvent τ κ ι}
    (he : arrival? starts e = none) :
    s.isConnecting = (firstArrival starts (es ++ [e])).isSome := by
  rw [firstArrival_concat, he, Option.or_none]
  exact h.isConnecting

omit [DecidableEq κ] in
/-- An event that neither is an arrival nor moves a connection. -/
theorem still (h : Tracked starts es s) {e : DiscoveryEvent τ κ ι}
    (hrun : exec SynchronousResult.step {} (results (es ++ [e])) = some t.completion)
    (harrival : arrival? starts e = none) (hflag : t.isConnecting = s.isConnecting)
    (hconnections : t.connections = s.connections)
    (he : ∀ c, Still starts es c (s.connections c) e) : Tracked starts (es ++ [e]) t := by
  refine ⟨hrun, hflag.trans (h.isConnecting_concat harrival), fun c => ?_⟩
  rw [hconnections]
  exact (h.connections c).still (he c)

omit [DecidableEq κ] in
/-- A call of `resolve`. -/
theorem resolve (h : Tracked starts es s) {e : DiscoveryEvent τ κ ι} {call : τ}
    {newResult : Except BonjourTransportError κ} (he : s.resolve call newResult = some t)
    (hresult : result? e = some (.called call newResult)) (harrival : arrival? starts e = none)
    (hstill : ∀ c, Still starts es c (s.connections c) e) : Tracked starts (es ++ [e]) t := by
  obtain ⟨completion, hstep, rfl⟩ := Option.map_eq_some_iff.mp he
  exact h.still (run_concat h.run hresult hstep) harrival rfl rfl hstill

omit [DecidableEq κ] in
/-- A change of the state of the listener or the browser. -/
theorem monitorState (h : Tracked starts es s) {state : NWState} {call : τ}
    (he : s.stateUpdateHandler state call = some t) :
    Tracked starts (es ++ [.monitorState state call]) t := by
  have hstill : ∀ c, Still starts es c (s.connections c) (.monitorState state call) :=
    fun c => ⟨fun _ => nofun, fun _ _ => nofun, id, fun _ => nofun⟩
  unfold stateUpdateHandler at he
  split at he
  case h_1 error => exact h.resolve he rfl rfl hstill
  case h_2 hstate =>
    obtain rfl := Option.some.inj he
    refine h.still (run_still h.run ?_) rfl rfl rfl hstill
    cases state with
    | failed error => exact absurd rfl (hstate error)
    | _ => rfl

/-- A change of the state of a candidate. -/
theorem candidateState (h : Tracked starts es s) {candidate : κ} {state : NWState} {call : τ}
    (hstarted : (s.connections candidate).started = true)
    (he : s.candidateStateUpdateHandler candidate state call = some t) :
    Tracked starts (es ++ [.candidateState candidate state call]) t := by
  unfold candidateStateUpdateHandler at he
  split at he
  case h_1 =>
    -- ready: the call resolves with the connection, which no connection notices
    refine h.resolve he rfl rfl fun c => ⟨fun _ => nofun, fun _ _ => nofun, id, fun call' heq => ?_⟩
    obtain ⟨rfl, -, -⟩ := DiscoveryEvent.candidateState.inj heq
    exact hstarted
  case h_2 error =>
    -- failed: this connection fails, and the others stay as they are
    obtain ⟨completion, hstep, rfl⟩ := Option.map_eq_some_iff.mp he
    have hself := (h.connections candidate).fail hstarted error call
    refine ⟨run_concat h.run rfl hstep, h.isConnecting_concat rfl,
      forall_modify (P := Tracks starts _)
      (f := fun x => { x with failed := true }) hself fun c hne => ?_⟩
    refine (h.connections c).still ⟨fun _ => nofun, fun error' call' heq => ?_, id, fun _ => nofun⟩
    exact hne (DiscoveryEvent.candidateState.inj heq).1.symm
  case h_3 hready hfailed =>
    -- any other state is ignored
    obtain rfl := Option.some.inj he
    refine h.still (run_still h.run ?_) rfl rfl rfl fun c =>
      ⟨fun _ => nofun, fun error call' heq => ?_, id, fun call' heq => ?_⟩
    · cases state with
      | ready => exact absurd rfl hready
      | failed error => exact absurd rfl (hfailed error)
      | _ => rfl
    · exact hfailed error (DiscoveryEvent.candidateState.inj heq).2.1
    · exact absurd (DiscoveryEvent.candidateState.inj heq).2.1 hready

/-- A lock section cancels the connection of a transport that it does not store. -/
theorem locked (h : Tracked starts es s) {call : τ} {completion : SynchronousResult τ κ}
    (hstep : s.completion.step (.locked call) = some completion) :
    Tracked starts (es ++ [.completion (.locked call)]) { s.discard call with completion } := by
  have hrun := run_concat (e := .completion (.locked call)) h.run rfl hstep
  obtain ⟨hstores, -⟩ := SynchronousResult.of_exec h.run
  obtain ⟨newResult, hlocking, -⟩ := SynchronousResult.of_locked hstep
  have hmade : (results es).findSome? (ResultEvent.newResult? call) = some newResult :=
    hstores.locking call newResult hlocking
  -- Only the connection of a value that comes too late is moved.
  have hstill : ∀ c, ¬ (newResult = .ok c ∧ s.completion.result ≠ none) →
      Still starts es c (s.connections c) (.completion (.locked call)) := by
    intro c hlate
    refine ⟨fun _ => nofun, fun _ _ => nofun, fun hresolves => hlate ⟨?_, ?_⟩, fun _ => nofun⟩
    · exact Option.some.inj (hmade.symm.trans hresolves.1)
    · exact hstores.stored ▸ hresolves.2
  unfold discard
  split
  case h_1 candidate r hcall hresult =>
    obtain rfl := ResolveCall.locking.inj (hlocking.symm.trans hcall)
    have hlate : ResultEvent.firstResolved (results es) ≠ none := by
      rw [← hstores.stored, hresult]
      exact Option.some_ne_none r
    have hself := (h.connections candidate).cancel ⟨hmade, hlate⟩
    refine ⟨hrun, h.isConnecting_concat rfl, forall_modify (P := Tracks starts _)
      (f := fun x => { x with cancelled := true }) hself fun c hne => (h.connections c).still ?_⟩
    exact hstill c fun hstore => hne (Except.ok.inj hstore.1).symm
  case h_2 hkept =>
    refine h.still hrun rfl rfl rfl fun c => hstill c ?_
    rintro ⟨rfl, hresult⟩
    obtain ⟨r, hr⟩ := Option.ne_none_iff_exists'.mp hresult
    exact hkept c r hlocking hr

/-- A step of the result. -/
theorem complete (h : Tracked starts es s) {e : ResultEvent τ κ} (he : s.complete e = some t) :
    Tracked starts (es ++ [.completion e]) t := by
  have hstill : (∀ call, e ≠ .locked call) → ∀ c,
      Still starts es c (s.connections c) (.completion e) := by
    intro hlocked c
    refine ⟨fun _ => nofun, fun _ _ => nofun, fun hresolves => ?_, fun _ => nofun⟩
    unfold ResolvesLate at hresolves
    split at hresolves
    case h_1 call heq => exact hlocked call (DiscoveryEvent.completion.inj heq)
    case h_2 => exact hresolves
  unfold Discovery.complete at he
  split at he
  case h_1 => contradiction
  case h_2 call =>
    obtain ⟨completion, hstep, rfl⟩ := Option.map_eq_some_iff.mp he
    exact h.locked hstep
  case h_3 hcalled hlocked =>
    obtain ⟨completion, hstep, rfl⟩ := Option.map_eq_some_iff.mp he
    refine h.still (run_concat h.run ?_ hstep) rfl rfl rfl (hstill hlocked)
    cases e with
    | called call newResult => exact absurd rfl (hcalled call newResult)
    | _ => rfl

variable {arrive : ι → Discovery τ κ → Discovery τ κ} {connection : ι → κ}

/-- A candidate arrives. -/
theorem arrived (h : Tracked starts es s) (harrive : Arrives arrive connection starts) {arrival : ι}
    (hnew : (s.connections (connection arrival)).created = false) :
    Tracked starts (es ++ [.arrived arrival]) (arrive arrival s) := by
  have hstill : ∀ c, (firstArrival starts es = none → starts arrival ≠ some c) →
      Still starts es c (s.connections c) (.arrived arrival) :=
    fun c harrival => ⟨harrival, fun _ _ => nofun, id, fun _ => nofun⟩
  have hrun := run_still (e := .arrived arrival) h.run rfl
  cases hstarts : starts arrival with
  | none =>
    have hnone : arrival? starts (.arrived arrival : DiscoveryEvent τ κ ι) = none := hstarts
    rw [harrive.ignored arrival s hstarts]
    exact h.still hrun hnone rfl rfl fun c => hstill c fun _ => hstarts ▸ nofun
  | some d =>
    obtain rfl := harrive.connection arrival d hstarts
    have hconnecting := h.isConnecting
    have hconcat := firstArrival_concat starts es (.arrived arrival)
    cases hfirst : firstArrival starts es with
    | none =>
      rw [hfirst, Option.isSome_none] at hconnecting
      rw [hfirst, Option.none_or, show arrival? starts (.arrived arrival : DiscoveryEvent τ κ ι) =
        some (connection arrival) from hstarts] at hconcat
      rw [harrive.first arrival s _ hstarts hconnecting]
      -- The connection of the first arrival is created and started.
      refine ⟨hrun, hconcat ▸ rfl, forall_modify (P := Tracks starts _)
        ((h.connections _).first hnew hstarts hfirst) fun c hne => (h.connections c).still ?_⟩
      exact hstill c fun _ hc => hne (Option.some.inj (hstarts.symm.trans hc)).symm
    | some d =>
      rw [hfirst, Option.isSome_some] at hconnecting
      rw [hfirst, Option.some_or] at hconcat
      have hflag : s.isConnecting = (firstArrival starts (es ++ [.arrived arrival])).isSome :=
        hconnecting.trans (hconcat ▸ rfl)
      have hsome : ∀ c, Still starts es c (s.connections c) (.arrived arrival) :=
        fun c => hstill c fun hnone => absurd (hfirst.symm.trans hnone) nofun
      rcases harrive.later arrival s _ hstarts hconnecting with hignored | hrejected
      · rw [hignored]
        exact ⟨hrun, hflag, fun c => (h.connections c).still (hsome c)⟩
      · rw [hrejected]
        exact ⟨hrun, hflag, forall_modify (P := Tracks starts _)
          ((h.connections _).reject hnew arrival hfirst)
          fun c _ => (h.connections c).still (hsome c)⟩

/-- The step lemma. -/
theorem step (h : Tracked starts es s) (harrive : Arrives arrive connection starts)
    {e : DiscoveryEvent τ κ ι} (he : Discovery.step arrive connection s e = some t) :
    Tracked starts (es ++ [e]) t := by
  cases e with
  | monitorState state call => exact h.monitorState he
  | arrived arrival =>
    obtain ⟨hnew, ht⟩ := Option.ite_none_left_eq_some.mp he
    obtain rfl := Option.some.inj ht
    exact h.arrived harrive (Bool.eq_false_iff.mpr hnew)
  | candidateState candidate state call =>
    obtain ⟨hstarted, ht⟩ := Option.ite_none_right_eq_some.mp he
    exact h.candidateState hstarted ht
  | completion e => exact h.complete he

/-- The events say it of the call along every run. -/
theorem of_exec (harrive : Arrives arrive connection starts)
    (h : exec (Discovery.step arrive connection) {} es = some s) : Tracked starts es s := by
  refine exec_invariant (I := Tracked starts) ?_ (fun es s e t hs he => hs.step harrive he) h
  refine ⟨rfl, rfl, fun c => ?_⟩
  constructor
  case started => exact ⟨nofun, nofun⟩
  case created => exact fun h => absurd h (by simp)
  case rejected => exact nofun
  case failed => exact ⟨nofun, fun ⟨_, _, hmem⟩ => nomatch hmem⟩
  case cancelled => exact nofun
  case ready => exact fun _ hmem => nomatch hmem

end Tracked

/-! ### Leaks -/

namespace Tracked

variable {starts : ι → Option κ} {es : List (DiscoveryEvent τ κ ι)} {s t : Discovery τ κ}

omit [DecidableEq κ] in
/-- Discovery has ended where its result has been taken or its wait has timed out. -/
theorem ended_iff (h : Tracked starts es s) : s.completion.ended = true ↔ HasEnded es := by
  have hmem : ∀ e : ResultEvent τ κ, e = .timedOut ∨ e = .read →
      (e ∈ results es ↔ .completion e ∈ es) := by
    intro e he
    constructor
    · intro hresult
      obtain ⟨e', he', heq⟩ := List.mem_filterMap.mp hresult
      unfold result? at heq
      split at heq <;> cases heq <;> try exact he'
      all_goals exact absurd he (by simp)
    · intro hcompletion
      refine List.mem_filterMap.mpr ⟨_, hcompletion, ?_⟩
      rcases he with rfl | rfl <;> rfl
  rw [SynchronousResult.ended_iff_mem h.run, hmem _ (.inl rfl), hmem _ (.inr rfl)]
  rfl

omit [DecidableEq κ] in
/-- A value that is stored is a connection of the first arrival. -/
theorem started_of_resolved (h : Tracked starts es s) {c : κ}
    (hresolved : ResultEvent.firstResolved (results es) = some (.ok c)) :
    firstArrival starts es = some c := by
  obtain ⟨call, -, hmade⟩ := Option.bind_eq_some_iff.mp hresolved
  exact (h.connections c).started.mp ((h.connections c).ready call (mem_of_newResult hmade))

omit [DecidableEq κ] in
/-- What is returned was the first result. -/
theorem resolved_of_returned (h : Tracked starts es s) {c : κ}
    (hreturned : s.completion.returned = some c) :
    ResultEvent.firstResolved (results es) = some (.ok c) := by
  obtain ⟨hstores, honeShot⟩ := SynchronousResult.of_exec h.run
  rw [← hstores.stored]
  exact honeShot.returned _ (SynchronousResult.returned_eq_some.mp hreturned)

omit [DecidableEq κ] in
/-- The connection that leaks is that of the first arrival. -/
theorem leaks_iff (h : Tracked starts es s) :
    s.Leaks ↔ HasEnded es ∧ ∃ c, firstArrival starts es = some c ∧
      s.completion.returned ≠ some c ∧ ¬ HasResolvedLate es c ∧ ¬ HasFailed es c := by
  unfold Leaks
  rw [h.ended_iff]
  refine and_congr_right fun _ => exists_congr fun c => ?_
  have hc := h.connections c
  rw [← hc.started, ← hc.failed, Bool.not_eq_true]
  constructor
  · rintro ⟨hcreated, hreturned, hcancelled, hfailed⟩
    -- what was made and not cancelled was started
    have hstarted : (s.connections c).started = true :=
      (hc.rejected hcreated).resolve_right (hcancelled ▸ Bool.false_ne_true)
    refine ⟨hstarted, hreturned, fun hlate => ?_, hfailed⟩
    exact Bool.false_ne_true (hcancelled.symm.trans ((hc.cancelled hstarted).mpr hlate))
  · rintro ⟨hstarted, hreturned, hlate, hfailed⟩
    refine ⟨hc.created (.inl hstarted), hreturned, Bool.eq_false_iff.mpr fun hcancelled => ?_,
      hfailed⟩
    exact hlate ((hc.cancelled hstarted).mp hcancelled)

omit [DecidableEq κ] in
/-- Only a read returns something. -/
theorem returned_of_concat (h : Tracked starts es s) {e : DiscoveryEvent τ κ ι}
    (ht : Tracked starts (es ++ [e]) t) (he : e ≠ .completion .read) :
    t.completion.returned = s.completion.returned := by
  have hrun := ht.run
  rw [results_concat] at hrun
  cases hresult : result? e with
  | none =>
    rw [hresult, Option.toList_none, List.append_nil, h.run, Option.some.injEq] at hrun
    rw [hrun]
  | some e' =>
    rw [hresult, Option.toList_some] at hrun
    obtain ⟨completion, hcompletion, hstep⟩ := exec_concat_eq_some.mp hrun
    obtain rfl := Option.some.inj (h.run.symm.trans hcompletion)
    apply SynchronousResult.returned_of_step hstep
    rintro rfl
    unfold result? at hresult
    split at hresult <;> cases hresult
    exact he rfl

omit [DecidableEq κ] in
/-- Where the waiter reads the value, it returns what the first call has resolved with. -/
theorem returned_of_read (h : Tracked starts es s)
    (ht : Tracked starts (es ++ [.completion .read]) t) (c : κ) :
    t.completion.returned = some c ↔
      ResultEvent.firstResolved (results es) = some (.ok c) := by
  have hrun := ht.run
  rw [results_concat, show result? (.completion .read : DiscoveryEvent τ κ ι) = some .read from rfl,
    Option.toList_some] at hrun
  obtain ⟨completion, hcompletion, hstep⟩ := exec_concat_eq_some.mp hrun
  obtain rfl := Option.some.inj (h.run.symm.trans hcompletion)
  have huntrapped := (SynchronousResult.of_exec ht.run).2.untrapped
  obtain ⟨-, ⟨r, hr, hread⟩ | ⟨-, htrapped⟩⟩ := SynchronousResult.of_read hstep
  · rw [SynchronousResult.returned_eq_some, ← (SynchronousResult.of_exec h.run).1.stored, hr, hread,
      WaitPhase.returned.injEq, Option.some.injEq]
  · exact absurd (congrArg SynchronousResult.waiter htrapped) huntrapped

omit [DecidableEq κ] in
/-- An event that is no arrival and does not end the call makes no connection leak. -/
theorem leaks_of_quiet (h : Tracked starts es s) {e : DiscoveryEvent τ κ ι}
    (ht : Tracked starts (es ++ [e]) t) (harrival : arrival? starts e = none)
    (htimedOut : e ≠ .completion .timedOut) (hread : e ≠ .completion .read) (hleaks : t.Leaks) :
    s.Leaks := by
  rw [ht.leaks_iff, h.returned_of_concat ht hread, firstArrival_concat, harrival, Option.or_none]
    at hleaks
  obtain ⟨hended, c, hfirst, hreturned, hlate, hfailed⟩ := hleaks
  refine h.leaks_iff.mpr ⟨?_, c, hfirst, hreturned, fun hlate' => ?_, fun hfailed' => ?_⟩
  · simpa only [HasEnded, List.mem_append, List.mem_singleton, htimedOut.symm, hread.symm, or_false]
      using hended
  · exact hlate (hasResolvedLate_concat.mpr (.inl hlate'))
  · exact hfailed (hasFailed_concat.mpr (.inl hfailed'))

omit [DecidableEq κ] in
/-- What does not leak where the call ends is the returned connection, and what has failed or has
been cancelled. -/
theorem leaks_of_ending {e : DiscoveryEvent τ κ ι} (ht : Tracked starts (es ++ [e]) t)
    (he : e = .completion .timedOut ∨ e = .completion .read) :
    ¬ t.Leaks ↔ ∀ c, firstArrival starts es = some c →
      HasFailed es c ∨ HasResolvedLate es c ∨ t.completion.returned = some c := by
  have hmem : e ∈ es ++ [e] := List.mem_append_right es (List.mem_singleton_self e)
  have hended : HasEnded (es ++ [e]) := by
    rcases he with rfl | rfl
    · exact .inl hmem
    · exact .inr hmem
  have harrival : arrival? starts e = none := by rcases he with rfl | rfl <;> rfl
  have hlate : ∀ c, ¬ ResolvesLate c es e := by rcases he with rfl | rfl <;> exact fun _ => id
  have hfails : ∀ c error call, e ≠ .candidateState c (.failed error) call := by
    rcases he with rfl | rfl <;> exact fun _ _ _ => nofun
  -- the end itself neither fails nor cancels a connection, so what was open is
  rw [ht.leaks_iff, firstArrival_concat, harrival, Option.or_none]
  simp only [hasResolvedLate_concat, hasFailed_concat, hended, hlate, hfails, exists_const,
    or_false,
    true_and, not_exists, not_and, not_not]
  refine forall_congr' fun c => forall_congr' fun _ => ?_
  tauto

omit [DecidableEq κ] in
/-- An arrival makes a connection leak where it is the first one and comes after the end. -/
theorem leaks_of_arrived (h : Tracked starts es s) {arrival : ι}
    (ht : Tracked starts (es ++ [.arrived arrival]) t)
    (hnew : ∀ c, starts arrival = some c → (s.connections c).created = false)
    (hleaks : ¬ s.Leaks) : ¬ t.Leaks ↔ Settles starts es (.arrived arrival) := by
  have hended : HasEnded (es ++ [.arrived arrival]) ↔ HasEnded es := by
    simp only [HasEnded, List.mem_append, List.mem_singleton, reduceCtorEq, or_false]
  have hreturned := h.returned_of_concat ht nofun
  have hfirst := firstArrival_concat starts es (.arrived arrival)
  rw [show arrival? starts (.arrived arrival : DiscoveryEvent τ κ ι) = starts arrival from rfl]
    at hfirst
  have hlate : ∀ c, HasResolvedLate (es ++ [.arrived arrival]) c ↔ HasResolvedLate es c :=
    fun c => hasResolvedLate_concat.trans (or_iff_left id)
  have hfailed : ∀ c, HasFailed (es ++ [.arrived arrival]) c ↔ HasFailed es c := by
    intro c
    refine hasFailed_concat.trans (or_iff_left ?_)
    rintro ⟨error, call, heq⟩
    exact nomatch heq
  -- beside the first arrival nothing that a leak depends on has changed
  rw [h.leaks_iff] at hleaks
  rw [ht.leaks_iff, hended, hreturned, hfirst]
  simp only [hlate, hfailed]
  cases hes : firstArrival starts es with
  | some d =>
    rw [hes] at hleaks
    -- there was a first arrival before
    exact ⟨fun _ _ hnone => absurd (hes.symm.trans hnone) nofun, fun _ => hleaks⟩
  | none =>
    rw [Option.none_or]
    constructor
    · intro hnot hends _
      by_contra hsome
      obtain ⟨c, hc⟩ := Option.ne_none_iff_exists'.mp hsome
      -- The connection is new: nothing has happened to it.
      have hcTracks := h.connections c
      obtain ⟨hstarted, hfailed', -⟩ := hcTracks.fresh (hnew c hc)
      refine hnot ⟨hends, c, hc, fun hret => ?_, fun hresolved => ?_, fun hhas => ?_⟩
      · have hstart := h.started_of_resolved (h.resolved_of_returned hret)
        exact absurd (hes.symm.trans hstart) nofun
      · obtain ⟨call, hready⟩ := ready_of_resolvesLate hresolved
        exact Bool.false_ne_true (hstarted.symm.trans (hcTracks.ready call hready))
      · exact Bool.false_ne_true (hfailed'.symm.trans (hcTracks.failed.mpr hhas))
    · rintro hsettles ⟨hends, c, hc, -⟩
      exact absurd ((hsettles hends hes).symm.trans hc) nofun

variable {arrive : ι → Discovery τ κ → Discovery τ κ} {connection : ι → κ}

/-- A step from a state in which nothing leaks makes something leak if and only if it does not
settle. -/
theorem leaks_of_step (h : Tracked starts es s) (harrive : Arrives arrive connection starts)
    {e : DiscoveryEvent τ κ ι} (he : Discovery.step arrive connection s e = some t)
    (hleaks : ¬ s.Leaks) : ¬ t.Leaks ↔ Settles starts es e := by
  have ht := h.step harrive he
  cases e with
  | monitorState state call =>
    exact iff_of_true (mt (h.leaks_of_quiet ht rfl nofun nofun) hleaks) trivial
  | arrived arrival =>
    obtain ⟨hnew, -⟩ := Option.ite_none_left_eq_some.mp he
    refine h.leaks_of_arrived ht (fun c hc => ?_) hleaks
    exact harrive.connection arrival c hc ▸ Bool.eq_false_iff.mpr hnew
  | candidateState candidate state call =>
    exact iff_of_true (mt (h.leaks_of_quiet ht rfl nofun nofun) hleaks) trivial
  | completion e =>
    by_cases htimedOut : e = .timedOut
    · subst htimedOut
      -- the timeout throws: it returns no connection
      obtain ⟨completion, hstep, rfl⟩ := Option.map_eq_some_iff.mp he
      obtain ⟨-, rfl⟩ := SynchronousResult.of_timedOut hstep
      rw [ht.leaks_of_ending (.inl rfl)]
      refine forall_congr' fun c => forall_congr' fun _ => or_congr_right (or_iff_left ?_)
      exact nofun
    · by_cases hread : e = .read
      · subst hread
        -- the read returns the connection of the first call, if it was one
        rw [ht.leaks_of_ending (.inr rfl)]
        refine forall_congr' fun c => forall_congr' fun _ => or_congr_right (or_congr_right ?_)
        exact h.returned_of_read ht c
      · have hquiet : ¬ t.Leaks := mt (h.leaks_of_quiet ht rfl
          (fun heq => htimedOut (DiscoveryEvent.completion.inj heq))
          (fun heq => hread (DiscoveryEvent.completion.inj heq))) hleaks
        cases e with
        | timedOut => exact absurd rfl htimedOut
        | read => exact absurd rfl hread
        | _ => exact iff_of_true hquiet trivial

/-- Nothing leaks along a run if and only if every step of it settles. -/
theorem leaks_of_exec (harrive : Arrives arrive connection starts)
    (h : exec (Discovery.step arrive connection) {} es = some s) :
    (∀ pre t, pre <+: es → exec (Discovery.step arrive connection) {} pre = some t → ¬ t.Leaks) ↔
      ∀ pre e post, es = pre ++ e :: post → Settles starts pre e := by
  induction es using List.reverseRecOn generalizing s with
  | nil =>
    refine iff_of_true ?_ fun pre e post hnil => ?_
    · rintro pre t hpre ht ⟨hended, -⟩
      rw [List.prefix_nil.mp hpre] at ht
      obtain rfl := Option.some.inj ht
      exact absurd hended nofun
    · exact absurd hnil.symm (List.append_ne_nil_of_right_ne_nil pre nofun)
  | append_singleton es e ih =>
    obtain ⟨u, hu, he⟩ := exec_concat_eq_some.mp h
    -- the prefixes of the longer run are those before, and the run itself
    rw [Automaton.forall_split_concat, ← ih hu]
    have hstep : ¬ u.Leaks → (¬ s.Leaks ↔ Settles starts es e) :=
      (of_exec harrive hu).leaks_of_step harrive he
    constructor
    · intro hall
      have hbefore : ∀ pre t, pre <+: es →
          exec (Discovery.step arrive connection) {} pre = some t → ¬ t.Leaks :=
        fun pre t hpre => hall pre t (hpre.trans (List.prefix_append es [e]))
      have hlast : ¬ s.Leaks := hall (es ++ [e]) s List.prefix_rfl h
      exact ⟨hbefore, (hstep (hbefore es u List.prefix_rfl hu)).mp hlast⟩
    · rintro ⟨hbefore, hsettles⟩ pre t hpre ht
      rcases List.prefix_concat_iff.mp hpre with rfl | hpre
      · obtain rfl := Option.some.inj (ht.symm.trans h)
        exact (hstep (hbefore es u List.prefix_rfl hu)).mpr hsettles
      · exact hbefore pre t hpre ht

end Tracked

/-! ### `acceptOne` and `connect` -/

/-- What holds of a call after the events `es`, of which `starts` picks the connections that
arrive. -/
structure HandsOver (step : Discovery τ κ → DiscoveryEvent τ κ ι → Option (Discovery τ κ))
    (starts : ι → Option κ) (es : List (DiscoveryEvent τ κ ι)) (s : Discovery τ κ) : Prop where
  /-- At most one connection is started. -/
  starts_one : ∀ c c', (s.connections c).started = true → (s.connections c').started = true → c = c'
  /-- At most one transport is returned, now or before, and it is the one over that connection. -/
  returns_one : ∀ pre t c, pre <+: es → exec step {} pre = some t → t.completion.returned = some c →
    (s.connections c).started = true
  /-- No connection leaks at any point, if and only if every event settles. -/
  leaks_none : (∀ pre t, pre <+: es → exec step {} pre = some t → ¬ t.Leaks) ↔
    ∀ pre e post, es = pre ++ e :: post → Settles starts pre e

/-- The law of discovery in every run, for whatever arrives. -/
theorem handsOver_of_exec {arrive : ι → Discovery τ κ → Discovery τ κ} {connection : ι → κ}
    {starts : ι → Option κ} {es : List (DiscoveryEvent τ κ ι)} {s : Discovery τ κ}
    (harrive : Arrives arrive connection starts)
    (h : exec (Discovery.step arrive connection) {} es = some s) :
    HandsOver (Discovery.step arrive connection) starts es s := by
  have htracked := Tracked.of_exec harrive h
  have hfirst : ∀ c, (s.connections c).started = true ↔ firstArrival starts es = some c :=
    fun c => (htracked.connections c).started
  constructor
  case starts_one =>
    intro c c' hc hc'
    exact Option.some.inj (((hfirst c).mp hc).symm.trans ((hfirst c').mp hc'))
  case returns_one =>
    rintro pre t c ⟨post, rfl⟩ ht hreturned
    have hpre := Tracked.of_exec harrive ht
    rw [hfirst, firstArrival, List.findSome?_append, Option.or_eq_some_iff]
    exact .inl (hpre.started_of_resolved (hpre.resolved_of_returned hreturned))
  case leaks_none => exact Tracked.leaks_of_exec harrive h

/-- The connection that an arrival of a browser's results is about. -/
def sought (serviceName : Option String) (results : List NWEndpoint × κ) : Option κ :=
  (results.1.find? (isSought serviceName)).map fun _ => results.2

omit [DecidableEq τ] in
/-- A connection that is made and started. -/
theorem start_create (c : κ) (s : Discovery τ κ) :
    (s.create c).start c = s.modify c fun x => { x with created := true, started := true } := by
  simp only [start, create, modify, Function.update_self, Function.update_idem]

omit [DecidableEq τ] in
/-- A connection that is made and cancelled at once. -/
theorem cancel_create (c : κ) (s : Discovery τ κ) :
    (s.create c).cancel c = s.modify c fun x => { x with created := true, cancelled := true } := by
  simp only [cancel, create, modify, Function.update_self, Function.update_idem]

omit [DecidableEq τ] in
/-- The listener starts the first connection that comes and cancels the others. -/
theorem newConnectionHandler_arrives :
    Arrives (newConnectionHandler (τ := τ) (κ := κ)) id some := by
  constructor
  case connection => exact fun a c h => Option.some.inj h
  case ignored => exact nofun
  case first =>
    rintro a s c ⟨⟩ hflag
    rw [newConnectionHandler, hflag, if_neg Bool.false_ne_true]
    exact start_create a { s with isConnecting := true }
  case later =>
    rintro a s c ⟨⟩ hflag
    rw [newConnectionHandler, hflag, if_pos rfl]
    exact .inr (cancel_create a s)

omit [DecidableEq τ] in
/-- The browser starts one connection, to what it looks for. -/
theorem browseResultsChangedHandler_arrives (serviceName : Option String) :
    Arrives (browseResultsChangedHandler (τ := τ) (κ := κ) serviceName) Prod.snd
      (sought serviceName) := by
  constructor
  case connection =>
    intro a c h
    obtain ⟨endpoint, -, hc⟩ := Option.map_eq_some_iff.mp h
    exact hc
  case ignored =>
    intro a s h
    have hnone : a.1.find? (isSought serviceName) = none := Option.map_eq_none_iff.mp h
    unfold browseResultsChangedHandler
    rw [hnone]
  case first =>
    intro a s c h hflag
    obtain ⟨endpoint, hfind, rfl⟩ := Option.map_eq_some_iff.mp h
    unfold browseResultsChangedHandler
    rw [hfind, hflag]
    exact start_create a.2 { s with isConnecting := true }
  case later =>
    intro a s c h hflag
    obtain ⟨endpoint, hfind, rfl⟩ := Option.map_eq_some_iff.mp h
    unfold browseResultsChangedHandler
    rw [hfind, hflag]
    exact .inl rfl

/-- Discovery hands over one connection, and leaks none where every event settles. -/
theorem discovery_hands_over :
    (∀ es s, exec (acceptOne (τ := τ) (κ := κ)) {} es = some s →
      HandsOver acceptOne some es s) ∧
    ∀ serviceName es s, exec (connect (τ := τ) (κ := κ) serviceName) {} es = some s →
      HandsOver (connect serviceName) (sought serviceName) es s :=
  ⟨fun _ _ h => handsOver_of_exec newConnectionHandler_arrives h,
    fun serviceName _ _ h => handsOver_of_exec (browseResultsChangedHandler_arrives serviceName) h⟩

/-- A listener hands over the first of two connections, and a browser the one it sought. -/
theorem discovery_hands_over_first :
    (∃ s : Discovery ℕ ℕ, exec acceptOne {} [.arrived 0, .arrived 1, .candidateState 0 .ready 0,
        .completion (.locked 0), .completion (.signalled 0), .completion .woken,
        .completion .read] = some s ∧ s.completion.returned = some 0 ∧
      HandsOver acceptOne some [.arrived 0, .arrived 1, .candidateState 0 .ready 0,
        .completion (.locked 0), .completion (.signalled 0), .completion .woken,
        .completion .read] s) ∧
    ∃ s : Discovery ℕ ℕ, exec (connect (some "controller")) {}
        [.arrived ([.other], 0), .arrived ([.other, .service "controller"], 1)] = some s ∧
      HandsOver (connect (some "controller")) (sought (some "controller"))
        [.arrived ([.other], 0), .arrived ([.other, .service "controller"], 1)] s :=
  ⟨⟨_, rfl, rfl, discovery_hands_over.1 _ _ rfl⟩, ⟨_, rfl, discovery_hands_over.2 _ _ _ rfl⟩⟩

/-- The connection that has been started when the wait times out stays open. -/
theorem discovery_leaks_on_timeout :
    (∃ s : Discovery ℕ ℕ,
      exec acceptOne {} [.arrived 0, .completion .timedOut] = some s ∧ s.Leaks) ∧
    ∃ s : Discovery ℕ ℕ,
      exec (connect none) {} [.arrived ([.service "controller"], 0), .completion .timedOut] =
        some s ∧ s.Leaks :=
  ⟨⟨_, rfl, rfl, 0, rfl, nofun, rfl, rfl⟩, ⟨_, rfl, rfl, 0, rfl, nofun, rfl, rfl⟩⟩

end Discovery

end DSEmu
