import Mathlib.Logic.Function.Basic
import DSEmu.Library.Automaton
import DSEmu.Transport.BonjourTransport

/-!
# The one-shot result

`SynchronousResult` of `DSEmu/TwoPhone/BonjourTransport.swift`, with any number of calls of
`resolve` and one call of `wait`. A call of `resolve` is two steps, its lock section and the signal
after it, and between them anything else may happen; the semaphore is the number of signals that
have not been taken. The wait of the semaphore may time out whenever the waiter is in it, also when
there is a signal to take.

The force unwrap of `wait` is the state `trapped`. The invariant that keeps it out, `OneShot`, says
that the semaphore counts the signals up to the one that the waiter took, and that a call which has
stored its value and not yet signalled is the only one and comes before every signal.
-/

namespace DSEmu

open Automaton (exec exec_concat_eq_some exec_invariant)

/-- Where a call of `resolve` is. -/
inductive ResolveCall (α : Type) where
  /-- It has not been made. -/
  | idle
  /-- It has been made and is before its lock section. -/
  | locking (newResult : Except BonjourTransportError α)
  /-- It has stored its value and is before `semaphore.signal()`. -/
  | signalling
  | done

/-- Where the call of `wait` is. -/
inductive WaitPhase (α : Type) where
  /-- It is before the end of `semaphore.wait(timeout:)`. -/
  | waiting
  /-- It has taken a signal and is before its lock section. -/
  | reading
  | timedOut
  | returned (result : Except BonjourTransportError α)
  /-- `result!` was reached with no value. -/
  | trapped

/-- A `SynchronousResult`, its calls of `resolve`, and its waiter. -/
structure SynchronousResult (τ α : Type) where
  semaphore : ℕ := 0
  result : Option (Except BonjourTransportError α) := none
  calls : τ → ResolveCall α := fun _ => .idle
  waiter : WaitPhase α := .waiting

/-- A step of a call of `resolve` or of the waiter. -/
inductive ResultEvent (τ α : Type) where
  /-- `resolve(_:)` is called. -/
  | called (call : τ) (newResult : Except BonjourTransportError α)
  /-- The lock section of `resolve`. -/
  | locked (call : τ)
  | signalled (call : τ)
  /-- The wait of the semaphore succeeds, or times out. -/
  | woken
  | timedOut
  /-- The lock section of `wait`. -/
  | read

namespace ResultEvent

variable {τ α : Type}

/-- The call whose lock section the step is. -/
def locked? : ResultEvent τ α → Option τ
  | locked call => some call
  | _ => none

/-- The step is a signal of the semaphore. -/
def signals : ResultEvent τ α → Bool
  | signalled _ => true
  | _ => false

/-- A step that is no signal does not count as one. -/
theorem countP_signals_concat (es : List (ResultEvent τ α)) {e : ResultEvent τ α}
    (he : signals e = false) : (es ++ [e]).countP signals = es.countP signals := by
  rw [List.countP_append, List.countP_singleton, he]
  rfl

variable [DecidableEq τ]

/-- What a step calls `resolve` with, where it makes the call. -/
def newResult? (call : τ) : ResultEvent τ α → Option (Except BonjourTransportError α)
  | called call' newResult => if call' = call then some newResult else none
  | _ => none

/-- The value of the call of `resolve` that comes first to its lock section. -/
def firstResolved (es : List (ResultEvent τ α)) : Option (Except BonjourTransportError α) :=
  (es.findSome? locked?).bind fun call => es.findSome? (newResult? call)

end ResultEvent

namespace SynchronousResult

variable {τ α : Type} [DecidableEq τ]

/-- One step. -/
def step (s : SynchronousResult τ α) : ResultEvent τ α → Option (SynchronousResult τ α)
  | .called call newResult =>
    match s.calls call with
    | .idle => some { s with calls := Function.update s.calls call (.locking newResult) }
    | _ => none
  | .locked call =>
    match s.calls call with
    | .locking newResult =>
      match s.result with
      | some _ => some { s with calls := Function.update s.calls call .done }
      | none =>
        some { s with
          result := some newResult
          calls := Function.update s.calls call .signalling }
    | _ => none
  | .signalled call =>
    match s.calls call with
    | .signalling =>
      some { s with
        semaphore := s.semaphore + 1
        calls := Function.update s.calls call .done }
    | _ => none
  | .woken =>
    match s.waiter with
    | .waiting =>
      if 0 < s.semaphore then
        some { s with semaphore := s.semaphore - 1, waiter := .reading }
      else none
    | _ => none
  | .timedOut =>
    match s.waiter with
    | .waiting => some { s with waiter := .timedOut }
    | _ => none
  | .read =>
    match s.waiter with
    | .reading =>
      match s.result with
      | some result => some { s with waiter := .returned result }
      | none => some { s with waiter := .trapped }
    | _ => none

/-- What `wait` throws or returns, where it has come to its end. -/
def waited (timeoutError : BonjourTransportError) (s : SynchronousResult τ α) :
    Option (Except BonjourTransportError α) :=
  match s.waiter with
  | .timedOut => some (.error timeoutError)
  | .returned result => some result
  | _ => none

/-! ### What a step does -/

/-- The inversion lemma for the call of `resolve`. -/
theorem of_called {s t : SynchronousResult τ α} {call : τ}
    {newResult : Except BonjourTransportError α} (h : s.step (.called call newResult) = some t) :
    s.calls call = .idle ∧
      t = { s with calls := Function.update s.calls call (.locking newResult) } := by
  simp only [step] at h
  split at h
  case h_1 hidle => exact ⟨hidle, (Option.some.inj h).symm⟩
  case h_2 => contradiction

/-- The inversion lemma for its lock section. -/
theorem of_locked {s t : SynchronousResult τ α} {call : τ} (h : s.step (.locked call) = some t) :
    ∃ newResult, s.calls call = .locking newResult ∧
      (s.result ≠ none ∧ t = { s with calls := Function.update s.calls call .done } ∨
        s.result = none ∧ t = { s with
          result := some newResult
          calls := Function.update s.calls call .signalling }) := by
  simp only [step] at h
  split at h
  case h_1 newResult hlocking =>
    refine ⟨newResult, hlocking, ?_⟩
    split at h
    case h_1 r hr => exact .inl ⟨hr ▸ Option.some_ne_none r, (Option.some.inj h).symm⟩
    case h_2 hr => exact .inr ⟨hr, (Option.some.inj h).symm⟩
  case h_2 => contradiction

/-- The inversion lemma for its signal. -/
theorem of_signalled {s t : SynchronousResult τ α} {call : τ}
    (h : s.step (.signalled call) = some t) :
    s.calls call = .signalling ∧ t = { s with
      semaphore := s.semaphore + 1
      calls := Function.update s.calls call .done } := by
  simp only [step] at h
  split at h
  case h_1 hsignalling => exact ⟨hsignalling, (Option.some.inj h).symm⟩
  case h_2 => contradiction

/-- The inversion lemma for the waiter that is woken. -/
theorem of_woken {s t : SynchronousResult τ α} (h : s.step .woken = some t) :
    s.waiter = .waiting ∧ 0 < s.semaphore ∧
      t = { s with semaphore := s.semaphore - 1, waiter := .reading } := by
  simp only [step] at h
  split at h
  case h_1 hwaiting =>
    rw [Option.ite_none_right_eq_some] at h
    exact ⟨hwaiting, h.1, (Option.some.inj h.2).symm⟩
  case h_2 => contradiction

/-- The inversion lemma for the waiter that has waited too long. -/
theorem of_timedOut {s t : SynchronousResult τ α} (h : s.step .timedOut = some t) :
    s.waiter = .waiting ∧ t = { s with waiter := .timedOut } := by
  simp only [step] at h
  split at h
  case h_1 hwaiting => exact ⟨hwaiting, (Option.some.inj h).symm⟩
  case h_2 => contradiction

/-- The inversion lemma for the read of the result. -/
theorem of_read {s t : SynchronousResult τ α} (h : s.step .read = some t) :
    s.waiter = .reading ∧
      ((∃ result, s.result = some result ∧ t = { s with waiter := .returned result }) ∨
        s.result = none ∧ t = { s with waiter := .trapped }) := by
  simp only [step] at h
  split at h
  case h_1 hreading =>
    refine ⟨hreading, ?_⟩
    split at h
    case h_1 r hr => exact .inl ⟨r, hr, (Option.some.inj h).symm⟩
    case h_2 hr => exact .inr ⟨hr, (Option.some.inj h).symm⟩
  case h_2 => contradiction

end SynchronousResult

/-! ### Which value is stored -/

namespace ResultEvent

variable {τ α : Type} [DecidableEq τ]

/-- The call of `resolve` that comes first to its lock section remains the first. -/
theorem firstResolved_append {es : List (ResultEvent τ α)} {r : Except BonjourTransportError α}
    (h : firstResolved es = some r) (fs : List (ResultEvent τ α)) :
    firstResolved (es ++ fs) = some r := by
  obtain ⟨call, hcall, hr⟩ := Option.bind_eq_some_iff.mp h
  have hcall' : (es ++ fs).findSome? locked? = some call := by
    rw [List.findSome?_append, hcall, Option.some_or]
  have hr' : (es ++ fs).findSome? (newResult? call) = some r := by
    rw [List.findSome?_append, hr, Option.some_or]
  unfold firstResolved
  rw [hcall', Option.bind_some, hr']

/-- Where no call has come to its lock section, a step that is none brings none there. -/
theorem firstResolved_concat_none {es : List (ResultEvent τ α)} {e : ResultEvent τ α}
    (hes : es.findSome? locked? = none) (he : locked? e = none) :
    firstResolved (es ++ [e]) = none := by
  unfold firstResolved
  rw [List.findSome?_append, hes, Option.none_or, List.findSome?_singleton, he, Option.bind_none]

/-- The first lock section is the one of a call that has been made. -/
theorem firstResolved_concat_locked {es : List (ResultEvent τ α)} {call : τ}
    {r : Except BonjourTransportError α} (hes : es.findSome? locked? = none)
    (hr : es.findSome? (newResult? call) = some r) :
    firstResolved (es ++ [.locked call]) = some r := by
  have hcall : (es ++ [locked call]).findSome? locked? = some call := by
    rw [List.findSome?_append, hes, Option.none_or]
    rfl
  unfold firstResolved
  rw [hcall, Option.bind_some, List.findSome?_append, hr, Option.some_or]

end ResultEvent

namespace SynchronousResult

variable {τ α : Type} [DecidableEq τ]

open ResultEvent

/-- The value of the first call is stored, and each call resolves with what it was made with. -/
structure Stores (es : List (ResultEvent τ α)) (s : SynchronousResult τ α) : Prop where
  stored : s.result = firstResolved es
  unlocked : s.result = none → es.findSome? locked? = none
  idle : ∀ call, s.calls call = .idle → es.findSome? (newResult? call) = none
  locking : ∀ call newResult, s.calls call = .locking newResult →
    es.findSome? (newResult? call) = some newResult

/-- A step that is no lock section of `resolve` leaves the result. -/
theorem Stores.stored_of_unlocked {es : List (ResultEvent τ α)} {s : SynchronousResult τ α}
    (h : Stores es s) {e : ResultEvent τ α} (he : locked? e = none) :
    s.result = firstResolved (es ++ [e]) ∧
      (s.result = none → (es ++ [e]).findSome? locked? = none) := by
  constructor
  · cases hr : s.result with
    | none => rw [firstResolved_concat_none (h.unlocked hr) he]
    | some r => rw [firstResolved_append (h.stored.symm.trans hr)]
  · intro hr
    rw [List.findSome?_append, h.unlocked hr, Option.none_or, List.findSome?_singleton, he]

/-- A step that makes no call and leaves every call, or ends it, keeps what the calls were made
with. -/
theorem Stores.calls_of_uncalled {es : List (ResultEvent τ α)} {s t : SynchronousResult τ α}
    (h : Stores es s) {e : ResultEvent τ α} (he : ∀ call, newResult? call e = none)
    (ht : ∀ call, t.calls call = s.calls call ∨ t.calls call = .signalling ∨ t.calls call = .done) :
    (∀ call, t.calls call = .idle → (es ++ [e]).findSome? (newResult? call) = none) ∧
      ∀ call newResult, t.calls call = .locking newResult →
        (es ++ [e]).findSome? (newResult? call) = some newResult := by
  have hsame : ∀ call, (es ++ [e]).findSome? (newResult? call) =
    es.findSome? (newResult? call) := by
    intro call
    rw [List.findSome?_append, List.findSome?_singleton, he, Option.or_none]
  constructor
  · intro call hcall
    rcases ht call with hkept | hmoved | hmoved
    · rw [hsame]
      exact h.idle call (hkept.symm.trans hcall)
    · exact absurd (hmoved.symm.trans hcall) nofun
    · exact absurd (hmoved.symm.trans hcall) nofun
  · intro call newResult hcall
    rcases ht call with hkept | hmoved | hmoved
    · rw [hsame]
      exact h.locking call newResult (hkept.symm.trans hcall)
    · exact absurd (hmoved.symm.trans hcall) nofun
    · exact absurd (hmoved.symm.trans hcall) nofun

/-- What an update leaves, and what it puts in. -/
theorem update_cases (calls : τ → ResolveCall α) (call : τ) (x : ResolveCall α) (call' : τ) :
    call' = call ∧ Function.update calls call x call' = x ∨
      call' ≠ call ∧ Function.update calls call x call' = calls call' := by
  by_cases heq : call' = call
  · subst heq
    exact .inl ⟨rfl, Function.update_self _ _ _⟩
  · exact .inr ⟨heq, Function.update_of_ne heq _ _⟩

/-- A step that neither makes a call nor is a lock section of one keeps what is stored. -/
theorem Stores.still {es : List (ResultEvent τ α)} {s t : SynchronousResult τ α} (h : Stores es s)
    {e : ResultEvent τ α} (hlocked : locked? e = none) (hcalled : ∀ call, newResult? call e = none)
    (hresult : t.result = s.result)
    (hcalls : ∀ call, t.calls call = s.calls call ∨ t.calls call = .signalling ∨
      t.calls call = .done) : Stores (es ++ [e]) t := by
  obtain ⟨hstored, hunlocked⟩ := h.stored_of_unlocked hlocked
  obtain ⟨hidle, hlocking⟩ := h.calls_of_uncalled hcalled hcalls
  exact ⟨hresult.trans hstored, fun hnone => hunlocked (hresult.symm.trans hnone), hidle, hlocking⟩

/-- A call is made with a value of its own. -/
theorem Stores.called {es : List (ResultEvent τ α)} {s : SynchronousResult τ α} (h : Stores es s)
    {call : τ} (hidle : s.calls call = .idle) (newResult : Except BonjourTransportError α) :
    Stores (es ++ [.called call newResult])
      { s with calls := Function.update s.calls call (.locking newResult) } := by
  obtain ⟨hstored, hunlocked⟩ := h.stored_of_unlocked (e := .called call newResult) rfl
  have hother : ∀ call', call' ≠ call → (es ++ [ResultEvent.called call newResult]).findSome?
      (newResult? call') = es.findSome? (newResult? call') := by
    intro call' hne
    have hnone : newResult? call' (.called call newResult) = none := if_neg hne.symm
    rw [List.findSome?_append, List.findSome?_singleton, hnone, Option.or_none]
  refine ⟨hstored, hunlocked, fun call' hcall' => ?_, fun call' newResult' hcall' => ?_⟩
  · -- the call itself is no longer idle, and the others are as idle as before
    rcases update_cases s.calls call (.locking newResult) call' with
      ⟨-, hself⟩ | ⟨hne, hkept⟩
    · exact absurd (hself.symm.trans hcall') nofun
    · rw [hother call' hne]
      exact h.idle call' (hkept.symm.trans hcall')
  · rcases update_cases s.calls call (.locking newResult) call' with
      ⟨rfl, hself⟩ | ⟨hne, hkept⟩
    · -- it had made no call before, so this value is the first that it was made with
      obtain rfl := ResolveCall.locking.inj (hself.symm.trans hcall')
      have hsome : newResult? call' (.called call' newResult) = some newResult := if_pos rfl
      rw [List.findSome?_append, h.idle call' hidle, Option.none_or, List.findSome?_singleton,
        hsome]
    · rw [hother call' hne]
      exact h.locking call' newResult' (hkept.symm.trans hcall')

/-- The first lock section stores the value of its call. -/
theorem Stores.locked {es : List (ResultEvent τ α)} {s : SynchronousResult τ α} (h : Stores es s)
    {call : τ} {newResult : Except BonjourTransportError α}
    (hlocking : s.calls call = .locking newResult) (hresult : s.result = none) :
    Stores (es ++ [.locked call])
      { s with result := some newResult, calls := Function.update s.calls call .signalling } := by
  have hfirst : firstResolved (es ++ [.locked call]) = some newResult :=
    firstResolved_concat_locked (h.unlocked hresult) (h.locking call newResult hlocking)
  obtain ⟨hidle, hcalls⟩ := h.calls_of_uncalled (e := .locked call)
    (t := { s with calls := Function.update s.calls call .signalling }) (fun _ => rfl) fun call' =>
      (update_cases _ call .signalling call').elim (fun hself => .inr (.inl hself.2)) fun hkept =>
        .inl hkept.2
  exact ⟨hfirst.symm, nofun, hidle, hcalls⟩

/-- A later lock section stores nothing. -/
theorem Stores.locked_late {es : List (ResultEvent τ α)} {s : SynchronousResult τ α}
    (h : Stores es s) (call : τ) (hresult : s.result ≠ none) :
    Stores (es ++ [.locked call]) { s with calls := Function.update s.calls call .done } := by
  obtain ⟨r, hr⟩ := Option.ne_none_iff_exists'.mp hresult
  have hfirst : firstResolved (es ++ [.locked call]) = some r :=
    firstResolved_append (h.stored.symm.trans hr) _
  obtain ⟨hidle, hcalls⟩ := h.calls_of_uncalled (e := .locked call)
    (t := { s with calls := Function.update s.calls call .done }) (fun _ => rfl) fun call' =>
      (update_cases _ call .done call').elim (fun hself => .inr (.inr hself.2)) fun hkept =>
        .inl hkept.2
  exact ⟨hr.trans hfirst.symm, fun hnone => absurd hnone hresult, hidle, hcalls⟩

/-- Every step keeps which value is stored. -/
theorem Stores.step {es : List (ResultEvent τ α)} {s t : SynchronousResult τ α} (h : Stores es s)
    {e : ResultEvent τ α} (he : s.step e = some t) : Stores (es ++ [e]) t := by
  cases e with
  | called call newResult =>
    obtain ⟨hidle, rfl⟩ := of_called he
    exact h.called hidle newResult
  | locked call =>
    obtain ⟨newResult, hlocking, ⟨hresult, rfl⟩ | ⟨hresult, rfl⟩⟩ := of_locked he
    · exact h.locked_late call hresult
    · exact h.locked hlocking hresult
  | signalled call =>
    obtain ⟨-, rfl⟩ := of_signalled he
    refine h.still rfl (fun _ => rfl) rfl ?_
    intro call'
    rcases update_cases s.calls call .done call' with ⟨-, hself⟩ | ⟨-, hkept⟩
    · exact .inr (.inr hself)
    · exact .inl hkept
  | woken =>
    obtain ⟨-, -, rfl⟩ := of_woken he
    exact h.still rfl (fun _ => rfl) rfl fun _ => .inl rfl
  | timedOut =>
    obtain ⟨-, rfl⟩ := of_timedOut he
    exact h.still rfl (fun _ => rfl) rfl fun _ => .inl rfl
  | read =>
    obtain ⟨-, ⟨_, -, rfl⟩ | ⟨-, rfl⟩⟩ := of_read he
    · exact h.still rfl (fun _ => rfl) rfl fun _ => .inl rfl
    · exact h.still rfl (fun _ => rfl) rfl fun _ => .inl rfl

/-! ### The signals -/

/-- The signals that the waiter has taken. -/
def taken (s : SynchronousResult τ α) : ℕ :=
  match s.waiter with
  | .waiting => 0
  | .timedOut => 0
  | _ => 1

/-- The semaphore counts the signals up to the one that the waiter took, and a call that has stored
its value and not yet signalled is the only one and comes before every signal. -/
structure OneShot (es : List (ResultEvent τ α)) (s : SynchronousResult τ α) : Prop where
  semaphore : s.semaphore + s.taken = es.countP signals
  once : es.countP signals ≤ 1
  stored : 0 < es.countP signals → s.result ≠ none
  signalling : ∀ call, s.calls call = .signalling → s.result ≠ none ∧ es.countP signals = 0 ∧
    ∀ call', s.calls call' = .signalling → call' = call
  returned : ∀ result, s.waiter = .returned result → s.result = some result
  untrapped : s.waiter ≠ .trapped

/-- A call that is in `signalling` after another call has moved to somewhere else was there before
it. -/
theorem signalling_of_update {calls : τ → ResolveCall α} {call call' : τ} {x : ResolveCall α}
    (hx : x ≠ .signalling) (h : Function.update calls call x call' = .signalling) :
    call' ≠ call ∧ calls call' = .signalling := by
  rcases update_cases calls call x call' with ⟨-, hself⟩ | ⟨hne, hkept⟩
  · exact absurd (hself.symm.trans h) hx
  · exact ⟨hne, hkept.symm.trans h⟩

/-- A call that moves to somewhere else than `signalling`, without a signal, keeps the counts. -/
theorem OneShot.moved {es : List (ResultEvent τ α)} {s : SynchronousResult τ α} (h : OneShot es s)
    {e : ResultEvent τ α} (he : signals e = false) (call : τ) {x : ResolveCall α}
    (hx : x ≠ .signalling) :
    OneShot (es ++ [e]) { s with calls := Function.update s.calls call x } := by
  have hcount := countP_signals_concat es he
  constructor
  case semaphore => exact h.semaphore.trans hcount.symm
  case once => exact hcount ▸ h.once
  case stored => exact hcount ▸ h.stored
  case signalling =>
    intro call' hcall'
    obtain ⟨hstored, hnone, honly⟩ := h.signalling call' (signalling_of_update hx hcall').2
    refine ⟨hstored, hcount.trans hnone, fun call'' hcall'' => ?_⟩
    exact honly call'' (signalling_of_update hx hcall'').2
  case returned => exact h.returned
  case untrapped => exact h.untrapped

omit [DecidableEq τ] in
/-- A step of the waiter that gives it what is stored keeps the counts. -/
theorem OneShot.waited {es : List (ResultEvent τ α)} {s t : SynchronousResult τ α}
    (h : OneShot es s) {e : ResultEvent τ α} (he : signals e = false)
    (hresult : t.result = s.result) (hcalls : t.calls = s.calls)
    (hsemaphore : t.semaphore + t.taken = s.semaphore + s.taken)
    (hreturned : ∀ result, t.waiter = .returned result → s.result = some result)
    (huntrapped : t.waiter ≠ .trapped) : OneShot (es ++ [e]) t := by
  have hcount := countP_signals_concat es he
  constructor
  case semaphore => exact hsemaphore.trans (h.semaphore.trans hcount.symm)
  case once => exact hcount ▸ h.once
  case stored => rw [hcount, hresult]; exact h.stored
  case signalling => rw [hcount, hresult, hcalls]; exact h.signalling
  case returned => rw [hresult]; exact hreturned
  case untrapped => exact huntrapped

/-- The first lock section makes its call the one that is to signal. -/
theorem OneShot.locked {es : List (ResultEvent τ α)} {s : SynchronousResult τ α} (h : OneShot es s)
    (call : τ) (newResult : Except BonjourTransportError α) (hresult : s.result = none) :
    OneShot (es ++ [.locked call])
      { s with result := some newResult, calls := Function.update s.calls call .signalling } := by
  have hcount := countP_signals_concat es (e := .locked call) rfl
  -- Nothing has been stored, so that no call is to signal and none has.
  have hnone : es.countP signals = 0 := by
    by_contra hpos
    exact h.stored (Nat.pos_of_ne_zero hpos) hresult
  have honly : ∀ call', Function.update s.calls call .signalling call' = .signalling →
      call' = call := by
    intro call' hcall'
    rcases update_cases s.calls call .signalling call' with ⟨heq, -⟩ | ⟨-, hkept⟩
    · exact heq
    · exact absurd hresult (h.signalling call' (hkept.symm.trans hcall')).1
  constructor
  case semaphore => exact h.semaphore.trans hcount.symm
  case once => exact hcount ▸ h.once
  case stored => exact fun _ => Option.some_ne_none newResult
  case signalling =>
    intro call' hcall'
    obtain rfl := honly call' hcall'
    exact ⟨Option.some_ne_none newResult, hcount.trans hnone, honly⟩
  case returned =>
    intro result hreturned
    exact absurd (hresult.symm.trans (h.returned result hreturned)) nofun
  case untrapped => exact h.untrapped

/-- The call that stored its value signals, and none does after it. -/
theorem OneShot.signalled {es : List (ResultEvent τ α)} {s : SynchronousResult τ α}
    (h : OneShot es s) {call : τ} (hcall : s.calls call = .signalling) :
    OneShot (es ++ [.signalled call])
      { s with
        semaphore := s.semaphore + 1
        calls := Function.update s.calls call .done } := by
  obtain ⟨hstored, hnone, honly⟩ := h.signalling call hcall
  have hcount : (es ++ [ResultEvent.signalled call]).countP signals = es.countP signals + 1 := by
    rw [List.countP_append, List.countP_singleton]
    rfl
  constructor
  case semaphore =>
    -- the signal is counted and not taken yet
    have htaken := h.semaphore
    show s.semaphore + 1 + s.taken = _
    omega
  case once => omega
  case stored => exact fun _ => hstored
  case signalling =>
    intro call' hcall'
    -- only one call was to signal, and it has
    obtain ⟨hne, hsignalling⟩ := signalling_of_update (x := .done) nofun hcall'
    exact absurd (honly call' hsignalling) hne
  case returned => exact h.returned
  case untrapped => exact h.untrapped

/-- Every step keeps the counts. -/
theorem OneShot.step {es : List (ResultEvent τ α)} {s t : SynchronousResult τ α} (h : OneShot es s)
    {e : ResultEvent τ α} (he : s.step e = some t) : OneShot (es ++ [e]) t := by
  cases e with
  | called call newResult =>
    obtain ⟨-, rfl⟩ := of_called he
    exact h.moved rfl call nofun
  | locked call =>
    obtain ⟨newResult, -, ⟨-, rfl⟩ | ⟨hresult, rfl⟩⟩ := of_locked he
    · exact h.moved rfl call nofun
    · exact h.locked call newResult hresult
  | signalled call =>
    obtain ⟨hcall, rfl⟩ := of_signalled he
    exact h.signalled hcall
  | woken =>
    obtain ⟨hwaiting, hpos, rfl⟩ := of_woken he
    refine h.waited rfl rfl rfl ?_ nofun nofun
    -- the waiter takes what the semaphore gives
    simp only [taken, hwaiting]
    omega
  | timedOut =>
    obtain ⟨hwaiting, rfl⟩ := of_timedOut he
    refine h.waited rfl rfl rfl ?_ nofun nofun
    simp only [taken, hwaiting]
  | read =>
    obtain ⟨hreading, ⟨result, hresult, rfl⟩ | ⟨hresult, -⟩⟩ := of_read he
    · refine h.waited rfl rfl rfl ?_ ?_ nofun
      · simp only [taken, hreading]
      · intro result' hreturned
        exact WaitPhase.returned.inj hreturned ▸ hresult
    · -- The waiter has taken a signal, and what signals has stored its value.
      have htaken : s.taken = 1 := by simp only [taken, hreading]
      have hpos : 0 < es.countP signals := by
        have := h.semaphore
        omega
      exact absurd hresult (h.stored hpos)

/-- The invariants hold along every run. -/
theorem of_exec {es : List (ResultEvent τ α)} {s : SynchronousResult τ α}
    (h : exec step {} es = some s) : Stores es s ∧ OneShot es s := by
  refine exec_invariant (I := fun es s => Stores es s ∧ OneShot es s) ⟨?_, ?_⟩ ?_ h
  · exact { stored := rfl, unlocked := fun _ => rfl, idle := fun _ _ => rfl, locking := nofun }
  · exact { semaphore := rfl, once := Nat.zero_le 1, stored := nofun, signalling := nofun
            returned := nofun, untrapped := nofun }
  · intro es s e t hs he
    exact ⟨hs.1.step he, hs.2.step he⟩

/-- The call of `wait` has thrown or returned. -/
def ended (s : SynchronousResult τ α) : Bool :=
  match s.waiter with
  | .timedOut => true
  | .returned _ => true
  | _ => false

/-- The value with which `wait` has returned, where it has not thrown. -/
def returned (s : SynchronousResult τ α) : Option α :=
  match s.waiter with
  | .returned (.ok value) => some value
  | _ => none

omit [DecidableEq τ] in
/-- What is returned is what the waiter has read. -/
theorem returned_eq_some {s : SynchronousResult τ α} {value : α} :
    s.returned = some value ↔ s.waiter = .returned (.ok value) := by
  unfold returned
  split
  case h_1 value' h => rw [h, Option.some.injEq, WaitPhase.returned.injEq, Except.ok.injEq]
  case h_2 h => exact ⟨nofun, fun hvalue => absurd hvalue (h value)⟩

/-- Only the timeout and the reading of the value end the call of `wait`. -/
theorem ended_of_step {s t : SynchronousResult τ α} {e : ResultEvent τ α} (h : s.step e = some t)
    (huntrapped : t.waiter ≠ .trapped) :
    t.ended = true ↔ s.ended = true ∨ e = .timedOut ∨ e = .read := by
  -- A step that leaves the waiter ends nothing.
  have hsame : t.waiter = s.waiter → e ≠ .timedOut → e ≠ .read →
      (t.ended = true ↔ s.ended = true ∨ e = .timedOut ∨ e = .read) := by
    intro hwaiter htimedOut hread
    have hended : t.ended = s.ended := by unfold ended; rw [hwaiter]
    simp only [hended, htimedOut, hread, or_false]
  cases e with
  | called call newResult =>
    obtain ⟨-, rfl⟩ := of_called h
    exact hsame rfl nofun nofun
  | locked call =>
    obtain ⟨newResult, -, ⟨-, rfl⟩ | ⟨-, rfl⟩⟩ := of_locked h
    · exact hsame rfl nofun nofun
    · exact hsame rfl nofun nofun
  | signalled call =>
    obtain ⟨-, rfl⟩ := of_signalled h
    exact hsame rfl nofun nofun
  | woken =>
    obtain ⟨hwaiting, -, rfl⟩ := of_woken h
    simp only [ended, hwaiting, Bool.false_eq_true, reduceCtorEq, or_self]
  | timedOut =>
    obtain ⟨-, rfl⟩ := of_timedOut h
    exact ⟨fun _ => .inr (.inl rfl), fun _ => rfl⟩
  | read =>
    obtain ⟨-, ⟨result, -, rfl⟩ | ⟨-, rfl⟩⟩ := of_read h
    · exact ⟨fun _ => .inr (.inr rfl), fun _ => rfl⟩
    · exact absurd rfl huntrapped

/-- The call of `wait` has ended once it has timed out or has read the value. -/
theorem ended_iff_mem {es : List (ResultEvent τ α)} {s : SynchronousResult τ α}
    (h : exec step {} es = some s) : s.ended = true ↔ .timedOut ∈ es ∨ .read ∈ es := by
  induction es using List.reverseRecOn generalizing s with
  | nil =>
    obtain rfl := Option.some.inj h
    exact ⟨nofun, nofun⟩
  | append_singleton es e ih =>
    obtain ⟨t, ht, he⟩ := exec_concat_eq_some.mp h
    rw [ended_of_step he (of_exec h).2.untrapped, ih ht]
    simp only [List.mem_append, List.mem_singleton, @eq_comm _ e]
    tauto

/-- Only the reading of the value makes `wait` return. -/
theorem returned_of_step {s t : SynchronousResult τ α} {e : ResultEvent τ α} (h : s.step e = some t)
    (he : e ≠ .read) : t.returned = s.returned := by
  cases e with
  | called call newResult =>
    obtain ⟨-, rfl⟩ := of_called h
    rfl
  | locked call =>
    obtain ⟨newResult, -, ⟨-, rfl⟩ | ⟨-, rfl⟩⟩ := of_locked h
    · rfl
    · rfl
  | signalled call =>
    obtain ⟨-, rfl⟩ := of_signalled h
    rfl
  | woken =>
    obtain ⟨hwaiting, -, rfl⟩ := of_woken h
    simp only [returned, hwaiting]
  | timedOut =>
    obtain ⟨hwaiting, rfl⟩ := of_timedOut h
    simp only [returned, hwaiting]
  | read => exact absurd rfl he

/-- What holds of a one-shot result after the events `es`. -/
structure Delivers (es : List (ResultEvent τ α)) (s : SynchronousResult τ α) : Prop where
  /-- The semaphore is signalled at most once. -/
  signalled_once : es.countP signals ≤ 1
  /-- What is stored is the value of the first call of `resolve`. -/
  stores_first : s.result = firstResolved es
  /-- `wait` throws the error of its timeout or delivers that value. -/
  waits : ∀ timeoutError r, s.waited timeoutError = some r →
    s.waiter = .timedOut ∧ r = .error timeoutError ∨ firstResolved es = some r
  /-- Where `wait` reads the value, there is one. -/
  unwraps : s.waiter = .reading → s.result ≠ none
  untrapped : s.waiter ≠ .trapped

/-- A one-shot result delivers the value of the first call of `resolve`, in every interleaving of
its calls and its waiter. -/
theorem synchronousResult_delivers {es : List (ResultEvent τ α)} {s : SynchronousResult τ α}
    (h : exec step {} es = some s) : Delivers es s := by
  obtain ⟨hstores, honeShot⟩ := of_exec h
  constructor
  case signalled_once => exact honeShot.once
  case stores_first => exact hstores.stored
  case waits =>
    intro timeoutError r hr
    unfold SynchronousResult.waited at hr
    split at hr
    case h_1 htimedOut => exact .inl ⟨htimedOut, (Option.some.inj hr).symm⟩
    case h_2 result hreturned =>
      right
      calc firstResolved es = s.result := hstores.stored.symm
        _ = some result := honeShot.returned result hreturned
        _ = some r := hr
    case h_3 => contradiction
  case unwraps =>
    intro hreading
    -- a waiter that reads has taken a signal, and a signal comes after the store
    have htaken : s.taken = 1 := by simp only [taken, hreading]
    have hsemaphore := honeShot.semaphore
    apply honeShot.stored
    omega
  case untrapped => exact honeShot.untrapped

/-- Two calls, of which the second comes to its lock section between the store and the signal of the
first. -/
theorem synchronousResult_delivers_two_calls :
    ∃ s : SynchronousResult Bool ℕ, exec step {}
        [.called true (.ok 1), .called false (.ok 2), .locked true, .locked false, .signalled true,
          .woken, .read] = some s ∧
      s.waited .peerClosed = some (.ok 1) ∧
      Delivers [.called true (.ok 1), .called false (.ok 2), .locked true, .locked false,
        .signalled true, .woken, .read] s :=
  ⟨_, rfl, rfl, synchronousResult_delivers rfl⟩

end SynchronousResult

end DSEmu
