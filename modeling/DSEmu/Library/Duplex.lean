import Mathlib.Logic.Function.Basic
import DSEmu.Library.Automaton

/-!
# A link of two FIFO channels

Two ends exchange messages of any type over a pair of first-in first-out queues, one for each
direction. `Link.step` is one operation of one end, with its result: a send or a receive that
succeeded or failed, or the closing of the end. A `Medium` says how the link behaves: how many
messages a queue holds before a send blocks (a blocked operation is one that is not enabled), and
whether operations may also fail for no reason of the two ends, as they do when a network drops
the connection. A reliable link fails an operation only where an end has been closed, and it
delivers what was sent before the closing.

`delivered` is the law of the link: in every run, what one end has sent is what the other has
received, followed by what is still on its way.
-/

namespace DSEmu.Duplex

open Automaton

/-- One end of a link. -/
inductive Side where
  | left
  | right
  deriving DecidableEq, Repr

/-- The opposite end. -/
def Side.other : Side → Side
  | .left => .right
  | .right => .left

/-- The other side of the other side. -/
@[simp] theorem Side.other_other (x : Side) : x.other.other = x := by
  cases x <;> rfl

/-- The sides are two. -/
@[simp] theorem Side.other_ne (x : Side) : x.other ≠ x := by
  cases x <;> exact nofun

/-- The sides are two. -/
@[simp] theorem Side.ne_other (x : Side) : x ≠ x.other := by
  cases x <;> exact nofun

/-- An operation of an end on its link, with its result. -/
inductive Operation (α : Type*) where
  | sent (m : α)
  | sendFailed (m : α)
  | received (m : α)
  | receiveFailed
  | closed
  deriving DecidableEq, Repr

namespace Operation

variable {α : Type*}

/-- The message of a send that succeeded. -/
def sent? : Operation α → Option α
  | sent m => some m
  | _ => none

/-- The message that a send was called with, whether it succeeded or failed. -/
def attempted? : Operation α → Option α
  | sent m => some m
  | sendFailed m => some m
  | _ => none

/-- The message of a receive that succeeded. -/
def received? : Operation α → Option α
  | received m => some m
  | _ => none

end Operation

/-- How a link behaves: the number of messages that the direction to an end holds before a send
blocks (unbounded for `none`), and whether operations may fail at any time. -/
structure Medium where
  capacity : Side → Option ℕ := fun _ => none
  faulty : Bool := false

/-- Whether the direction to the end `x` has room for another message when it holds `n`. -/
def Medium.HasRoom (M : Medium) (x : Side) (n : ℕ) : Prop :=
  ∀ c ∈ M.capacity x, n < c

instance (M : Medium) (x : Side) (n : ℕ) : Decidable (M.HasRoom x n) :=
  inferInstanceAs (Decidable (∀ c ∈ M.capacity x, n < c))

/-- The state of a link: the messages on their way to each end, oldest first, and whether each end
has been closed. -/
structure Link (α : Type*) where
  incoming : Side → List α := fun _ => []
  closed : Side → Bool := fun _ => false

namespace Link

variable {α : Type*} [DecidableEq α]

/-- One operation of the end `x`. -/
def step (M : Medium) (l : Link α) (x : Side) : Operation α → Option (Link α)
  | .sent m =>
    if l.closed x = false ∧ M.HasRoom x.other (l.incoming x.other).length then
      some { l with
        incoming := Function.update l.incoming x.other (l.incoming x.other ++ [m]) }
    else none
  | .sendFailed _ =>
    if M.faulty = true ∨ l.closed x = true ∨ l.closed x.other = true then some l else none
  | .received m =>
    if l.closed x = false ∧ (l.incoming x).head? = some m then
      some { l with incoming := Function.update l.incoming x (l.incoming x).tail }
    else none
  | .receiveFailed =>
    if M.faulty = true ∨ l.closed x = true ∨
        (l.incoming x = [] ∧ l.closed x.other = true) then some l else none
  | .closed => some { l with closed := Function.update l.closed x true }

/-- An operation labelled with the end that performs it, as an event of the link. -/
def act (M : Medium) (l : Link α) (e : Side × Operation α) : Option (Link α) :=
  l.step M e.1 e.2

variable {M : Medium} {l l' : Link α} {x : Side} {m : α}

/-- A send that succeeds appends its message for the other end. -/
theorem step_sent (h : l.step M x (.sent m) = some l') :
    l.closed x = false ∧ l'.closed = l.closed ∧ l'.incoming x = l.incoming x ∧
      l'.incoming x.other = l.incoming x.other ++ [m] := by
  rw [step, Option.ite_none_right_eq_some, Option.some.injEq] at h
  obtain ⟨⟨hc, -⟩, rfl⟩ := h
  refine ⟨hc, rfl, ?_, ?_⟩
  · exact Function.update_of_ne (Side.ne_other x) _ _
  · exact Function.update_self _ _ _

/-- A receive that succeeds takes the oldest message on its way to the end. -/
theorem step_received (h : l.step M x (.received m) = some l') :
    l.closed x = false ∧ l'.closed = l.closed ∧ l.incoming x = m :: l'.incoming x ∧
      l'.incoming x.other = l.incoming x.other := by
  rw [step, Option.ite_none_right_eq_some, Option.some.injEq] at h
  obtain ⟨⟨hc, hm⟩, rfl⟩ := h
  refine ⟨hc, rfl, ?_, ?_⟩
  · change l.incoming x = m :: Function.update l.incoming x (l.incoming x).tail x
    rw [Function.update_self]
    obtain ⟨rest, hrest⟩ := List.head?_eq_some_iff.mp hm
    rw [hrest, List.tail_cons]
  · exact Function.update_of_ne (Side.other_ne x) _ _

/-- A failed send leaves the link as it is. -/
theorem step_sendFailed (h : l.step M x (.sendFailed m) = some l') :
    l' = l ∧ (M.faulty = true ∨ l.closed x = true ∨ l.closed x.other = true) := by
  rw [step, Option.ite_none_right_eq_some, Option.some.injEq] at h
  exact ⟨h.2.symm, h.1⟩

/-- A failed receive leaves the link as it is. -/
theorem step_receiveFailed (h : l.step M x .receiveFailed = some l') :
    l' = l ∧ (M.faulty = true ∨ l.closed x = true ∨
      (l.incoming x = [] ∧ l.closed x.other = true)) := by
  rw [step, Option.ite_none_right_eq_some, Option.some.injEq] at h
  exact ⟨h.2.symm, h.1⟩

/-- Closing an end leaves the messages on their way, and the other end's flag. -/
theorem step_closed (h : l.step M x .closed = some l') :
    l'.incoming = l.incoming ∧ l'.closed = Function.update l.closed x true := by
  rw [step, Option.some.injEq] at h
  subst h
  exact ⟨rfl, rfl⟩

/-- What an operation of an end does to the number of messages on their way. -/
theorem step_lengths {o : Operation α} (h : l.step M x o = some l') :
    (l'.incoming x.other).length = (l.incoming x.other).length + o.sent?.toList.length ∧
      (l.incoming x).length = (l'.incoming x).length + o.received?.toList.length := by
  cases o with
  | sent m =>
    obtain ⟨-, -, hsame, hmore⟩ := step_sent h
    rw [hsame, hmore, List.length_append]
    exact ⟨rfl, rfl⟩
  | received m =>
    obtain ⟨-, -, hless, hsame⟩ := step_received h
    rw [hsame, hless]
    exact ⟨rfl, rfl⟩
  | sendFailed m =>
    obtain ⟨rfl, -⟩ := step_sendFailed h
    exact ⟨rfl, rfl⟩
  | receiveFailed =>
    obtain ⟨rfl, -⟩ := step_receiveFailed h
    exact ⟨rfl, rfl⟩
  | closed =>
    obtain ⟨hsame, -⟩ := step_closed h
    rw [hsame]
    exact ⟨rfl, rfl⟩

/-- An end waits to receive only where both ends are open and nothing is on its way. -/
theorem receive_blocked (hreceived : ∀ m, l.step M x (.received m) = none)
    (hfailed : l.step M x .receiveFailed = none) :
    l.incoming x = [] ∧ l.closed x = false ∧ l.closed x.other = false := by
  have hopen : l.closed x = false ∧ (l.incoming x = [] → l.closed x.other = false) := by
    rw [step, ite_eq_right_iff] at hfailed
    have hnot : ¬ (M.faulty = true ∨ l.closed x = true ∨
        (l.incoming x = [] ∧ l.closed x.other = true)) := fun h => absurd (hfailed h) nofun
    simp only [not_or, not_and, Bool.not_eq_true] at hnot
    exact hnot.2
  have hempty : l.incoming x = [] := by
    cases hin : l.incoming x with
    | nil => rfl
    | cons m rest =>
      have hnone := hreceived m
      rw [step, ite_eq_right_iff] at hnone
      exact absurd (hnone ⟨hopen.1, by rw [hin]; rfl⟩) nofun
  exact ⟨hempty, hopen.1, hopen.2 hempty⟩

/-- An end waits to send only where both ends are open and the direction has no room. -/
theorem send_blocked (hsent : l.step M x (.sent m) = none)
    (hfailed : l.step M x (.sendFailed m) = none) :
    l.closed x = false ∧ l.closed x.other = false ∧
      ¬ M.HasRoom x.other (l.incoming x.other).length := by
  have hopen : l.closed x = false ∧ l.closed x.other = false := by
    rw [step, ite_eq_right_iff] at hfailed
    have hnot : ¬ (M.faulty = true ∨ l.closed x = true ∨ l.closed x.other = true) :=
      fun h => absurd (hfailed h) nofun
    simp only [not_or, Bool.not_eq_true] at hnot
    exact hnot.2
  refine ⟨hopen.1, hopen.2, fun hroom => ?_⟩
  rw [step, ite_eq_right_iff] at hsent
  exact absurd (hsent ⟨hopen.1, hroom⟩) nofun

end Link

section Law

variable {α : Type*}

/-- The operations of one end in a run of the link. -/
def operationsOf (x : Side) (ops : List (Side × Operation α)) : List (Operation α) :=
  ops.filterMap fun e => if e.1 = x then some e.2 else none

/-- What a list of operations has sent. -/
def sentMessages (ops : List (Operation α)) : List α := ops.filterMap Operation.sent?

/-- What a list of operations has received. -/
def receivedMessages (ops : List (Operation α)) : List α := ops.filterMap Operation.received?

/-- The messages that the sends of a list of operations were called with. -/
def attemptedMessages (ops : List (Operation α)) : List α := ops.filterMap Operation.attempted?

/-- What is sent in two parts of a run. -/
@[simp] theorem sentMessages_append (a b : List (Operation α)) :
    sentMessages (a ++ b) = sentMessages a ++ sentMessages b := List.filterMap_append

/-- What is received in two parts of a run. -/
@[simp] theorem receivedMessages_append (a b : List (Operation α)) :
    receivedMessages (a ++ b) = receivedMessages a ++ receivedMessages b := List.filterMap_append

/-- What is attempted in two parts of a run. -/
@[simp] theorem attemptedMessages_append (a b : List (Operation α)) :
    attemptedMessages (a ++ b) = attemptedMessages a ++ attemptedMessages b :=
  List.filterMap_append

/-- One more operation, of one side. -/
theorem operationsOf_concat (x y : Side) (ops : List (Side × Operation α)) (o : Operation α) :
    operationsOf x (ops ++ [(y, o)]) = operationsOf x ops ++ if y = x then [o] else [] := by
  unfold operationsOf
  rw [List.filterMap_append]
  by_cases h : y = x <;> simp [h]

variable [DecidableEq α] {M : Medium}

/-- The law of the link: what the other end has sent is what this end has received, followed by
what is on its way, and an end is closed once it has performed a close. -/
theorem delivered {ops : List (Side × Operation α)} {l : Link α}
    (h : exec (Link.act M) {} ops = some l) (x : Side) :
    sentMessages (operationsOf x.other ops) =
        receivedMessages (operationsOf x ops) ++ l.incoming x ∧
      (l.closed x = true ↔ .closed ∈ operationsOf x ops) := by
  refine exec_invariant (I := fun ops l =>
    ∀ x, sentMessages (operationsOf x.other ops) =
        receivedMessages (operationsOf x ops) ++ l.incoming x ∧
      (l.closed x = true ↔ .closed ∈ operationsOf x ops)) ?_ ?_ h x
  · intro x
    exact ⟨rfl, by simp [operationsOf]⟩
  · rintro ops l ⟨y, o⟩ l' ih hstep x
    obtain ⟨ihq, ihc⟩ := ih x
    change l.step M y o = some l' at hstep
    rw [operationsOf_concat, operationsOf_concat]
    -- The end that acts is `x` or the other one; each operation changes what it says.
    rcases eq_or_ne y x with rfl | hy
    · rw [if_pos rfl, if_neg (Side.ne_other y), List.append_nil]
      cases o with
      | sent m =>
        obtain ⟨-, hcl, hin, -⟩ := Link.step_sent hstep
        rw [hcl, hin, receivedMessages_append, ihq]
        exact ⟨by simp [receivedMessages, Operation.received?], by simp [ihc]⟩
      | sendFailed m =>
        obtain ⟨rfl, -⟩ := Link.step_sendFailed hstep
        rw [receivedMessages_append, ihq]
        exact ⟨by simp [receivedMessages, Operation.received?], by simp [ihc]⟩
      | received m =>
        obtain ⟨-, hcl, hin, -⟩ := Link.step_received hstep
        rw [hcl, receivedMessages_append, ihq, hin]
        exact ⟨by simp [receivedMessages, Operation.received?], by simp [ihc]⟩
      | receiveFailed =>
        obtain ⟨rfl, -⟩ := Link.step_receiveFailed hstep
        rw [receivedMessages_append, ihq]
        exact ⟨by simp [receivedMessages, Operation.received?], by simp [ihc]⟩
      | closed =>
        obtain ⟨hin, hcl⟩ := Link.step_closed hstep
        rw [hcl, hin, receivedMessages_append, ihq]
        exact ⟨by simp [receivedMessages, Operation.received?], by simp⟩
    · have hyo : y = x.other := by cases x <;> cases y <;> first | rfl | exact absurd rfl hy
      subst hyo
      rw [if_pos rfl, if_neg (Side.other_ne x), List.append_nil]
      cases o with
      | sent m =>
        obtain ⟨-, hcl, -, hin⟩ := Link.step_sent hstep
        rw [Side.other_other] at hin
        rw [hcl, hin, sentMessages_append, ihq]
        exact ⟨by simp [sentMessages, Operation.sent?], ihc⟩
      | sendFailed m =>
        obtain ⟨rfl, -⟩ := Link.step_sendFailed hstep
        rw [sentMessages_append, ihq]
        exact ⟨by simp [sentMessages, Operation.sent?], ihc⟩
      | received m =>
        obtain ⟨-, hcl, -, hin⟩ := Link.step_received hstep
        rw [Side.other_other] at hin
        rw [hcl, hin, sentMessages_append, ihq]
        exact ⟨by simp [sentMessages, Operation.sent?], ihc⟩
      | receiveFailed =>
        obtain ⟨rfl, -⟩ := Link.step_receiveFailed hstep
        rw [sentMessages_append, ihq]
        exact ⟨by simp [sentMessages, Operation.sent?], ihc⟩
      | closed =>
        obtain ⟨hin, hcl⟩ := Link.step_closed hstep
        rw [hcl, hin, sentMessages_append, ihq, Function.update_of_ne (Side.ne_other x)]
        exact ⟨by simp [sentMessages, Operation.sent?], ihc⟩

end Law

end DSEmu.Duplex
