import DSEmu.Library.Duplex
import DSEmu.Library.Framing

/-!
# A link of two byte streams

A `Link` carries messages. What two ends really have are two streams, in which a message travels as
a frame: the network takes a frame in pieces, so that an end may fail in the middle of it, and what
is behind the next frame is not looked at. `ByteLink.step` is one step of one end: the network takes
a piece (`wrote`), or an operation is over (`finished`).

A `ByteLink` carries a `Link` (`Carries`) where the bytes on their way to an end are the frames of
the messages on their way to it, followed by what there is of one that is being sent. Every
operation on a stream that carries a link is the same operation on the link, over a medium that may
fail, and a piece changes nothing there. This is so as long as an end sends nothing after a send
that failed, since the cut frame stays in the stream, and receives nothing after a receive that
failed, since the bytes that it has read are gone.
-/

namespace DSEmu.Duplex

open Function

/-- A step of one end of a link of bytes. -/
inductive ByteOperation (α B : Type*) where
  /-- the network takes some bytes of the frame of a message that the end is sending -/
  | wrote (m : α) (piece : List B)
  /-- an operation is over; `lost` is the number of bytes that a receive has read that fails -/
  | finished (operation : Operation α) (lost : ℕ)
  deriving DecidableEq, Repr

/-- The bytes on their way to each end, what the network has taken of the frame that each end is
sending, whether each end has been closed, and whether a send or a receive of it has failed. -/
structure ByteLink (B : Type*) where
  incoming : Side → List B := fun _ => []
  written : Side → List B := fun _ => []
  closed : Side → Bool := fun _ => false
  sendFailed : Side → Bool := fun _ => false
  receiveFailed : Side → Bool := fun _ => false

/-- Where the network may fail an operation at any time, and takes any number of messages. -/
def unreliable : Medium := { faulty := true }

theorem faulty_unreliable : unreliable.faulty = true := rfl

namespace ByteLink

variable {α B : Type} (F : Framing B α) (encode : α → Option (List B))

/-- One step of the end `x`. -/
def step [DecidableEq α] [DecidableEq B] (b : ByteLink B) (x : Side) :
    ByteOperation α B → Option (ByteLink B)
  | .wrote m piece => do
    let frame ← encode m
    if b.closed x = false ∧ b.written x ++ piece <+: frame ∧
        (b.written x ++ piece).length < frame.length then
      some { b with
        incoming := update b.incoming x.other (b.incoming x.other ++ piece)
        written := update b.written x (b.written x ++ piece) }
    else none
  | .finished (.sent m) _ => do
    let frame ← encode m
    if b.closed x = false ∧ b.written x <+: frame then
      some { b with
        incoming := update b.incoming x.other
          (b.incoming x.other ++ frame.drop (b.written x).length)
        written := update b.written x [] }
    else none
  | .finished (.sendFailed _) _ =>
    some { b with
      written := update b.written x []
      sendFailed := update b.sendFailed x true }
  | .finished (.received m) _ =>
    if b.closed x = false ∧ (F.next (b.incoming x)).1 = some m then
      some { b with incoming := update b.incoming x (F.next (b.incoming x)).2 }
    else none
  | .finished .receiveFailed lost =>
    some { b with
      incoming := update b.incoming x ((b.incoming x).drop lost)
      receiveFailed := update b.receiveFailed x true }
  | .finished .closed _ => some { b with closed := update b.closed x true }

/-- The frame of a message. -/
def frameOf (m : α) : List B := (encode m).getD []

/-- A frame is cut off, or there is nothing of it. -/
def CutOff (cut : List B) : Prop :=
  cut = [] ∨ ∃ frame m, F.IsFrame frame m ∧ cut <+: frame ∧ cut.length < frame.length

/-- A message that is in its own frame. -/
def Framed (m : α) : Prop := ∃ frame, encode m = some frame ∧ F.IsFrame frame m

/-- The bytes to an end are the frames of the messages to it, and what there is of another one. -/
structure Carries (b : ByteLink B) (l : Link α) : Prop where
  closed : b.closed = l.closed
  framed : ∀ x, ∀ m ∈ l.incoming x, Framed F encode m
  incoming : ∀ x, b.receiveFailed x = false → ∃ cut, CutOff F cut ∧
    b.incoming x = (l.incoming x).flatMap (frameOf encode) ++ cut ∧
    (b.sendFailed x.other = false → cut = b.written x.other)

variable {F encode} {b b' : ByteLink B} {l : Link α} {x : Side} {m : α} {cut : List B} {k : ℕ}

theorem carries_initial : Carries F encode {} {} where
  closed := rfl
  framed _ _ hm := absurd hm List.not_mem_nil
  incoming _ _ := ⟨[], Or.inl rfl, rfl, fun _ => rfl⟩

/-- Nothing is received of a frame that is cut off. -/
theorem CutOff.next (h : CutOff F cut) : F.next cut = (none, []) := by
  rcases h with rfl | ⟨frame, m, hframe, hprefix, hlt⟩
  · exact Framing.next_short F.headerLength_pos
  · rw [List.prefix_iff_eq_take.mp hprefix]
    exact hframe.next_cut hlt

theorem eq_other_of_ne {y : Side} (h : y ≠ x) : y = x.other := by
  cases x with
  | left =>
    cases y with
    | left => exact absurd rfl h
    | right => rfl
  | right =>
    cases y with
    | left => rfl
    | right => exact absurd rfl h

/-- The bytes that an end gets from its peer, where these and nothing else of the direction have
changed. -/
theorem Carries.toOther (h : Carries F encode b l) {l' : Link α} (hclosed : b'.closed = l'.closed)
    (hsame : l'.incoming x = l.incoming x) (hbytes : b'.incoming x = b.incoming x)
    (hwritten : b'.written x.other = b.written x.other)
    (hsend : b'.sendFailed x.other = b.sendFailed x.other)
    (hreceive : b'.receiveFailed x = b.receiveFailed x)
    (hframed : ∀ m ∈ l'.incoming x.other, Framed F encode m)
    (hother : b'.receiveFailed x.other = false → ∃ cut, CutOff F cut ∧
      b'.incoming x.other = (l'.incoming x.other).flatMap (frameOf encode) ++ cut ∧
      (b'.sendFailed x = false → cut = b'.written x)) :
    Carries F encode b' l' where
  closed := hclosed
  framed y := by
    by_cases hy : y = x
    · rw [hy, hsame]
      exact h.framed x
    · rw [eq_other_of_ne hy]
      exact hframed
  incoming y hy := by
    by_cases hyx : y = x
    · subst hyx
      rw [hsame, hbytes, hwritten, hsend]
      exact h.incoming y (hreceive ▸ hy)
    · obtain rfl := eq_other_of_ne hyx
      rw [Side.other_other]
      exact hother hy

variable [DecidableEq α] [DecidableEq B]

/-- The network takes a piece of a frame. -/
theorem Carries.wrote (h : Carries F encode b l) (hsend : b.sendFailed x = false)
    (hm : ∀ frame, encode m = some frame → F.IsFrame frame m) {piece : List B}
    (hstep : b.step F encode x (.wrote m piece) = some b') : Carries F encode b' l := by
  rw [step, Option.bind_eq_bind, Option.bind_eq_some_iff] at hstep
  obtain ⟨frame, hframe, hstep⟩ := hstep
  rw [Option.ite_none_right_eq_some, Option.some.injEq] at hstep
  obtain ⟨⟨-, hprefix, hlt⟩, rfl⟩ := hstep
  refine h.toOther (x := x) h.closed rfl ?_ ?_ rfl rfl (h.framed x.other) fun hother => ?_
  · exact update_of_ne (Side.ne_other x) _ _
  · exact update_of_ne (Side.other_ne x) _ _
  · obtain ⟨cut, -, hbytes, hcut⟩ := h.incoming x.other hother
    rw [Side.other_other] at hcut
    have hwritten : cut = b.written x := hcut hsend
    refine ⟨b.written x ++ piece, Or.inr ⟨frame, m, hm frame hframe, hprefix, hlt⟩, ?_, fun _ => ?_⟩
    · calc update b.incoming x.other (b.incoming x.other ++ piece) x.other
          = b.incoming x.other ++ piece := update_self _ _ _
        _ = (l.incoming x.other).flatMap (frameOf encode) ++ (b.written x ++ piece) := by
          rw [hbytes, hwritten, List.append_assoc]
    · exact (update_self x (b.written x ++ piece) b.written).symm

/-- The last bytes of a frame are taken. -/
theorem Carries.sent (h : Carries F encode b l) (hsend : b.sendFailed x = false)
    (hm : ∀ frame, encode m = some frame → F.IsFrame frame m)
    (hstep : b.step F encode x (.finished (.sent m) k) = some b') :
    ∃ l', l.step unreliable x (.sent m) = some l' ∧ Carries F encode b' l' := by
  rw [step, Option.bind_eq_bind, Option.bind_eq_some_iff] at hstep
  obtain ⟨frame, hframe, hstep⟩ := hstep
  rw [Option.ite_none_right_eq_some, Option.some.injEq] at hstep
  obtain ⟨⟨hopen, hprefix⟩, rfl⟩ := hstep
  have hroom : unreliable.HasRoom x.other (l.incoming x.other).length := by
    intro c hc
    exact absurd hc (Option.not_mem_none c)
  have hopen' : l.closed x = false := h.closed ▸ hopen
  have hlink : l.step unreliable x (.sent m) = some { l with
      incoming := update l.incoming x.other (l.incoming x.other ++ [m]) } := by
    rw [Link.step, if_pos ⟨hopen', hroom⟩]
  refine ⟨_, hlink, ?_⟩
  refine h.toOther (x := x) h.closed ?_ ?_ ?_ rfl rfl ?_ fun hother => ?_
  · exact update_of_ne (Side.ne_other x) _ _
  · exact update_of_ne (Side.ne_other x) _ _
  · exact update_of_ne (Side.other_ne x) _ _
  · have hnew : update l.incoming x.other (l.incoming x.other ++ [m]) x.other =
        l.incoming x.other ++ [m] := update_self _ _ _
    intro m' hm'
    have hmem : m' ∈ l.incoming x.other ++ [m] := hnew.subst hm'
    rcases List.mem_append.mp hmem with hold | hlast
    · exact h.framed x.other m' hold
    · obtain rfl := List.mem_singleton.mp hlast
      exact ⟨frame, hframe, hm frame hframe⟩
  · obtain ⟨cut, -, hbytes, hcut⟩ := h.incoming x.other hother
    rw [Side.other_other] at hcut
    have hwritten : cut = b.written x := hcut hsend
    have hrest : b.written x ++ frame.drop (b.written x).length = frameOf encode m := by
      obtain ⟨rest, hrest⟩ := hprefix
      rw [← hrest, List.drop_left, hrest, frameOf, hframe]
      rfl
    refine ⟨[], Or.inl rfl, ?_, fun _ => ?_⟩
    case refine_2 => exact (update_self x [] b.written).symm
    calc update b.incoming x.other (b.incoming x.other ++ frame.drop (b.written x).length) x.other
        = b.incoming x.other ++ frame.drop (b.written x).length := update_self _ _ _
      _ = (l.incoming x.other).flatMap (frameOf encode) ++ frameOf encode m := by
        rw [hbytes, hwritten, List.append_assoc, hrest]
      _ = (l.incoming x.other ++ [m]).flatMap (frameOf encode) ++ [] := by
        rw [List.flatMap_append, List.flatMap_singleton, List.append_nil]
      _ = (update l.incoming x.other (l.incoming x.other ++ [m]) x.other).flatMap
            (frameOf encode) ++ [] := by rw [update_self]

/-- A send fails, and leaves what there is of its frame. -/
theorem Carries.sendFailed (h : Carries F encode b l)
    (hstep : b.step F encode x (.finished (.sendFailed m) k) = some b') :
    ∃ l', l.step unreliable x (.sendFailed m) = some l' ∧ Carries F encode b' l' := by
  rw [step, Option.some.injEq] at hstep
  subst hstep
  have hlink : l.step unreliable x (.sendFailed m) = some l := by
    rw [Link.step, if_pos (Or.inl faulty_unreliable)]
  refine ⟨l, hlink, ?_⟩
  refine h.toOther (x := x) h.closed rfl rfl ?_ ?_ rfl (h.framed x.other) fun hother => ?_
  · exact update_of_ne (Side.other_ne x) _ _
  · exact update_of_ne (Side.other_ne x) _ _
  · obtain ⟨cut, hcutOff, hbytes, -⟩ := h.incoming x.other hother
    refine ⟨cut, hcutOff, hbytes, fun hfailed => ?_⟩
    have htrue : update b.sendFailed x true x = true := update_self _ _ _
    exact absurd (htrue.symm.trans hfailed) Bool.noConfusion

/-- The next frame is received. -/
theorem Carries.received (h : Carries F encode b l) (hreceive : b.receiveFailed x = false)
    (hstep : b.step F encode x (.finished (.received m) k) = some b') :
    ∃ l', l.step unreliable x (.received m) = some l' ∧ Carries F encode b' l' := by
  rw [step, Option.ite_none_right_eq_some, Option.some.injEq] at hstep
  obtain ⟨⟨hopen, hnext⟩, rfl⟩ := hstep
  obtain ⟨cut, hcutOff, hbytes, hcut⟩ := h.incoming x hreceive
  have hopen' : l.closed x = false := h.closed ▸ hopen
  cases hmessages : l.incoming x with
  | nil =>
    -- there is no whole frame
    rw [hbytes, hmessages, List.flatMap_nil, List.nil_append, hcutOff.next] at hnext
    contradiction
  | cons m' rest =>
    obtain ⟨frame, hencode, hframe⟩ := h.framed x m' (hmessages ▸ List.mem_cons_self)
    have hfirst : F.next (b.incoming x) = (some m', rest.flatMap (frameOf encode) ++ cut) := by
      rw [hbytes, hmessages, List.flatMap_cons, List.append_assoc, frameOf, hencode]
      exact hframe.next _
    have hsame : m' = m := Option.some.inj ((congrArg Prod.fst hfirst).symm.trans hnext)
    subst hsame
    have hhead : (l.incoming x).head? = some m' := by rw [hmessages]; rfl
    have hlink : l.step unreliable x (.received m') = some { l with
        incoming := update l.incoming x (l.incoming x).tail } := by
      rw [Link.step, if_pos ⟨hopen', hhead⟩]
    refine ⟨_, hlink, ⟨h.closed, fun y m hm => ?_, fun y hy => ?_⟩⟩
    · by_cases hyx : y = x
      · subst hyx
        have hnew : update l.incoming y (l.incoming y).tail y = rest := by
          rw [update_self, hmessages]
          rfl
        have hmem : m ∈ rest := hnew.subst hm
        exact h.framed y m (hmessages ▸ List.mem_cons_of_mem m' hmem)
      · have hnew : update l.incoming x (l.incoming x).tail y = l.incoming y := update_of_ne hyx _ _
        exact h.framed y m (hnew.subst hm)
    · by_cases hyx : y = x
      · subst hyx
        refine ⟨cut, hcutOff, ?_, hcut⟩
        calc update b.incoming y (F.next (b.incoming y)).2 y
            = rest.flatMap (frameOf encode) ++ cut := by rw [update_self, hfirst]
          _ = (update l.incoming y (l.incoming y).tail y).flatMap (frameOf encode) ++ cut := by
            rw [update_self, hmessages]
            rfl
      · obtain ⟨cut', hcutOff', hbytes', hcut'⟩ := h.incoming y hy
        refine ⟨cut', hcutOff', ?_, hcut'⟩
        calc update b.incoming x (F.next (b.incoming x)).2 y
            = (l.incoming y).flatMap (frameOf encode) ++ cut' := by rw [update_of_ne hyx, hbytes']
          _ = (update l.incoming x (l.incoming x).tail y).flatMap (frameOf encode) ++ cut' := by
            rw [update_of_ne hyx]

/-- A receive fails. -/
theorem Carries.receiveFailed (h : Carries F encode b l)
    (hstep : b.step F encode x (.finished .receiveFailed k) = some b') :
    ∃ l', l.step unreliable x .receiveFailed = some l' ∧ Carries F encode b' l' := by
  rw [step, Option.some.injEq] at hstep
  subst hstep
  have hlink : l.step unreliable x .receiveFailed = some l := by
    rw [Link.step, if_pos (Or.inl faulty_unreliable)]
  refine ⟨l, hlink, ⟨h.closed, h.framed, fun y hy => ?_⟩⟩
  by_cases hyx : y = x
  · subst hyx
    have htrue : update b.receiveFailed y true y = true := update_self _ _ _
    exact absurd (htrue.symm.trans hy) Bool.noConfusion
  · have hsame : update b.receiveFailed x true y = b.receiveFailed y := update_of_ne hyx _ _
    obtain ⟨cut, hcutOff, hbytes, hcut⟩ := h.incoming y (hsame.symm.trans hy)
    refine ⟨cut, hcutOff, ?_, hcut⟩
    calc update b.incoming x ((b.incoming x).drop k) y
        = b.incoming y := update_of_ne hyx _ _
      _ = (l.incoming y).flatMap (frameOf encode) ++ cut := hbytes

/-- An end is closed. -/
theorem Carries.closes (h : Carries F encode b l)
    (hstep : b.step F encode x (.finished .closed k) = some b') :
    ∃ l', l.step unreliable x .closed = some l' ∧ Carries F encode b' l' := by
  rw [step, Option.some.injEq] at hstep
  subst hstep
  refine ⟨_, rfl, ⟨?_, h.framed, h.incoming⟩⟩
  exact congrArg (fun c => update c x true) h.closed

/-- An operation that is over on the streams is over on the link. -/
theorem Carries.finished {o : Operation α} (h : Carries F encode b l)
    (hsend : ∀ m, o = .sent m →
      b.sendFailed x = false ∧ ∀ frame, encode m = some frame → F.IsFrame frame m)
    (hreceive : ∀ m, o = .received m → b.receiveFailed x = false)
    (hstep : b.step F encode x (.finished o k) = some b') :
    ∃ l', l.step unreliable x o = some l' ∧ Carries F encode b' l' := by
  cases o with
  | sent m => exact h.sent (hsend m rfl).1 (hsend m rfl).2 hstep
  | sendFailed m => exact h.sendFailed hstep
  | received m => exact h.received (hreceive m rfl) hstep
  | receiveFailed => exact h.receiveFailed hstep
  | closed => exact h.closes hstep

/-- Whether the operations of an end have failed is said by them alone. -/
theorem sendFailed_step {o : ByteOperation α B} (hstep : b.step F encode x o = some b') :
    b'.sendFailed = b.sendFailed ∨
      ∃ m k, o = .finished (.sendFailed m) k ∧ b'.sendFailed = update b.sendFailed x true := by
  unfold step at hstep
  split at hstep
  case h_3 m k =>
    exact Or.inr ⟨m, k, rfl, congrArg ByteLink.sendFailed (Option.some.inj hstep).symm⟩
  all_goals
    left
    simp only [Option.bind_eq_bind, Option.bind_eq_some_iff, Option.ite_none_right_eq_some,
      Option.some.injEq] at hstep
  case h_1 => obtain ⟨_, _, _, rfl⟩ := hstep; rfl
  case h_2 => obtain ⟨_, _, _, rfl⟩ := hstep; rfl
  case h_4 => obtain ⟨_, rfl⟩ := hstep; rfl
  case h_5 => obtain rfl := hstep; rfl
  case h_6 => obtain rfl := hstep; rfl

theorem receiveFailed_step {o : ByteOperation α B} (hstep : b.step F encode x o = some b') :
    b'.receiveFailed = b.receiveFailed ∨
      ∃ k, o = .finished .receiveFailed k ∧ b'.receiveFailed = update b.receiveFailed x true := by
  unfold step at hstep
  split at hstep
  case h_5 k => exact Or.inr ⟨k, rfl, congrArg ByteLink.receiveFailed (Option.some.inj hstep).symm⟩
  all_goals
    left
    simp only [Option.bind_eq_bind, Option.bind_eq_some_iff, Option.ite_none_right_eq_some,
      Option.some.injEq] at hstep
  case h_1 => obtain ⟨_, _, _, rfl⟩ := hstep; rfl
  case h_2 => obtain ⟨_, _, _, rfl⟩ := hstep; rfl
  case h_3 => obtain rfl := hstep; rfl
  case h_4 => obtain ⟨_, rfl⟩ := hstep; rfl
  case h_6 => obtain rfl := hstep; rfl

end ByteLink

end DSEmu.Duplex
