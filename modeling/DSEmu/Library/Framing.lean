import Mathlib.Data.List.Forall2

/-!
# Frames on a stream

A `Framing` says how a stream is cut into frames: a header of a fixed length says how long the
payload is, or that the frame is not to be read at all, and a payload is decoded by itself. `next`
is what one receive makes of a stream that is all there, and `parse` is receiving until it fails.

The bytes of a stream do not come all at once. `left : S → List B` is what a receiver in a state is
still going to get, however it is cut into pieces. A receiver follows a framing (`Follows`) where on
every state it does with `left` what `next` does with a list, so that all receivers that follow one
framing agree on every stream (`Follows.received`). It is enough that the receiver is written over
an operation that reads an exact number of bytes (`ReadsExactly`).
-/

namespace DSEmu

/-- How a stream is cut into frames, and what a payload says. -/
structure Framing (B M : Type) where
  headerLength : ℕ
  headerLength_pos : 0 < headerLength
  /-- The length of the payload after a header, or `none` for a header that is rejected. -/
  payloadLength : List B → Option ℕ
  decode : List B → Option M

namespace Framing

variable {B M : Type} (F : Framing B M) {m : M} {bytes stream rest : List B}

/-- What one receive makes of a stream, and what it leaves. A stream that ends inside a frame is
used up. -/
def next (stream : List B) : Option M × List B :=
  if stream.length < F.headerLength then (none, [])
  else
    match F.payloadLength (stream.take F.headerLength) with
    | none => (none, stream.drop F.headerLength)
    | some count =>
      if (stream.drop F.headerLength).length < count then (none, [])
      else (F.decode ((stream.drop F.headerLength).take count),
        (stream.drop F.headerLength).drop count)

/-- `bytes` is one frame, with the message `m`. -/
def IsFrame (bytes : List B) (m : M) : Prop :=
  ∃ header payload, bytes = header ++ payload ∧ header.length = F.headerLength ∧
    F.payloadLength header = some payload.length ∧ F.decode payload = some m

variable {F}

/-- A frame is not empty. -/
theorem IsFrame.length_pos (h : F.IsFrame bytes m) : 0 < bytes.length := by
  obtain ⟨header, payload, rfl, hheader, -, -⟩ := h
  have := F.headerLength_pos
  rw [List.length_append]
  omega

/-- A stream without a whole header. -/
theorem next_short (h : stream.length < F.headerLength) : F.next stream = (none, []) := if_pos h

/-- What is received after a header. -/
theorem next_header {header : List B} (hheader : header.length = F.headerLength) (rest : List B) :
    F.next (header ++ rest) = match F.payloadLength header with
      | none => (none, rest)
      | some count =>
        if rest.length < count then (none, [])
        else (F.decode (rest.take count), rest.drop count) := by
  have hlong : ¬(header ++ rest).length < F.headerLength := by
    rw [List.length_append]
    omega
  rw [Framing.next, if_neg hlong, ← hheader, List.take_left, List.drop_left]

/-- A header that is rejected. -/
theorem next_rejected {header : List B} (hheader : header.length = F.headerLength)
    (hlength : F.payloadLength header = none) (rest : List B) :
    F.next (header ++ rest) = (none, rest) := by
  rw [next_header hheader, hlength]

/-- A header with a length, and as much payload or not. -/
theorem next_payload {header : List B} {count : ℕ} (hheader : header.length = F.headerLength)
    (hlength : F.payloadLength header = some count) (rest : List B) :
    F.next (header ++ rest) =
      if rest.length < count then (none, [])
      else (F.decode (rest.take count), rest.drop count) := by
  rw [next_header hheader, hlength]

/-- A frame at the front of a stream is received, and no more than the frame. -/
theorem IsFrame.next (h : F.IsFrame bytes m) (rest : List B) :
    F.next (bytes ++ rest) = (some m, rest) := by
  obtain ⟨header, payload, rfl, hheader, hlength, hdecode⟩ := h
  have hlong : ¬(payload ++ rest).length < payload.length := by
    rw [List.length_append]
    omega
  rw [List.append_assoc, next_payload hheader hlength, if_neg hlong, List.take_left, List.drop_left,
    hdecode]

/-- What is received is a frame at the front of the stream. -/
theorem exists_isFrame (h : F.next stream = (some m, rest)) :
    ∃ bytes, F.IsFrame bytes m ∧ stream = bytes ++ rest := by
  unfold Framing.next at h
  split_ifs at h with hshort
  · exact absurd h nofun
  split at h
  · exact absurd h nofun
  · rename_i count hlength
    split_ifs at h with hcut
    · exact absurd h nofun
    obtain ⟨hdecode, rfl⟩ := Prod.mk.inj h
    have htake : (stream.take F.headerLength).length = F.headerLength :=
      List.length_take_of_le (by omega)
    have hpayload : ((stream.drop F.headerLength).take count).length = count :=
      List.length_take_of_le (by omega)
    refine ⟨_, ⟨stream.take F.headerLength, (stream.drop F.headerLength).take count, rfl, htake, ?_,
      hdecode⟩, ?_⟩
    · rw [hpayload, hlength]
    · rw [List.append_assoc, List.take_append_drop, List.take_append_drop]

/-- A stream that ends inside a frame gives nothing, and is used up. -/
theorem IsFrame.next_cut (h : F.IsFrame bytes m) {n : ℕ} (hn : n < bytes.length) :
    F.next (bytes.take n) = (none, []) := by
  obtain ⟨header, payload, rfl, hheader, hlength, hdecode⟩ := h
  rw [List.length_append] at hn
  by_cases hshort : n < F.headerLength
  · apply next_short
    rw [List.length_take]
    omega
  · have htake : (header ++ payload).take n = header ++ payload.take (n - header.length) := by
      rw [List.take_append, List.take_of_length_le (by omega)]
    have hcut : (payload.take (n - header.length)).length < payload.length := by
      rw [List.length_take]
      omega
    rw [htake, next_payload hheader hlength, if_pos hcut]

/-- A receive leaves the end of the stream. -/
theorem next_suffix (stream : List B) : (F.next stream).2 <:+ stream := by
  unfold Framing.next
  split_ifs with hshort
  · exact List.nil_suffix
  · split
    · exact List.drop_suffix _ _
    · split_ifs
      · exact List.nil_suffix
      · exact (List.drop_suffix _ _).trans (List.drop_suffix _ _)

/-- A frame that is received has been taken off the stream. -/
theorem next_length_lt (h : F.next stream = (some m, rest)) : rest.length < stream.length := by
  obtain ⟨bytes, hframe, rfl⟩ := exists_isFrame h
  have := hframe.length_pos
  rw [List.length_append]
  omega

variable (F) in
/-- The messages of a stream up to the first receive that fails, and what is left where it is
called. -/
def parse (stream : List B) : List M × List B :=
  match _h : F.next stream with
  | (some m, rest) => (m :: (parse rest).1, (parse rest).2)
  | (none, _) => ([], stream)
termination_by stream.length
decreasing_by all_goals exact next_length_lt _h

/-- Parsing goes on behind a frame. -/
theorem parse_of_some (h : F.next stream = (some m, rest)) :
    F.parse stream = (m :: (F.parse rest).1, (F.parse rest).2) := by
  rw [parse]
  split
  · rename_i m' rest' h'
    obtain ⟨hm, rfl⟩ := Prod.mk.inj (h.symm.trans h')
    rw [Option.some.inj hm]
  · rename_i h'
    exact absurd (h.symm.trans h') nofun

/-- Parsing ends where there is no frame. -/
theorem parse_of_none (h : F.next stream = (none, rest)) : F.parse stream = ([], stream) := by
  rw [parse]
  split
  · rename_i h'
    exact absurd (h.symm.trans h') nofun
  · rfl

/-- A stream that is cut after `n` bytes gives the messages of the frames that lie in these, and
what is left after them is not a frame. -/
theorem parse_take {frames : List (List B)} {ms : List M} (h : List.Forall₂ F.IsFrame frames ms)
    (n : ℕ) : ∃ k ≤ frames.length, (frames.take k).flatten.length ≤ n ∧
      (k < frames.length → n < (frames.take (k + 1)).flatten.length) ∧
      (F.parse (frames.flatten.take n)).1 = ms.take k ∧
      F.next (F.parse (frames.flatten.take n)).2 = (none, []) := by
  induction h generalizing n with
  | nil =>
    have hnil : F.next [] = (none, []) := if_pos F.headerLength_pos
    refine ⟨0, Nat.le_refl 0, Nat.zero_le n, fun hlt => absurd hlt (Nat.lt_irrefl 0), ?_, ?_⟩
    all_goals rw [List.flatten_nil, List.take_nil, parse_of_none hnil]
    · rfl
    · exact hnil
  | @cons bytes m frames ms hframe _ ih =>
    by_cases hn : n < bytes.length
    · -- the cut is in the first frame
      have hcut : F.next ((bytes :: frames).flatten.take n) = (none, []) := by
        rw [List.flatten_cons, List.take_append_of_le_length (by omega)]
        exact hframe.next_cut hn
      refine ⟨0, Nat.zero_le _, Nat.zero_le n, fun _ => ?_, ?_, ?_⟩
      · rw [List.take_succ_cons, List.take_zero, List.flatten_cons, List.flatten_nil,
          List.append_nil]
        exact hn
      · rw [parse_of_none hcut]
        rfl
      · rw [parse_of_none hcut]
        exact hcut
    · obtain ⟨k, hk, hle, hlt, hparse, hnext⟩ := ih (n - bytes.length)
      have htake : (bytes :: frames).flatten.take n =
        bytes ++ frames.flatten.take (n - bytes.length) := by
        rw [List.flatten_cons, List.take_append, List.take_of_length_le (by omega)]
      rw [htake, parse_of_some (hframe.next _)]
      refine ⟨k + 1, Nat.succ_le_succ hk, ?_, fun h => ?_, ?_, hnext⟩
      · rw [List.take_succ_cons, List.flatten_cons, List.length_append]
        omega
      · have := hlt (Nat.lt_of_succ_lt_succ h)
        rw [List.take_succ_cons, List.flatten_cons, List.length_append]
        omega
      · rw [hparse, List.take_succ_cons]

end Framing

variable {S E B M X Y : Type}

/-- A computation after a first part that returns. -/
theorem bind_of_ok {p : EStateM E S X} {q : X → EStateM E S Y} {s t : S} {x : X}
    (h : p s = .ok x t) : (p >>= q) s = q x t := by
  show EStateM.bind p q s = _
  rw [EStateM.bind, h]

/-- A computation after a first part that throws. -/
theorem bind_of_error {p : EStateM E S X} {q : X → EStateM E S Y} {s t : S} {e : E}
    (h : p s = .error e t) : (p >>= q) s = .error e t := by
  show EStateM.bind p q s = _
  rw [EStateM.bind, h]

/-- Receiving again and again from `s` returns `ms` and ends in `t`. -/
inductive Received (receive : EStateM E S M) : S → List M → S → Prop
  | nil (s : S) : Received receive s [] s
  | cons {s t u : S} {m : M} {ms : List M} (h : receive s = .ok m t)
    (hrest : Received receive t ms u) :
    Received receive s (m :: ms) u

/-- The receives up to the first that fails are determined by the state. -/
theorem Received.unique {receive : EStateM E S M} {s t t' u u' : S} {ms ms' : List M} {e e' : E}
    (h : Received receive s ms t) (he : receive t = .error e u) (h' : Received receive s ms' t')
    (he' : receive t' = .error e' u') : ms = ms' ∧ t = t' := by
  induction h generalizing ms' with
  | nil s =>
    cases h' with
    | nil => exact ⟨rfl, rfl⟩
    | cons h => exact absurd (he.symm.trans h) nofun
  | cons h _ ih =>
    cases h' with
    | nil => exact absurd (h.symm.trans he') nofun
    | cons h' hrest' =>
      obtain ⟨rfl, rfl⟩ := EStateM.Result.ok.inj (h.symm.trans h')
      obtain ⟨rfl, rfl⟩ := ih he hrest'
      exact ⟨rfl, rfl⟩

/-- `receive` does with what is `left` what the framing does with a stream. -/
def Follows (F : Framing B M) (left : S → List B) (receive : EStateM E S M) : Prop :=
  ∀ s, (∀ m rest, F.next (left s) = (some m, rest) → ∃ t, receive s = .ok m t ∧ left t = rest) ∧
    ∀ rest, F.next (left s) = (none, rest) → ∃ e t, receive s = .error e t ∧ left t = rest

/-- Frames at the front of what is left are received. -/
theorem Follows.receives {F : Framing B M} {left : S → List B} {receive : EStateM E S M}
    (h : Follows F left receive) {frames : List (List B)} {ms : List M}
    (hframes : List.Forall₂ F.IsFrame frames ms) (rest : List B) {s : S}
    (hleft : left s = frames.flatten ++ rest) : ∃ t, Received receive s ms t ∧ left t = rest := by
  induction hframes generalizing s with
  | nil => exact ⟨s, .nil s, hleft⟩
  | @cons bytes m frames ms hframe _ ih =>
    rw [List.flatten_cons, List.append_assoc] at hleft
    obtain ⟨t, ht, htleft⟩ := (h s).1 m (frames.flatten ++ rest) (hleft ▸ hframe.next _)
    obtain ⟨u, hu, huleft⟩ := ih htleft
    exact ⟨u, .cons ht hu, huleft⟩

/-- What one receive returns is a frame at the front of what was left. -/
theorem Follows.frame {F : Framing B M} {left : S → List B} {receive : EStateM E S M}
    (h : Follows F left receive) {s t : S} {m : M} (hs : receive s = .ok m t) :
    ∃ bytes, F.IsFrame bytes m ∧ left s = bytes ++ left t := by
  cases hnext : F.next (left s) with
  | mk received rest =>
    cases received with
    | none =>
      obtain ⟨e, u, hu, -⟩ := (h s).2 rest hnext
      exact absurd (hs.symm.trans hu) nofun
    | some m' =>
      obtain ⟨u, hu, rfl⟩ := (h s).1 m' rest hnext
      obtain ⟨rfl, rfl⟩ := EStateM.Result.ok.inj (hs.symm.trans hu)
      exact Framing.exists_isFrame hnext

/-- Receiving until it fails is parsing what is left. -/
theorem Follows.received {F : Framing B M} {left : S → List B} {receive : EStateM E S M}
    (h : Follows F left receive) (s : S) :
    ∃ t, Received receive s (F.parse (left s)).1 t ∧ left t = (F.parse (left s)).2 ∧
      ∃ e u, receive t = .error e u ∧ left u = (F.next (F.parse (left s)).2).2 := by
  induction hstream : left s using Framing.parse.induct F generalizing s with
  | case1 stream m rest hnext ih =>
    obtain ⟨t, ht, hrest⟩ := (h s).1 m rest (hstream ▸ hnext)
    obtain ⟨u, hreceived, hleft, hfails⟩ := ih t hrest
    rw [Framing.parse_of_some hnext]
    exact ⟨u, .cons ht hreceived, hleft, hfails⟩
  | case2 stream rest hnext =>
    obtain ⟨e, u, hu, hrest⟩ := (h s).2 rest (hstream ▸ hnext)
    rw [Framing.parse_of_none hnext]
    exact ⟨s, .nil s, hstream, e, u, hu, hrest.trans (congrArg Prod.snd hnext).symm⟩

/-- What has been received is a list of frames at the front of what was left: each receive starts
where a frame starts. -/
theorem Follows.frames {F : Framing B M} {left : S → List B} {receive : EStateM E S M}
    (h : Follows F left receive) {s t : S} {ms : List M} (hreceived : Received receive s ms t) :
    ∃ frames, List.Forall₂ F.IsFrame frames ms ∧ left s = frames.flatten ++ left t := by
  induction hreceived with
  | nil s => exact ⟨[], .nil, rfl⟩
  | @cons s t u m ms hs _ ih =>
    obtain ⟨frames, hframes, hleft⟩ := ih
    obtain ⟨bytes, hframe, hstream⟩ := h.frame hs
    refine ⟨bytes :: frames, .cons hframe hframes, ?_⟩
    rw [hstream, hleft, List.flatten_cons, List.append_assoc]

/-- `read` takes exactly the number of bytes that it is asked for off what is left, or uses up what
is left and fails. -/
def ReadsExactly (left : S → List B) (read : ℕ → EStateM E S (List B)) : Prop :=
  ∀ count s,
    (count ≤ (left s).length →
      ∃ t, read count s = .ok ((left s).take count) t ∧ left t = (left s).drop count) ∧
    ((left s).length < count → ∃ e t, read count s = .error e t ∧ left t = [])

/-- The result of a loop that has `front` already and reads `count` more bytes from `s` on. -/
def Completes (left : S → List B) (s : S) (front : List B) (count : ℕ)
    (result : EStateM.Result E S (List B)) : Prop :=
  (count ≤ (left s).length →
    ∃ t, result = .ok (front ++ (left s).take count) t ∧ left t = (left s).drop count) ∧
  ((left s).length < count → ∃ e t, result = .error e t ∧ left t = [])

section Completes

variable {left : S → List B} {s t : S} {front piece : List B} {count : ℕ}
  {result : EStateM.Result E S (List B)}

/-- The loop has what it was asked for. -/
theorem Completes.done (s : S) (front : List B) :
    Completes left s front 0 (.ok front s : EStateM.Result E S (List B)) := by
  refine ⟨fun _ => ⟨s, ?_, rfl⟩, fun h => absurd h (Nat.not_lt_zero _)⟩
  rw [List.take_zero, List.append_nil]

/-- The stream has ended. -/
theorem Completes.ended (e : E) (hleft : left s = []) (hcount : 0 < count) :
    Completes left s front count (.error e s) := by
  refine ⟨fun h => ?_, fun _ => ⟨e, s, rfl, hleft⟩⟩
  rw [hleft, List.length_nil] at h
  omega

/-- A piece has come, and the loop goes on behind it. -/
theorem Completes.arrived (hleft : left s = piece ++ left t) (hpiece : piece.length ≤ count)
    (h : Completes left t (front ++ piece) (count - piece.length) result) :
    Completes left s front count result := by
  rw [Completes, hleft, List.length_append]
  refine ⟨fun hle => ?_, fun hlt => h.2 (by omega)⟩
  obtain ⟨u, hresult, hrest⟩ := h.1 (by omega)
  refine ⟨u, ?_, ?_⟩
  · rw [hresult, List.take_append, List.take_of_length_le hpiece, List.append_assoc]
  · rw [hrest, List.drop_append, List.drop_eq_nil_of_le hpiece, List.nil_append]

end Completes

end DSEmu
