import Mathlib.Data.List.Basic

/-!
# Readers that take their value off the front of a list

A reader over inputs `S` is a `StateT S (Except E)` computation, and `left : S → List B` is what an
input still holds. `Reads left p bs x` says that `p`, wherever `bs` is the front of what is left,
succeeds with `x` and leaves the rest; `ReadsToEnd` is the same where `bs` is all that is left,
which is what a reader of "the remaining bytes" needs. The rules below give a reader's specification
from those of its parts, along `pure`, `bind`, and a loop (`Reads.foldlM`), so that a decoder
written with `do` is specified by one rule per line.

`Consumes left p R` is the other direction: where `p` succeeds, what it has taken off the front and
the value that it returns are related by `R`. It has the same rules, and so has `Keeps`: a part of
the input that `p` leaves alone.
-/

namespace DSEmu

variable {S B E X Y Z : Type}

/-- `p` reads `x` off the front `bs` of what is left, and nothing more. -/
def Reads (left : S → List B) (p : StateT S (Except E) X) (bs : List B) (x : X) : Prop :=
  ∀ s rest, left s = bs ++ rest → ∃ t, p.run s = .ok (x, t) ∧ left t = rest

/-- `p` reads `x` off `bs` where that is all that is left. -/
def ReadsToEnd (left : S → List B) (p : StateT S (Except E) X) (bs : List B) (x : X) : Prop :=
  ∀ s, left s = bs → ∃ t, p.run s = .ok (x, t) ∧ left t = []

variable {left : S → List B} {p : StateT S (Except E) X} {q : X → StateT S (Except E) Y}
  {bs cs : List B} {x : X} {y : Y}

/-- A program that does not throw goes on. -/
theorem ok_bind (x : X) (f : X → Except E Y) : (.ok x >>= f) = f x := rfl

/-- A computation after a run of its first part that succeeds. -/
theorem run_bind_of_ok {s t : S} (h : p.run s = .ok (x, t)) : (p >>= q).run s = (q x).run t := by
  rw [StateT.run_bind, h]
  rfl

/-- Reading nothing. -/
theorem Reads.pure (x : X) : Reads left (pure x : StateT S (Except E) X) [] x :=
  fun s _ h => ⟨s, rfl, h⟩

/-- Reading one thing after another. -/
theorem Reads.bind (hp : Reads left p bs x) (hq : Reads left (q x) cs y) :
    Reads left (p >>= q) (bs ++ cs) y := by
  intro s rest h
  obtain ⟨t, ht, hleft⟩ := hp s (cs ++ rest) (by rw [h, List.append_assoc])
  obtain ⟨u, hu, hrest⟩ := hq t rest hleft
  exact ⟨u, (run_bind_of_ok ht).trans hu, hrest⟩

/-- A second part that takes nothing off the front. -/
theorem Reads.bind_nil (hp : Reads left p bs x) (hq : Reads left (q x) [] y) :
    Reads left (p >>= q) bs y := by
  have hbind := hp.bind hq
  rwa [List.append_nil] at hbind

/-- Reading one thing, and then the last one. -/
theorem Reads.bindToEnd (hp : Reads left p bs x) (hq : ReadsToEnd left (q x) cs y) :
    ReadsToEnd left (p >>= q) (bs ++ cs) y := by
  intro s h
  obtain ⟨t, ht, hleft⟩ := hp s cs h
  obtain ⟨u, hu, hrest⟩ := hq t hleft
  exact ⟨u, (run_bind_of_ok ht).trans hu, hrest⟩

/-- Reading the last thing, and then no more. -/
theorem ReadsToEnd.bind (hp : ReadsToEnd left p bs x) (hq : Reads left (q x) [] y) :
    ReadsToEnd left (p >>= q) bs y := by
  intro s h
  obtain ⟨t, ht, hleft⟩ := hp s h
  obtain ⟨u, hu, hrest⟩ := hq t [] hleft
  exact ⟨u, (run_bind_of_ok ht).trans hu, hrest⟩

/-- What reads its bytes before any others reads them at the end. -/
theorem Reads.toEnd (hp : Reads left p bs x) : ReadsToEnd left p bs x :=
  fun s h => hp s [] (by rw [h, List.append_nil])

/-- The value that is returned is a function of the value that is read. -/
theorem Reads.bindPure (f : X → Y) (hp : Reads left p bs x) :
    Reads left (do let v ← p; return f v) bs (f x) :=
  hp.bind_nil (Reads.pure (f x))

/-- A loop that reads one element in each round and folds it into the value. -/
theorem Reads.foldlM {p : StateT S (Except E) B} (f : X → B → X)
    (hp : ∀ b, Reads left p [b] b) (rounds : List Z) (bs : List B) (x : X)
    (hlength : rounds.length = bs.length) :
    Reads left (rounds.foldlM (fun v _ => do let b ← p; return f v b) x) bs (bs.foldl f x) := by
  induction bs generalizing rounds x with
  | nil =>
    rw [List.length_nil, List.length_eq_zero_iff] at hlength
    rw [hlength, List.foldlM_nil]
    exact Reads.pure x
  | cons b bs ih =>
    obtain ⟨round, rounds, rfl⟩ := List.exists_cons_of_length_eq_add_one hlength
    rw [List.length_cons, List.length_cons, Nat.add_right_cancel_iff] at hlength
    rw [List.foldlM_cons]
    exact ((hp b).bindPure (f x)).bind (ih rounds (f x b) hlength)

/-- Wherever `p` succeeds, it has taken some `bs` off the front of what was left, and `R` holds of
these and of the value. -/
def Consumes (left : S → List B) (p : StateT S (Except E) X) (R : List B → X → Prop) : Prop :=
  ∀ s x t, p.run s = .ok (x, t) → ∃ bs, left s = bs ++ left t ∧ R bs x

section Consumes

variable {R R' : List B → X → Prop} {Q : X → List B → Y → Prop}

/-- The last state and value of the first part of a computation that succeeds. -/
theorem run_bind_eq_ok {s u : S} (h : (p >>= q).run s = .ok (y, u)) :
    ∃ x t, p.run s = .ok (x, t) ∧ (q x).run t = .ok (y, u) := by
  rw [StateT.run_bind] at h
  cases hp : p.run s with
  | error error =>
    rw [hp] at h
    exact absurd h nofun
  | ok xt =>
    rw [hp] at h
    exact ⟨xt.1, xt.2, rfl, h⟩

/-- A weaker relation. -/
theorem Consumes.mono (hp : Consumes left p R) (hR : ∀ bs x, R bs x → R' bs x) :
    Consumes left p R' := by
  intro s x t h
  obtain ⟨bs, hbs, hx⟩ := hp s x t h
  exact ⟨bs, hbs, hR bs x hx⟩

/-- A value costs no bytes. -/
theorem Consumes.pure (left : S → List B) (x : X) :
    Consumes left (pure x : StateT S (Except E) X) fun bs y => bs = [] ∧ y = x := by
  intro s y t h
  obtain ⟨rfl, rfl⟩ := Prod.mk.inj (Except.ok.inj h)
  exact ⟨[], rfl, rfl, rfl⟩

/-- A program that throws has no result to speak of. -/
theorem Consumes.throw (error : E) : Consumes left (throw error : StateT S (Except E) X) R := by
  intro s x t h
  exact absurd h nofun

/-- What two programs consume, one after the other. -/
theorem Consumes.bind (hp : Consumes left p R) (hq : ∀ x, Consumes left (q x) (Q x)) :
    Consumes left (p >>= q) fun bs y => ∃ cs ds x, bs = cs ++ ds ∧ R cs x ∧ Q x ds y := by
  intro s y u h
  obtain ⟨x, t, hx, hy⟩ := run_bind_eq_ok h
  obtain ⟨cs, hcs, hR⟩ := hp s x t hx
  obtain ⟨ds, hds, hQ⟩ := hq x t y u hy
  exact ⟨cs ++ ds, by rw [hcs, hds, List.append_assoc], cs, ds, x, rfl, hR, hQ⟩

/-- A loop that reads one element in each round takes one element for each round. -/
theorem Consumes.foldlM {p : StateT S (Except E) B} (f : X → B → X)
    (hp : Consumes left p fun bs b => bs = [b]) (rounds : List Z) (x : X) :
    Consumes left (rounds.foldlM (fun v _ => do let b ← p; return f v b) x) fun bs y =>
      bs.length = rounds.length ∧ y = bs.foldl f x := by
  induction rounds generalizing x with
  | nil =>
    refine (Consumes.pure left x).mono ?_
    rintro bs y ⟨rfl, rfl⟩
    exact ⟨rfl, rfl⟩
  | cons round rounds ih =>
    rw [List.foldlM_cons]
    have hround := hp.bind fun b => Consumes.pure (E := E) left (f x b)
    refine (hround.bind ih).mono ?_
    rintro bs y ⟨cs, ds, v, rfl, ⟨_, _, b, rfl, rfl, rfl, rfl⟩, hlength, rfl⟩
    exact ⟨by rw [List.length_append, hlength, List.length_cons]; exact Nat.add_comm _ _, rfl⟩

end Consumes

/-- `p` leaves the part `part` of the input alone. -/
def Keeps {D : Type} (part : S → D) (p : StateT S (Except E) X) : Prop :=
  ∀ s x t, p.run s = .ok (x, t) → part t = part s

section Keeps

variable {D : Type} {part : S → D}

/-- A value leaves the state alone. -/
theorem Keeps.pure (part : S → D) (x : X) : Keeps part (pure x : StateT S (Except E) X) := by
  intro s y t h
  obtain ⟨-, rfl⟩ := Prod.mk.inj (Except.ok.inj h)
  rfl

/-- A program that throws leaves no state behind. -/
theorem Keeps.throw (error : E) : Keeps part (throw error : StateT S (Except E) X) := by
  intro s x t h
  exact absurd h nofun

/-- Two programs that leave a part of the state alone, one after the other. -/
theorem Keeps.bind (hp : Keeps part p) (hq : ∀ x, Keeps part (q x)) : Keeps part (p >>= q) := by
  intro s y u h
  obtain ⟨x, t, hx, hy⟩ := run_bind_eq_ok h
  exact (hq x t y u hy).trans (hp s x t hx)

/-- A loop whose body leaves a part of the state alone. -/
theorem Keeps.foldlM {p : X → Z → StateT S (Except E) X} (hp : ∀ x z, Keeps part (p x z))
    (rounds : List Z) (x : X) : Keeps part (rounds.foldlM p x) := by
  induction rounds generalizing x with
  | nil => exact Keeps.pure part x
  | cons round rounds ih =>
    rw [List.foldlM_cons]
    exact (hp x round).bind ih

end Keeps

end DSEmu
