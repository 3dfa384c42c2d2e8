import Mathlib.Data.List.Induction
import Mathlib.Data.Nat.Notation

/-!
# Machines given by a partial step function

A machine over states `S` and events `E` is a function `step : S → E → Option S`: the state after an
event, or `none` where the event is not enabled. `exec step s es` runs a list of events. The rules
below are all that the proofs about runs use: a run splits at any point (`exec_append`), its last
step can be taken off (`exec_concat_eq_some`), an invariant of the trace and the state that one step
preserves holds along every run (`exec_invariant`), or along every run whose steps meet a condition
(`exec_preserves_along`), and a run of a machine is a run of each component that its events act on
(`exec_project`).

Where every step decreases a potential, runs are finite (`exec_length_le`). Where only some events
move a part of the state, the last of them in a run has brought it where it is (`exec_last`).

`statesAfter` lists the states that a run passes right after the events that an observer selects.
-/

namespace DSEmu.Automaton

variable {S T E F : Type*}

/-- The state after the events `es` from `s`, or `none` if one of them is not enabled. -/
def exec (step : S → E → Option S) : S → List E → Option S
  | s, [] => some s
  | s, e :: es => (step s e).bind fun t => exec step t es

/-- Every step of the run over the events from `s` meets a condition on the state before it. -/
def Along (step : S → E → Option S) (allowed : S → E → Prop) : S → List E → Prop
  | _, [] => True
  | s, e :: es => allowed s e ∧ ∀ t, step s e = some t → Along step allowed t es

/-- No event is enabled in `s`. -/
def Stuck (step : S → E → Option S) (s : S) : Prop :=
  ∀ e, step s e = none

section Runs

variable {step : S → E → Option S}

/-- The empty run. -/
@[simp] theorem exec_nil (s : S) : exec step s [] = some s := rfl

/-- A run with a first event. -/
@[simp] theorem exec_cons (s : S) (e : E) (es : List E) :
    exec step s (e :: es) = (step s e).bind fun t => exec step t es := rfl

/-- A run over a concatenation is a run over the first part and then one over the second. -/
theorem exec_append (s : S) (es fs : List E) :
    exec step s (es ++ fs) = (exec step s es).bind fun t => exec step t fs := by
  induction es generalizing s with
  | nil => rfl
  | cons e es ih =>
    rw [List.cons_append, exec_cons, exec_cons, Option.bind_assoc]
    congr 1
    funext t
    exact ih t

/-- A run over a concatenation passes through a state in between. -/
theorem exec_append_eq_some {s u : S} {es fs : List E} :
    exec step s (es ++ fs) = some u ↔
      ∃ t, exec step s es = some t ∧ exec step t fs = some u := by
  rw [exec_append, Option.bind_eq_some_iff]

/-- The last step of a run. -/
theorem exec_concat_eq_some {s u : S} {es : List E} {e : E} :
    exec step s (es ++ [e]) = some u ↔
      ∃ t, exec step s es = some t ∧ step t e = some u := by
  rw [exec_append_eq_some]
  simp

/-- The state in which an event of a run is taken. -/
theorem exec_split {s u : S} {pre post : List E} {e : E}
    (h : exec step s (pre ++ e :: post) = some u) :
    ∃ t t', exec step s pre = some t ∧ step t e = some t' ∧ exec step t' post = some u := by
  obtain ⟨t, ht, hu⟩ := exec_append_eq_some.mp h
  rw [exec_cons, Option.bind_eq_some_iff] at hu
  obtain ⟨t', he, hu⟩ := hu
  exact ⟨t, t', ht, he, hu⟩

/-- Invariant rule: a property of the trace and the state that holds at the start and that every
step of a run preserves holds after every run. -/
theorem exec_invariant {I : List E → S → Prop} {s : S} (init : I [] s)
    (preserved : ∀ es t e u, I es t → step t e = some u → I (es ++ [e]) u)
    {es : List E} {t : S} (h : exec step s es = some t) : I es t := by
  induction es using List.reverseRecOn generalizing t with
  | nil =>
    rw [exec_nil, Option.some.injEq] at h
    exact h ▸ init
  | append_singleton es e ih =>
    obtain ⟨u, hu, ht⟩ := exec_concat_eq_some.mp h
    exact preserved es u e t (ih hu) ht

/-- The invariant rule for a property of the state alone, from any state that has it. -/
theorem exec_preserves {P : S → Prop} (preserved : ∀ t e u, P t → step t e = some u → P u)
    {s t : S} {es : List E} (hs : P s) (h : exec step s es = some t) : P t :=
  exec_invariant (I := fun _ u => P u) hs (fun _ t e u ht hu => preserved t e u ht hu) h

/-- The invariant rule for a run whose steps meet a condition. -/
theorem exec_preserves_along {P : S → Prop} {allowed : S → E → Prop}
    (preserved : ∀ t e u, P t → allowed t e → step t e = some u → P u) {s t : S} {es : List E}
    (hs : P s) (hes : Along step allowed s es) (h : exec step s es = some t) : P t := by
  induction es generalizing s with
  | nil =>
    rw [exec_nil, Option.some.injEq] at h
    exact h ▸ hs
  | cons e es ih =>
    rw [exec_cons, Option.bind_eq_some_iff] at h
    obtain ⟨u, hu, ht⟩ := h
    exact ih (preserved s e u hs hes.1 hu) (hes.2 u hu) ht

/-- The steps of a part of a run that meets a condition meet it. -/
theorem along_append {allowed : S → E → Prop} {s t : S} {es fs : List E}
    (h : Along step allowed s (es ++ fs)) (ht : exec step s es = some t) :
    Along step allowed s es ∧ Along step allowed t fs := by
  induction es generalizing s with
  | nil =>
    rw [exec_nil, Option.some.injEq] at ht
    exact ⟨trivial, ht ▸ h⟩
  | cons e es ih =>
    rw [exec_cons, Option.bind_eq_some_iff] at ht
    obtain ⟨u, hu, ht⟩ := ht
    obtain ⟨hes, hfs⟩ := ih (h.2 u hu) ht
    refine ⟨⟨h.1, fun v hv => ?_⟩, hfs⟩
    obtain rfl := Option.some.inj (hu.symm.trans hv)
    exact hes

/-- A condition on the first step and on the rest. -/
theorem along_cons {allowed : S → E → Prop} {s t : S} {e : E} {es : List E} (ha : allowed s e)
    (he : step s e = some t) (hes : Along step allowed t es) : Along step allowed s (e :: es) := by
  refine ⟨ha, fun u hu => ?_⟩
  obtain rfl := Option.some.inj (he.symm.trans hu)
  exact hes

/-- A condition that does not depend on the state. -/
theorem along_of_forall_mem {allowed : S → E → Prop} {s : S} {es : List E}
    (h : ∀ e ∈ es, ∀ t, allowed t e) : Along step allowed s es := by
  induction es generalizing s with
  | nil => exact trivial
  | cons e es ih =>
    refine ⟨h e List.mem_cons_self s, fun t _ => ih fun e' he' => ?_⟩
    exact h e' (List.mem_cons_of_mem e he')

/-- Projection rule: where each event either steps a component by the event it projects to, or
leaves the component alone, a run of the whole is a run of the component. -/
theorem exec_project {stepT : T → F → Option T} (f : S → T) (g : E → Option F)
    (matched : ∀ s e t, step s e = some t →
      match g e with
      | some e' => stepT (f s) e' = some (f t)
      | none => f t = f s)
    {s t : S} {es : List E} (h : exec step s es = some t) :
    exec stepT (f s) (es.filterMap g) = some (f t) := by
  induction es generalizing s with
  | nil =>
    rw [exec_nil, Option.some.injEq] at h
    rw [h]
    rfl
  | cons e es ih =>
    rw [exec_cons, Option.bind_eq_some_iff] at h
    obtain ⟨u, hu, ht⟩ := h
    have hm := matched s e u hu
    cases hg : g e with
    | none =>
      rw [hg] at hm
      rw [List.filterMap_cons_none hg, ← hm]
      exact ih ht
    | some e' =>
      rw [hg] at hm
      rw [List.filterMap_cons_some hg, exec_cons, hm]
      exact ih ht

/-- A part of the state that only some events move is where the last of these in the run has brought
it, or where it was at the start. -/
theorem exec_last {f : S → T} {moves : E → Bool}
    (still : ∀ s e t, step s e = some t → moves e = false → f t = f s) {s t : S} {es : List E}
    (h : exec step s es = some t) :
    f t = f s ∨ ∃ pre e post u v, es = pre ++ e :: post ∧ (∀ e' ∈ post, moves e' = false) ∧
      moves e = true ∧ exec step s pre = some u ∧ step u e = some v ∧ f v = f t := by
  induction es using List.reverseRecOn generalizing t with
  | nil =>
    rw [exec_nil, Option.some.injEq] at h
    exact .inl (congrArg f h.symm)
  | append_singleton es e ih =>
    obtain ⟨u, hu, ht⟩ := exec_concat_eq_some.mp h
    cases he : moves e with
    | true => exact .inr ⟨es, e, [], u, t, rfl, nofun, he, hu, ht, rfl⟩
    | false =>
      have hstill : f t = f u := still u e t ht he
      obtain hstart | ⟨pre, e', post, v, w, rfl, hpost, he', hv, hw, hf⟩ := ih hu
      · exact .inl (hstill.trans hstart)
      · refine .inr ⟨pre, e', post ++ [e], v, w, List.append_assoc _ _ _, ?_, he', hv, hw,
          hf.trans hstill.symm⟩
        rintro e'' he''
        rcases List.mem_append.mp he'' with hmem | hmem
        · exact hpost e'' hmem
        · rw [List.mem_singleton.mp hmem, he]

/-- Potential rule: where every step that a run can take decreases a potential, the potential that
the run starts with bounds its length. -/
theorem exec_length_le {φ : S → ℕ} {s t : S}
    (decreases : ∀ pre u e v, exec step s pre = some u → step u e = some v → φ v < φ u)
    {es : List E} (h : exec step s es = some t) : es.length + φ t ≤ φ s := by
  induction es using List.reverseRecOn generalizing t with
  | nil =>
    rw [exec_nil, Option.some.injEq] at h
    subst h
    exact Nat.le_of_eq (Nat.zero_add _)
  | append_singleton es e ih =>
    obtain ⟨u, hu, ht⟩ := exec_concat_eq_some.mp h
    have hrun : es.length + φ u ≤ φ s := ih hu
    have hlast : φ t < φ u := decreases es u e t hu ht
    rw [List.length_append, List.length_singleton]
    omega

/-- Such a machine can be run until it is stuck. -/
theorem exists_exec_stuck {φ : S → ℕ} {s : S}
    (decreases : ∀ pre u e v, exec step s pre = some u → step u e = some v → φ v < φ u) :
    ∃ es t, exec step s es = some t ∧ Stuck step t := by
  -- A longest run is stuck, and no run is longer than the potential at its start.
  obtain ⟨n, hn⟩ : ∃ n, ∀ es t, exec step s es = some t → es.length + φ t ≤ n :=
    ⟨φ s, fun es t h => exec_length_le decreases h⟩
  by_contra hnone
  push Not at hnone
  have hlong : ∀ k, ∃ es t, exec step s es = some t ∧ es.length = k := by
    intro k
    induction k with
    | zero => exact ⟨[], s, rfl, rfl⟩
    | succ k ih =>
      obtain ⟨es, t, ht, hlength⟩ := ih
      have henabled : ∃ e, step t e ≠ none := by
        by_contra hstuck
        push Not at hstuck
        exact hnone es t ht hstuck
      obtain ⟨e, he⟩ := henabled
      obtain ⟨u, hu⟩ := Option.ne_none_iff_exists'.mp he
      refine ⟨es ++ [e], u, exec_concat_eq_some.mpr ⟨t, ht, hu⟩, ?_⟩
      rw [List.length_append, hlength, List.length_singleton]
  obtain ⟨es, t, ht, hlength⟩ := hlong (n + 1)
  have hle : es.length + φ t ≤ n := hn es t ht
  omega

/-- A condition on every step of a list of events together with those before it. -/
theorem forall_split_concat {Q : List E → E → Prop} {es : List E} {e : E} :
    (∀ pre x post, es ++ [e] = pre ++ x :: post → Q pre x) ↔
      (∀ pre x post, es = pre ++ x :: post → Q pre x) ∧ Q es e := by
  constructor
  · intro h
    refine ⟨fun pre x post hes => h pre x (post ++ [e]) ?_, h es e [] rfl⟩
    rw [hes, List.append_assoc, List.cons_append]
  · rintro ⟨h, he⟩ pre x post hes
    rcases List.eq_nil_or_concat post with rfl | ⟨post', y, rfl⟩
    · obtain ⟨rfl, hx⟩ := List.append_inj' hes rfl
      exact (List.singleton_inj.mp hx) ▸ he
    · rw [List.concat_eq_append, ← List.cons_append, ← List.append_assoc] at hes
      exact h pre x post' (List.append_inj' hes rfl).1

/-- There is a step with those before it in a longer list, if there is one in the list or the last
step is one. -/
theorem exists_split_concat {Q : List E → E → Prop} {es : List E} {e : E} :
    (∃ pre x post, es ++ [e] = pre ++ x :: post ∧ Q pre x) ↔
      (∃ pre x post, es = pre ++ x :: post ∧ Q pre x) ∨ Q es e := by
  have h := @forall_split_concat _ (fun pre x => ¬ Q pre x) es e
  rw [← not_iff_not]
  push Not
  exact h

end Runs

section States

variable (step : S → E → Option S) (select : E → Bool)

/-- The states of the run over `es` from `s` right after each selected event. -/
def statesAfter : S → List E → List S
  | _, [] => []
  | s, e :: es =>
    match step s e with
    | none => []
    | some t => if select e then t :: statesAfter t es else statesAfter t es

variable {step select}

/-- The last step of a run adds its state when its event is selected. -/
theorem statesAfter_concat {s t u : S} {es : List E} {e : E} (h : exec step s es = some t)
    (he : step t e = some u) :
    statesAfter step select s (es ++ [e]) =
      statesAfter step select s es ++ if select e then [u] else [] := by
  induction es generalizing s with
  | nil =>
    rw [exec_nil, Option.some.injEq] at h
    subst h
    cases hsel : select e <;> simp [statesAfter, he, hsel]
  | cons e' es ih =>
    rw [exec_cons, Option.bind_eq_some_iff] at h
    obtain ⟨v, hv, ht⟩ := h
    have := ih ht
    cases hsel : select e' <;> simp [statesAfter, hv, hsel, this]

/-- A run passes one state for each selected event. -/
theorem length_statesAfter {s t : S} {es : List E} (h : exec step s es = some t) :
    (statesAfter step select s es).length = es.countP select := by
  induction es using List.reverseRecOn generalizing t with
  | nil => rfl
  | append_singleton es e ih =>
    obtain ⟨u, hu, ht⟩ := exec_concat_eq_some.mp h
    rw [statesAfter_concat hu ht, List.length_append, ih hu, List.countP_append,
      List.countP_singleton]
    cases select e <;> rfl

/-- The state right after the `k`-th selected event is the state of the run up to that event. -/
theorem statesAfter_getElem? {s t x : S} {es : List E} {k : ℕ} (h : exec step s es = some t)
    (hx : (statesAfter step select s es)[k]? = some x) :
    ∃ pre e post, es = pre ++ e :: post ∧ exec step s (pre ++ [e]) = some x ∧
      select e = true ∧ pre.countP select = k := by
  induction es using List.reverseRecOn generalizing t with
  | nil => exact absurd hx nofun
  | append_singleton es e ih =>
    obtain ⟨u, hu, ht⟩ := exec_concat_eq_some.mp h
    rw [statesAfter_concat hu ht] at hx
    rcases Nat.lt_or_ge k (statesAfter step select s es).length with hlt | hge
    · rw [List.getElem?_append_left hlt] at hx
      obtain ⟨pre, e', post, rfl, hexec, hsel, hcount⟩ := ih hu hx
      exact ⟨pre, e', post ++ [e], List.append_assoc _ _ _, hexec, hsel, hcount⟩
    · rw [List.getElem?_append_right hge] at hx
      cases hsel : select e with
      | false =>
        rw [hsel] at hx
        exact absurd hx nofun
      | true =>
        rw [hsel, if_pos rfl, List.getElem?_singleton, Option.ite_none_right_eq_some,
          Option.some.injEq] at hx
        obtain ⟨hzero, rfl⟩ := hx
        refine ⟨es, e, [], rfl, exec_concat_eq_some.mpr ⟨u, hu, ht⟩, hsel, ?_⟩
        rw [← length_statesAfter hu]
        omega

end States

end DSEmu.Automaton
