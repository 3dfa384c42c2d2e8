import Mathlib.Data.List.Induction

/-!
# Networks that are their own inverse

A round of a Feistel network adds a key to one half of a block, mixes the other half with a function
of the sum, and exchanges the halves. After the last round two more keys are added to the halves.
The function need not be invertible: the network with the keys in the other order undoes it
(`network_reverse`).

The sum is any operation that is associative and commutative, and for which adding a value twice is
adding nothing.
-/

namespace DSEmu.Feistel

variable {α : Type}

/-- What a network needs of its sum. -/
structure Cancels (add : α → α → α) : Prop where
  assoc : ∀ a b c, add (add a b) c = add a (add b c)
  comm : ∀ a b, add a b = add b a
  self : ∀ a b, add a (add a b) = b

variable (add : α → α → α) (mix : α → α)

/-- A round with a key. -/
def round (s : α × α) (key : α) : α × α := (add (mix (add key s.1)) s.2, add key s.1)

/-- The end of a network: the halves are exchanged, and a key is added to each. -/
def whiten (a b : α) (s : α × α) : α × α := (add s.2 b, add s.1 a)

/-- A network, which takes the last two keys at its end. -/
def network : List α → α × α → α × α
  | [], s => s
  | [_], s => s
  | [a, b], s => whiten add a b s
  | key :: c :: d :: keys, s => network (c :: d :: keys) (round add mix s key)

variable {add mix}

theorem network_append (keys : List α) (a b : α) (s : α × α) :
    network add mix (keys ++ [a, b]) s = whiten add a b (keys.foldl (round add mix) s) := by
  induction keys generalizing s with
  | nil => rfl
  | cons key keys ih =>
    rw [List.foldl_cons, ← ih]
    cases keys with
    | nil => rfl
    | cons c keys =>
      cases keys with
      | nil => rfl
      | cons d keys => rfl

namespace Cancels

variable (h : Cancels add)
include h

/-- The end of a network is undone by that with the keys exchanged. -/
theorem whiten_whiten (a b : α) (s : α × α) : whiten add b a (whiten add a b s) = s := by
  have hcancel : ∀ x y, add (add x y) y = x := by
    intro x y
    rw [h.comm, h.comm x y, h.self]
  obtain ⟨x, y⟩ := s
  simp only [whiten, hcancel]

/-- A round that follows the end of a network undoes its last round. -/
theorem round_whiten_round (a b key : α) (s : α × α) :
    round add mix (whiten add a b (round add mix s key)) b = whiten add key a s := by
  obtain ⟨x, y⟩ := s
  have hkey : add b (add (add key x) b) = add key x := by rw [h.comm (add key x), h.self]
  have hmix : add (mix (add key x)) (add (add (mix (add key x)) y) a) = add y a := by
    rw [h.assoc, h.self]
  simp only [round, whiten, hkey, hmix]
  rw [h.comm key x]

/-- The network with its keys in the other order undoes it. -/
theorem network_reverse (keys : List α) (s : α × α) :
    network add mix keys.reverse (network add mix keys s) = s := by
  -- The rounds are undone from the last one on: what is left is a shorter network.
  have hundo : ∀ (rounds : List α) (a b : α), network add mix (rounds ++ [a, b]).reverse
      (network add mix (rounds ++ [a, b]) s) = s := by
    intro rounds
    induction rounds using List.reverseRecOn with
    | nil => exact fun a b => h.whiten_whiten a b s
    | append_singleton rounds key ih =>
      intro a b
      have hstep : round add mix (network add mix ((rounds ++ [key]) ++ [a, b]) s) b =
          network add mix (rounds ++ [key, a]) s := by
        rw [network_append, network_append, List.foldl_append, List.foldl_cons, List.foldl_nil,
          h.round_whiten_round]
      have hkeys : ((rounds ++ [key]) ++ [a, b]).reverse = b :: (rounds ++ [key, a]).reverse := by
        simp only [List.reverse_append, List.reverse_cons, List.reverse_nil, List.nil_append,
          List.cons_append]
      have hunfold : ∀ t, network add mix (b :: (rounds ++ [key, a]).reverse) t =
          network add mix (rounds ++ [key, a]).reverse (round add mix t b) := by
        intro t
        rw [List.reverse_append]
        rfl
      rw [hkeys, hunfold, hstep, ih]
  obtain rfl | ⟨keys, b, rfl⟩ := keys.eq_nil_or_concat
  · rfl
  · obtain rfl | ⟨rounds, a, rfl⟩ := keys.eq_nil_or_concat
    · rfl
    · rw [List.concat_eq_append, List.concat_eq_append, List.append_assoc]
      exact hundo rounds a b

end Cancels

end DSEmu.Feistel
