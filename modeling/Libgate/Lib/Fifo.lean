import Mathlib.Tactic.Common
import Mathlib.Data.List.Basic
import Mathlib.Data.List.Perm.Basic

/-! Queues by their histories. A queue is everything that has arrived and
everything that has been served; what waits is the difference. Two queues with
one server, the first with priority over the second, are a pair of them. -/

namespace Libgate.Lib

/-- The history of a queue: it serves in the order of arrival. -/
structure Fifo (α : Type) where
  arrived : List α
  served : List α
  ordered : served <+: arrived

namespace Fifo

variable {α : Type}

def empty : Fifo α := ⟨[], [], List.prefix_rfl⟩

def waiting (q : Fifo α) : List α := q.arrived.drop q.served.length

theorem served_append_waiting (q : Fifo α) : q.served ++ q.waiting = q.arrived :=
  List.prefix_iff_eq_append.mp q.ordered

def arrive (x : α) (q : Fifo α) : Fifo α :=
  ⟨q.arrived ++ [x], q.served, q.ordered.trans (List.prefix_append ..)⟩

/-- The longest waiting is served, if any waits. -/
def serve (q : Fifo α) : Fifo α where
  arrived := q.arrived
  served := q.served ++ q.waiting.head?.toList
  ordered := by
    have hall := q.served_append_waiting
    cases hw : q.waiting with
    | nil => simpa using q.ordered
    | cons x rest =>
      rw [hw] at hall
      rw [← hall]
      exact ⟨rest, by simp⟩

theorem waiting_arrive (x : α) (q : Fifo α) : (q.arrive x).waiting = q.waiting ++ [x] :=
  List.drop_append_of_le_length q.ordered.length_le

theorem waiting_serve (q : Fifo α) : q.serve.waiting = q.waiting.tail := by
  have hall := q.serve.served_append_waiting
  have hsame := q.served_append_waiting
  rw [show q.serve.arrived = q.arrived from rfl, ← hsame,
    show q.serve.served = q.served ++ q.waiting.head?.toList from rfl, List.append_assoc] at hall
  have hrest := List.append_cancel_left hall
  cases hw : q.waiting with
  | nil =>
    rw [hw] at hrest
    exact hrest
  | cons x rest =>
    rw [hw] at hrest
    exact (List.cons.inj hrest).2

end Fifo

/-- Two queues of which the first is served before the second. -/
structure Priority (α : Type) where
  first : Fifo α
  second : Fifo α

namespace Priority

variable {α : Type}

def empty : Priority α := ⟨Fifo.empty, Fifo.empty⟩

/-- All that wait, in the order they will be served if nothing arrives. -/
def waiting (q : Priority α) : List α := q.first.waiting ++ q.second.waiting

/-- One turn of the server. -/
def serve (q : Priority α) : Priority α :=
  match q.first.waiting with
  | [] => { q with second := q.second.serve }
  | _ :: _ => { q with first := q.first.serve }

def arrive (toFirst : Bool) (x : α) (q : Priority α) : Priority α :=
  if toFirst then { q with first := q.first.arrive x } else { q with second := q.second.arrive x }

/-- What one turn serves comes from the second queue only when none waits in the first. -/
theorem serve_spec (q : Priority α) :
    (q.serve.first.served = q.first.served ++ q.waiting.head?.toList ∧
        q.serve.second.served = q.second.served ∧ q.first.waiting ≠ []) ∨
      (q.serve.first.served = q.first.served ∧
        q.serve.second.served = q.second.served ++ q.waiting.head?.toList ∧
        q.first.waiting = []) := by
  unfold serve waiting
  cases hw : q.first.waiting with
  | nil => exact .inr ⟨rfl, rfl, rfl⟩
  | cons x rest =>
    refine .inl ⟨?_, rfl, List.cons_ne_nil x rest⟩
    change q.first.served ++ q.first.waiting.head?.toList = _
    rw [hw]
    rfl

theorem serve_arrived (q : Priority α) :
    q.serve.first.arrived = q.first.arrived ∧ q.serve.second.arrived = q.second.arrived := by
  unfold serve
  split
  · exact ⟨rfl, rfl⟩
  · exact ⟨rfl, rfl⟩

theorem waiting_serve (q : Priority α) :
    q.serve.first.waiting = q.first.waiting.tail ∧
      q.serve.second.waiting =
        if q.first.waiting = [] then q.second.waiting.tail else q.second.waiting := by
  unfold serve
  cases hw : q.first.waiting with
  | nil => exact ⟨hw, q.second.waiting_serve⟩
  | cons x rest =>
    refine ⟨?_, rfl⟩
    change q.first.serve.waiting = _
    rw [q.first.waiting_serve, hw]

end Priority

/-- What is served of each class in the order of arrival is served at most as
often as it arrived. -/
theorem subperm_of_classes {α : Type} {xs ys : List α} (p : α → Bool)
    (h : xs.filter p <+: ys.filter p)
    (h' : xs.filter (fun x => !p x) <+: ys.filter (fun x => !p x)) : xs.Subperm ys := by
  have hsub := (h.sublist.append h'.sublist).subperm
  have hxs := List.filter_append_perm p xs
  have hys := List.filter_append_perm p ys
  exact (hxs.symm.subperm.trans hsub).trans hys.subperm

end Libgate.Lib
