-- SUMMARY: Pipelines that move accepted blocks through a queue and a transfer buffer to an output; conservation is part of the value.
import Mathlib.Data.List.Basic
import Mathlib.Data.List.Infix

/-!
# Pipelines

What a buffered writer is for: blocks are accepted into a queue, a transfer takes
a front part of the queue, and committing the transfer appends it to the output.
Nothing is lost, duplicated or reordered on the way, at any point.
-/

/-- Accepted blocks, and where their content is now. -/
structure Pipeline (α : Type*) where
  accepted : List (List α)
  out : List α
  inFlight : List α
  queue : List α
  conserved : out ++ inFlight ++ queue = accepted.flatten

namespace Pipeline

variable {α : Type*}

def empty : Pipeline α := ⟨[], [], [], [], rfl⟩

/-- Accept a block. -/
def accept (p : Pipeline α) (block : List α) : Pipeline α where
  accepted := p.accepted ++ [block]
  out := p.out
  inFlight := p.inFlight
  queue := p.queue ++ block
  conserved := by rw [← List.append_assoc, p.conserved]; simp

/-- Begin a transfer of at most `n` items. Only one transfer is under way at a
time. -/
def take (p : Pipeline α) (n : Nat) (h : p.inFlight = []) : Pipeline α where
  accepted := p.accepted
  out := p.out
  inFlight := p.queue.take n
  queue := p.queue.drop n
  conserved := by rw [← p.conserved, h, List.append_nil, List.append_assoc, List.take_append_drop]

/-- Complete the transfer. -/
def commit (p : Pipeline α) : Pipeline α where
  accepted := p.accepted
  out := p.out ++ p.inFlight
  inFlight := []
  queue := p.queue
  conserved := by rw [List.append_nil, p.conserved]

@[simp] theorem accept_accepted (p : Pipeline α) (x : List α) :
    (p.accept x).accepted = p.accepted ++ [x] := rfl

@[simp] theorem accept_out (p : Pipeline α) (x : List α) : (p.accept x).out = p.out := rfl

@[simp] theorem accept_inFlight (p : Pipeline α) (x : List α) :
    (p.accept x).inFlight = p.inFlight := rfl

@[simp] theorem accept_queue (p : Pipeline α) (x : List α) :
    (p.accept x).queue = p.queue ++ x := rfl

/-- The output is always a beginning of what was accepted. -/
theorem out_prefix (p : Pipeline α) : p.out <+: p.accepted.flatten :=
  ⟨p.inFlight ++ p.queue, by rw [← List.append_assoc, p.conserved]⟩

/-- The output is complete exactly when nothing is on the way. -/
theorem out_eq_iff (p : Pipeline α) :
    p.out = p.accepted.flatten ↔ p.inFlight = [] ∧ p.queue = [] := by
  rw [← p.conserved, List.append_assoc]
  constructor
  · intro h
    have hnil := List.self_eq_append_right.mp h
    exact List.append_eq_nil_iff.mp hnil
  · rintro ⟨hflight, hqueue⟩
    rw [hflight, hqueue, List.append_nil, List.append_nil]

end Pipeline
