import Mathlib.Data.List.Perm.Basic
import VirtIOGPU.Lib.Machine

/-!
# Request exchange

What a queue pair is for, with nothing said about rings or descriptors: requests
are published in order, taken in order by a server, answered by it in any order
and each once, and the answers are collected in the order in which they were
given.

The state keeps the requests in each of the three places and the history of
answers.  `outstanding` are the requests not yet collected.  On every run
`completed = collected ++ finished` (`Exchange.History`): nothing is lost,
duplicated or reordered between an answer and its collection.
-/

namespace Lib

open scoped List

/-- `ρ` are the requests, `β` the answers. -/
structure Exchange (ρ β : Type*) where
  published : List ρ
  held : List ρ
  finished : List (ρ × β)
  completed : List (ρ × β)
  collected : List (ρ × β)

namespace Exchange

variable {ρ β : Type*}

inductive Event (ρ β : Type*) where
  | publish (request : ρ)
  | take
  | answer (k : ℕ) (reply : β)
  | collect

def initial : Exchange ρ β := ⟨[], [], [], [], []⟩

/-- The requests not yet collected. -/
def outstanding (x : Exchange ρ β) : List ρ :=
  x.published ++ (x.held ++ x.finished.map Prod.fst)

/-- Every request that was ever published. -/
def requests (x : Exchange ρ β) : List ρ :=
  x.published ++ (x.held ++ x.completed.map Prod.fst)

/-- How many requests the server has taken. -/
def takenCount (x : Exchange ρ β) : ℕ :=
  x.held.length + x.completed.length

/-- How many requests were published. -/
def publishedCount (x : Exchange ρ β) : ℕ :=
  x.takenCount + x.published.length

def step (x : Exchange ρ β) : Event ρ β → Option (Exchange ρ β)
  | .publish request => some { x with published := x.published ++ [request] }
  | .take =>
      match x.published with
      | [] => none
      | request :: rest => some { x with published := rest, held := x.held ++ [request] }
  | .answer k reply =>
      match x.held[k]? with
      | none => none
      | some request =>
          some
            { x with
              held := x.held.eraseIdx k
              finished := x.finished ++ [(request, reply)]
              completed := x.completed ++ [(request, reply)] }
  | .collect =>
      match x.finished with
      | [] => none
      | answer :: rest => some { x with finished := rest, collected := x.collected ++ [answer] }

/-! ## Invariants of every run -/

/-- The answers are collected in order, each once. -/
def History (x : Exchange ρ β) : Prop :=
  x.completed = x.collected ++ x.finished

theorem History.initial : History (initial : Exchange ρ β) := rfl

theorem History.step {x y : Exchange ρ β} {event : Event ρ β} (h : History x)
    (hstep : x.step event = some y) : History y := by
  unfold History at h ⊢
  cases event with
  | publish request =>
      obtain rfl := Option.some.inj hstep
      exact h
  | take =>
      simp only [Exchange.step] at hstep
      split at hstep
      · simp at hstep
      · obtain rfl := Option.some.inj hstep
        exact h
  | answer k reply =>
      simp only [Exchange.step] at hstep
      split at hstep
      · simp at hstep
      · obtain rfl := Option.some.inj hstep
        simp [h]
  | collect =>
      simp only [Exchange.step] at hstep
      split at hstep
      · simp at hstep
      · rename_i answer rest hfinished
        obtain rfl := Option.some.inj hstep
        simp [h, hfinished]

/-- The number of answers is the number collected and the number waiting. -/
theorem History.length {x : Exchange ρ β} (h : History x) :
    x.completed.length = x.collected.length + x.finished.length := by
  rw [h, List.length_append]

theorem outstanding_length (x : Exchange ρ β) :
    x.outstanding.length = x.published.length + x.held.length + x.finished.length := by
  simp [outstanding, Nat.add_assoc]

/-- Publishing adds a request to the outstanding ones. -/
theorem outstanding_publish (x : Exchange ρ β) (request : ρ) :
    ({ x with published := x.published ++ [request] } : Exchange ρ β).outstanding.Perm
      (x.outstanding ++ [request]) := by
  simp only [outstanding, List.append_assoc]
  refine (List.perm_append_left_iff _).mpr ?_
  have hmoved : List.Perm ([request] ++ (x.held ++ x.finished.map Prod.fst)) _ :=
    List.perm_append_comm
  simpa using hmoved

/-- Taking a request moves it from the published ones to the held ones. -/
theorem take_perm {published held rest : List ρ} {request : ρ} (others : List ρ)
    (h : published = request :: rest) :
    (rest ++ (held ++ [request] ++ others)).Perm (published ++ (held ++ others)) := by
  calc rest ++ (held ++ [request] ++ others)
      = (rest ++ held) ++ request :: others := by
        simp only [List.append_assoc, List.singleton_append]
    _ ~ request :: ((rest ++ held) ++ others) := List.perm_middle
    _ = published ++ (held ++ others) := by rw [h, List.cons_append, List.append_assoc]

/-- Answering a request moves it from the held ones to the end of the answered ones. -/
theorem answer_perm {held answered : List ρ} {k : ℕ} {request : ρ}
    (hk : held[k]? = some request) :
    (held.eraseIdx k ++ (answered ++ [request])).Perm (held ++ answered) := by
  obtain ⟨hlt, hget⟩ := List.getElem?_eq_some_iff.mp hk
  have hheld : (request :: held.eraseIdx k).Perm held := by
    rw [← hget]
    exact List.getElem_cons_eraseIdx_perm hlt
  calc held.eraseIdx k ++ (answered ++ [request])
      = (held.eraseIdx k ++ answered) ++ [request] := (List.append_assoc ..).symm
    _ ~ (request :: held.eraseIdx k) ++ answered := List.perm_append_comm
    _ ~ held ++ answered := hheld.append_right _

/-! ## Where the requests are -/

/-- A step publishes at most one request and keeps all others. -/
theorem requests_step {x y : Exchange ρ β} {event : Event ρ β} (hstep : x.step event = some y) :
    y.requests.Perm (x.requests ++ match event with | .publish request => [request] | _ => []) := by
  cases event with
  | publish request =>
      obtain rfl := Option.some.inj hstep
      simp only [requests, List.append_assoc]
      refine (List.perm_append_left_iff _).mpr ?_
      simpa using (List.perm_append_comm :
        List.Perm ([request] ++ (x.held ++ x.completed.map Prod.fst)) _)
  | take =>
      simp only [Exchange.step] at hstep
      split at hstep
      · simp at hstep
      · rename_i request rest hpublished
        obtain rfl := Option.some.inj hstep
        simpa [requests] using take_perm (x.completed.map Prod.fst) hpublished
  | answer k reply =>
      simp only [Exchange.step] at hstep
      split at hstep
      · simp at hstep
      · rename_i request hk
        obtain rfl := Option.some.inj hstep
        simp only [requests, List.append_nil, List.map_append, List.map_cons, List.map_nil]
        exact (List.perm_append_left_iff _).mpr (answer_perm hk)
  | collect =>
      simp only [Exchange.step] at hstep
      split at hstep
      · simp at hstep
      · obtain rfl := Option.some.inj hstep
        simp [requests]

end Exchange

end Lib
