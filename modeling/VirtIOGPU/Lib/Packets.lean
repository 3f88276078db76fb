import Mathlib.Data.List.Basic
import Mathlib.Data.Nat.Notation

/-!
# Streams of packets

A packet is a header and a payload, and the header says how many words of payload there are.  A
reader that knows nothing else cuts a stream into packets with `split`.  It gives back every list of
packets whose headers are right (`split_stream`), so such a stream determines its packets.
-/

namespace Lib.Packets

variable {ω : Type*}

@[ext]
structure Packet (ω : Type*) where
  header : ω
  payload : List ω
  deriving DecidableEq, Repr

def Packet.words (p : Packet ω) : List ω := p.header :: p.payload

/-- Packets one after the other. -/
def stream (packets : List (Packet ω)) : List ω := packets.flatMap Packet.words

@[simp] theorem stream_nil : stream ([] : List (Packet ω)) = [] := rfl

@[simp] theorem stream_cons (p : Packet ω) (rest : List (Packet ω)) :
    stream (p :: rest) = p.header :: (p.payload ++ stream rest) := rfl

variable (len : ω → ℕ)

/-- The header counts the payload. -/
def Packet.Framed (p : Packet ω) : Prop := len p.header = p.payload.length

/-- At most so many packets of a stream. -/
def splitUpTo : ℕ → List ω → Option (List (Packet ω))
  | _, [] => some []
  | 0, _ :: _ => none
  | n + 1, header :: rest =>
      if rest.length < len header then none
      else (splitUpTo n (rest.drop (len header))).map (⟨header, rest.take (len header)⟩ :: ·)

/-- The packets of a stream; `none` when it ends in the middle of one. -/
def split (words : List ω) : Option (List (Packet ω)) := splitUpTo len words.length words

variable {len}

theorem splitUpTo_stream {packets : List (Packet ω)} (hframed : ∀ p ∈ packets, p.Framed len)
    {n : ℕ} (hn : (stream packets).length ≤ n) :
    splitUpTo len n (stream packets) = some packets := by
  induction packets generalizing n with
  | nil => cases n <;> rfl
  | cons p rest ih =>
      have hp : len p.header = p.payload.length := hframed p (List.mem_cons_self ..)
      have hrest : ∀ q ∈ rest, q.Framed len := fun q hq => hframed q (List.mem_cons_of_mem _ hq)
      cases n with
      | zero => simp at hn
      | succ n =>
          have hlength : (stream rest).length ≤ n := by
            simp only [stream_cons, List.length_cons, List.length_append] at hn
            omega
          simp [splitUpTo, hp, ih hrest hlength]

/-- Splitting undoes the concatenation. -/
theorem split_stream {packets : List (Packet ω)} (hframed : ∀ p ∈ packets, p.Framed len) :
    split len (stream packets) = some packets :=
  splitUpTo_stream hframed (Nat.le_refl _)

end Lib.Packets
