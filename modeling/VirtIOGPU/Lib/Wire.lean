import VirtIOGPU.Lib.ByteOrder

/-!
# Reading a wire format

A message is a list of bytes, and a reader takes a value from its front: it returns the
value and what is left, or nothing when the message is too short.  `field` reads a
little-endian number, `many` a counted sequence.

`Reads` says that a reader undoes an encoding.  It composes: `reads_field` for one number
and `Reads.many` for a sequence, whose length the message has to carry.
-/

namespace Lib.Wire

open Lib.ByteOrder

variable {α : Type*}

/-- A reader: the value at the front of a message, and the rest of it. -/
abbrev Reader (α : Type*) := List ℕ → Option (α × List ℕ)

/-- A little-endian number of `width` bytes. -/
def field (width : ℕ) : Reader ℕ := fun bytes =>
  if bytes.length < width then none
  else some (ofLE (bytes.take width), bytes.drop width)

/-- Pass over `count` bytes. -/
def skip (count : ℕ) : Reader Unit := fun bytes =>
  if bytes.length < count then none else some ((), bytes.drop count)

/-- `count` values, one after the other. -/
def many (reader : Reader α) : ℕ → Reader (List α)
  | 0, bytes => some ([], bytes)
  | count + 1, bytes =>
      (reader bytes).bind fun first =>
        (many reader count first.2).map fun rest => (first.1 :: rest.1, rest.2)

/-- The reader takes exactly the encoding of `value` and gives `value`. -/
def Reads (reader : Reader α) (encoding : List ℕ) (value : α) : Prop :=
  ∀ rest, reader (encoding ++ rest) = some (value, rest)

theorem reads_field {width x : ℕ} (hx : x < 256 ^ width) :
    Reads (field width) (toLE width x) x := by
  intro rest
  have hlength : (toLE width x).length = width := length_toLE width x
  have hlong : ¬ (toLE width x ++ rest).length < width := by
    rw [List.length_append, hlength]
    omega
  rw [field, if_neg hlong, List.take_left' hlength, List.drop_left' hlength, ofLE_toLE,
    Nat.mod_eq_of_lt hx]

theorem reads_skip {count : ℕ} {bytes : List ℕ} (hbytes : bytes.length = count) :
    Reads (skip count) bytes () := by
  intro rest
  have hlong : ¬ (bytes ++ rest).length < count := by
    rw [List.length_append, hbytes]
    omega
  rw [skip, if_neg hlong, List.drop_left' hbytes]

/-- A reader that undoes the encoding of every element undoes that of the sequence. -/
theorem Reads.many {β : Type*} {reader : Reader α} {encode : β → List ℕ} {value : β → α}
    (h : ∀ b, Reads reader (encode b) (value b)) (source : List β) :
    Reads (many reader source.length) (source.flatMap encode) (source.map value) := by
  induction source with
  | nil => exact fun rest => rfl
  | cons b source ih =>
      intro rest
      have hfirst := h b (source.flatMap encode ++ rest)
      have hrest := ih rest
      rw [List.length_cons, Wire.many, List.flatMap_cons, List.append_assoc, hfirst,
        Option.bind_some, hrest]
      rfl

end Lib.Wire
