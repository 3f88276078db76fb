import VirtIOGPU.Card.Resize
import VirtIOGPU.Card.Virgl

/-!
# Which resource ids are in use

A resource has a fixed id (1 and 9 for the frame buffers, 2 for the cursor) or one that
`chip_alloc_resource_id` drew from its counter.  `Numbering` says how the live resources of the
host lie to the counter: what is live and not behind the counter is reserved, so that a drawn
id is not in use.  The exceptions are resources that a failed command left behind, and they
are kept count of as `Strays`.

A function that draws ids is described by how many it draws.

## Strategy

An id is drawn in `chip_alloc_resource_id` by adding one until the number is not reserved.  So a
drawn id lies at the counter or up to three above it, and everything live that lies there is
reserved, unless it is a stray:

```text
live resource          lies                    a draw avoids it since
drawn before           below the counter       the counter only moves up (`DrawOk.next_le`)
frame buffer 1 or 9    anywhere                it is reserved
stray 9                anywhere                9 is reserved, or the counter is not at 9
cursor 2               anywhere                it is reserved once it is created
```

With Virgl no draw gives 2, since the counter starts at 3 there (`Numbering.draw_ne_two`).  Without,
a frame buffer can take it before the cursor comes; the field `cursor` lists who has.

`CreatesNone` has the closure lemmas for programs that create nothing, so that the functions of
`Card.ResourceIds` have to be taken apart at their create commands only.
-/

namespace VirtIOGPU.Card

open Lib.Hoare

/-! ## Ids -/

/-- The part of `ChipGPUState` that has to do with resource ids. -/
structure Ids where
  next : UInt32
  fb : UInt32
  fb2 : UInt32
  cursor : UInt32
  cursorCreated : Bool
  /-- 3D resources can be created. -/
  virgl : Bool
  deriving DecidableEq, Repr

def GpuState.ids (gs : GpuState) : Ids where
  next := gs.nextResourceId
  fb := gs.fbResourceId
  fb2 := gs.fbResourceId2
  cursor := gs.cursorResourceId
  cursorCreated := gs.cursorCreated
  virgl := gs.hasVirgl && gs.cmd3dBuf != 0 || gs.virgl2dReady

namespace Ids

def reserved (ids : Ids) : List UInt32 := [ids.fb, ids.fb2, ids.cursor]

/-- The id that `chip_alloc_resource_id` returns. -/
def draw (ids : Ids) : UInt32 := chipAllocResourceId ids.reserved ids.next

def drawn (ids : Ids) : Ids := { ids with next := ids.draw + 1 }

/-- After `n` draws. -/
def after (ids : Ids) : ℕ → Ids
  | 0 => ids
  | n + 1 => ids.drawn.after n

end Ids

/-- Resources with the fixed ids 2 and 9 that a failed command left behind. -/
structure Strays where
  cursor : Bool
  back : Bool
  deriving DecidableEq, Repr

/-- The counter does not come to its end, and it is not at 0 or at a stray, unless these are
reserved. -/
def Ids.DrawOk (strays : Strays) (ids : Ids) : Prop :=
  ids.next < 0xFFFFFFFC ∧ (ids.next = 0 → 0 ∈ ids.reserved) ∧
    (strays.back = true → ids.next = 9 → 9 ∈ ids.reserved)

instance (strays : Strays) (ids : Ids) : Decidable (ids.DrawOk strays) :=
  inferInstanceAs (Decidable (_ ∧ _ ∧ _))

def Ids.DrawsOk (strays : Strays) : ℕ → Ids → Prop
  | 0, _ => True
  | n + 1, ids => ids.DrawOk strays ∧ ids.drawn.DrawsOk strays n

/-- The id was fixed at the start or has been drawn. -/
def Ids.Known (ids : Ids) (id : UInt32) : Prop := id = 0 ∨ id = 1 ∨ id = 9 ∨ id < ids.next

structure Numbering (ids : Ids) (strays : Strays) (host : Host) : Prop where
  zero : ¬ host.Live 0
  ahead : ∀ i, host.Live i → ids.next ≤ i → i ∈ ids.reserved ∨ i = 9 ∧ strays.back = true
  cursor : host.Live 2 →
    ids.cursorCreated = true ∨ ids.fb = 2 ∨ ids.fb2 = 2 ∨ strays.cursor = true
  cursorId : ids.cursor = 0 ∨ ids.cursor = 2
  virgl : ids.virgl = true → 3 ≤ ids.next
  fb : ids.Known ids.fb
  fb2 : ids.Known ids.fb2

/-! ## Draws -/

section Draw

variable {ids : Ids} {strays : Strays} {host host' : Host}

theorem Ids.draw_not_mem (ids : Ids) : ids.draw ∉ ids.reserved :=
  chipAllocResourceId_not_mem (by simp [Ids.reserved]) _

/-- The counter only moves forward, by at most four. -/
theorem chipAllocResourceId_bounds (skipped : List UInt32) {next : UInt32}
    (hnext : next < 0xFFFFFFFC) :
    next.toNat ≤ (chipAllocResourceId skipped next).toNat ∧
      (chipAllocResourceId skipped next).toNat ≤ next.toNat + 3 := by
  have hlt : next.toNat < 0xFFFFFFFC := hnext
  have h1 : (next + 1).toNat = next.toNat + 1 := by
    rw [UInt32.toNat_add]
    exact Nat.mod_eq_of_lt (by simp; omega)
  have h2 : (next + 2).toNat = next.toNat + 2 := by
    rw [UInt32.toNat_add]
    exact Nat.mod_eq_of_lt (by simp; omega)
  have h3 : (next + 3).toNat = next.toNat + 3 := by
    rw [UInt32.toNat_add]
    exact Nat.mod_eq_of_lt (by simp; omega)
  unfold chipAllocResourceId
  split
  · omega
  split
  · omega
  split <;> omega

theorem Ids.DrawOk.next_le (h : ids.DrawOk strays) : ids.next ≤ ids.draw :=
  (chipAllocResourceId_bounds ids.reserved h.1).1

theorem Ids.DrawOk.drawn_next (h : ids.DrawOk strays) :
    ids.drawn.next.toNat = ids.draw.toNat + 1 := by
  have hlt : ids.next.toNat < 0xFFFFFFFC := h.1
  have hle : ids.draw.toNat ≤ ids.next.toNat + 3 := (chipAllocResourceId_bounds ids.reserved h.1).2
  change (ids.draw + 1).toNat = _
  rw [UInt32.toNat_add]
  exact Nat.mod_eq_of_lt (by simp; omega)

theorem Ids.DrawOk.draw_lt (h : ids.DrawOk strays) : ids.draw < ids.drawn.next := by
  rw [UInt32.lt_iff_toNat_lt, h.drawn_next]
  exact Nat.lt_succ_self _

theorem Ids.DrawOk.next_le_drawn (h : ids.DrawOk strays) : ids.next ≤ ids.drawn.next :=
  UInt32.le_trans h.next_le (UInt32.le_of_lt h.draw_lt)

theorem Ids.DrawOk.draw_ne_zero (h : ids.DrawOk strays) : ids.draw ≠ 0 := by
  intro hzero
  have hnext : ids.next = 0 := by
    have hle := h.next_le
    rw [hzero, UInt32.le_iff_toNat_le] at hle
    exact UInt32.toNat_inj.mp (Nat.le_zero.mp hle)
  have hmem := h.2.1 hnext
  rw [← hzero] at hmem
  exact ids.draw_not_mem hmem

/-- An id that is skipped is reserved. -/
theorem chipAllocResourceId_ne {skipped : List UInt32} {next : UInt32}
    (h : chipAllocResourceId skipped next ≠ next) : next ∈ skipped := by
  by_contra hnot
  exact h (if_pos hnot)

/-- What is reserved and ahead of the counter is one of the fixed ids. -/
theorem Numbering.reserved_ahead (h : Numbering ids strays host) {id : UInt32}
    (hmem : id ∈ ids.reserved) (hle : ids.next ≤ id) : id = 0 ∨ id = 1 ∨ id = 2 ∨ id = 9 := by
  have hknown (hid : ids.Known id) : id = 0 ∨ id = 1 ∨ id = 2 ∨ id = 9 := by
    rcases hid with h0 | h1 | h9 | hlt
    · exact Or.inl h0
    · exact Or.inr (Or.inl h1)
    · exact Or.inr (Or.inr (Or.inr h9))
    · exact absurd (UInt32.lt_of_lt_of_le hlt hle) (UInt32.lt_irrefl _)
  simp only [Ids.reserved, List.mem_cons, List.not_mem_nil, or_false] at hmem
  rcases hmem with rfl | rfl | rfl
  · exact hknown h.fb
  · exact hknown h.fb2
  · rcases h.cursorId with h0 | h2
    · exact Or.inl h0
    · exact Or.inr (Or.inr (Or.inl h2))

/-- A stray with the back buffer's id is not drawn: the counter does not skip up to it. -/
theorem Numbering.draw_ne_nine (h : Numbering ids strays host) (hok : ids.DrawOk strays)
    (hback : strays.back = true) : ids.draw ≠ 9 := by
  intro hnine
  by_cases hnext : ids.next = 9
  · have hmem := hok.2.2 hback hnext
    rw [← hnine] at hmem
    exact ids.draw_not_mem hmem
  have hskipped : ids.next ∈ ids.reserved :=
    chipAllocResourceId_ne fun heq => hnext (heq.symm.trans hnine)
  have hbound : ids.draw.toNat ≤ ids.next.toNat + 3 :=
    (chipAllocResourceId_bounds ids.reserved hok.1).2
  rw [hnine] at hbound
  have hge : 6 ≤ ids.next.toNat := by
    have h9 : (9 : UInt32).toNat = 9 := rfl
    omega
  rcases h.reserved_ahead hskipped (UInt32.le_refl _) with h0 | h1 | h2 | h9
  · simp [h0] at hge
  · simp [h1] at hge
  · simp [h2] at hge
  · exact hnext h9

/-- A drawn id is not in use. -/
theorem Numbering.draw_fresh (h : Numbering ids strays host) (hok : ids.DrawOk strays) :
    ¬ host.Live ids.draw := by
  intro hlive
  rcases h.ahead _ hlive hok.next_le with hmem | ⟨hnine, hback⟩
  · exact ids.draw_not_mem hmem
  · exact h.draw_ne_nine hok hback hnine

theorem Ids.Known.drawn {id : UInt32} (h : ids.Known id) (hok : ids.DrawOk strays) :
    ids.drawn.Known id := by
  rcases h with h | h | h | h
  · exact Or.inl h
  · exact Or.inr (Or.inl h)
  · exact Or.inr (Or.inr (Or.inl h))
  · exact Or.inr (Or.inr (Or.inr (UInt32.lt_of_lt_of_le h hok.next_le_drawn)))

/-- What is live and not behind the counter was so before the draw. -/
theorem Numbering.ahead_drawn (h : Numbering ids strays host) (hok : ids.DrawOk strays)
    (hothers : ∀ i ≠ ids.draw, host'.Live i → host.Live i) {i : UInt32} (hlive : host'.Live i)
    (hle : ids.drawn.next ≤ i) :
    host.Live i ∧ (i ∈ ids.reserved ∨ i = 9 ∧ strays.back = true) := by
  have hne : i ≠ ids.draw := by
    rintro rfl
    exact UInt32.lt_irrefl _ (UInt32.lt_of_lt_of_le hok.draw_lt hle)
  have hbefore := hothers i hne hlive
  exact ⟨hbefore, h.ahead i hbefore (UInt32.le_trans hok.next_le_drawn hle)⟩

theorem Numbering.drawn {strays' : Strays} (h : Numbering ids strays host)
    (hok : ids.DrawOk strays) (hothers : ∀ i ≠ ids.draw, host'.Live i → host.Live i)
    (hcursor : strays.cursor = true ∨ ids.draw = 2 ∧ host'.Live 2 → strays'.cursor = true)
    (hback : strays.back = true → strays'.back = true) :
    Numbering ids.drawn strays' host' where
  zero hlive := h.zero (hothers 0 hok.draw_ne_zero.symm hlive)
  ahead i hlive hle :=
    (h.ahead_drawn hok hothers hlive hle).2.imp_right fun hstray => ⟨hstray.1, hback hstray.2⟩
  cursor hlive := by
    by_cases hdraw : ids.draw = 2
    · exact Or.inr (Or.inr (Or.inr (hcursor (Or.inr ⟨hdraw, hlive⟩))))
    · rcases h.cursor (hothers 2 (Ne.symm hdraw) hlive) with hcreated | hfb | hfb2 | hstray
      · exact Or.inl hcreated
      · exact Or.inr (Or.inl hfb)
      · exact Or.inr (Or.inr (Or.inl hfb2))
      · exact Or.inr (Or.inr (Or.inr (hcursor (Or.inl hstray))))
  cursorId := h.cursorId
  virgl hvirgl := UInt32.le_trans (h.virgl hvirgl) hok.next_le_drawn
  fb := h.fb.drawn hok
  fb2 := h.fb2.drawn hok

/-- With 3D resources the cursor's id is behind the counter. -/
theorem Numbering.draw_ne_two (h : Numbering ids strays host) (hok : ids.DrawOk strays)
    (hvirgl : ids.virgl = true) : ids.draw ≠ 2 := by
  intro htwo
  have hle : (3 : UInt32) ≤ ids.draw := UInt32.le_trans (h.virgl hvirgl) hok.next_le
  rw [htwo] at hle
  exact absurd hle (by decide)

theorem Numbering.mono (h : Numbering ids strays host) (hhost : ∀ i, host'.Live i → host.Live i) :
    Numbering ids strays host' where
  zero hlive := h.zero (hhost 0 hlive)
  ahead i hlive := h.ahead i (hhost i hlive)
  cursor hlive := h.cursor (hhost 2 hlive)
  cursorId := h.cursorId
  virgl := h.virgl
  fb := h.fb
  fb2 := h.fb2

theorem Numbering.withoutVirgl (h : Numbering ids strays host) {virgl : Bool}
    (hvirgl : virgl = true → ids.virgl = true) :
    Numbering { ids with virgl := virgl } strays host :=
  ⟨h.zero, h.ahead, h.cursor, h.cursorId, fun hv => h.virgl (hvirgl hv), h.fb, h.fb2⟩

/-- `chip_swap_buffers` reserves the same ids. -/
theorem Numbering.swap (h : Numbering ids strays host) :
    Numbering { ids with fb := ids.fb2, fb2 := ids.fb } strays host where
  zero := h.zero
  ahead i hlive hle := (h.ahead i hlive hle).imp_left fun hmem => by
    simp only [Ids.reserved, List.mem_cons, List.not_mem_nil, or_false] at hmem ⊢
    tauto
  cursor hlive := by
    have hcases := h.cursor hlive
    tauto
  cursorId := h.cursorId
  virgl := h.virgl
  fb := h.fb2
  fb2 := h.fb

/-- The new resource takes the place of the old one, which goes unless it is left behind. -/
theorem Numbering.published {strays' : Strays} (h : Numbering ids strays host)
    (hok : ids.DrawOk strays)
    (hothers : ∀ i ≠ ids.draw, host'.Live i → host.Live i)
    (hcursor : strays.cursor = true ∨ ids.fb = 2 ∧ host'.Live 2 → strays'.cursor = true)
    (hback : strays.back = true ∨ ids.fb = 9 ∧ host'.Live 9 → strays'.back = true) :
    Numbering { ids.drawn with fb := ids.draw } strays' host' where
  zero hlive := h.zero (hothers 0 hok.draw_ne_zero.symm hlive)
  ahead i hlive hle := by
    obtain ⟨hbefore, hreserved | ⟨hnine, hstray⟩⟩ := h.ahead_drawn hok hothers hlive hle
    · simp only [Ids.reserved, List.mem_cons, List.not_mem_nil, or_false] at hreserved
      obtain hold | hkept := hreserved
      · -- the old frame buffer is not reserved any more
        subst hold
        have hdraw_ne : ids.draw ≠ ids.fb := fun heq =>
          ids.draw_not_mem (by simp [heq, Ids.reserved])
        rcases h.fb with hzero | hone | hnine | hbehind
        · exact absurd (hzero ▸ hbefore) h.zero
        · have hpos : ids.draw.toNat ≠ 0 := fun h0 => hok.draw_ne_zero (UInt32.toNat_inj.mp h0)
          have hne : ids.draw.toNat ≠ 1 := fun h1 =>
            hdraw_ne (hone.symm ▸ UInt32.toNat_inj.mp h1)
          rw [hone, UInt32.le_iff_toNat_le] at hle
          have hnext := hok.drawn_next
          have h1 : (1 : UInt32).toNat = 1 := rfl
          change ids.drawn.next.toNat ≤ _ at hle
          omega
        · exact Or.inr ⟨hnine, hback (Or.inr ⟨hnine, hnine ▸ hlive⟩)⟩
        · have hlt : ids.fb < ids.drawn.next := UInt32.lt_of_lt_of_le hbehind hok.next_le_drawn
          exact absurd (UInt32.lt_of_lt_of_le hlt hle) (UInt32.lt_irrefl _)
      · exact Or.inl (List.mem_cons_of_mem _ (by simpa [Ids.drawn] using hkept))
    · exact Or.inr ⟨hnine, hback (Or.inl hstray)⟩
  cursor hlive := by
    by_cases hdraw : ids.draw = 2
    · exact Or.inr (Or.inl hdraw)
    · rcases h.cursor (hothers 2 (Ne.symm hdraw) hlive) with hcreated | hfb | hfb2 | hstray
      · exact Or.inl hcreated
      · exact Or.inr (Or.inr (Or.inr (hcursor (Or.inr ⟨hfb, hlive⟩))))
      · exact Or.inr (Or.inr (Or.inl hfb2))
      · exact Or.inr (Or.inr (Or.inr (hcursor (Or.inl hstray))))
  cursorId := h.cursorId
  virgl hvirgl := UInt32.le_trans (h.virgl hvirgl) hok.next_le_drawn
  fb := Or.inr (Or.inr (Or.inr hok.draw_lt))
  fb2 := h.fb2.drawn hok

/-- The cursor's id is not in use before its first use. -/
theorem Numbering.cursor_fresh (h : Numbering ids strays host)
    (hcreated : ids.cursorCreated = false) (hfb : ids.fb ≠ 2) (hfb2 : ids.fb2 ≠ 2)
    (hstray : strays.cursor = false) : ¬ host.Live 2 := by
  intro hlive
  rcases h.cursor hlive with hcase | hcase | hcase | hcase
  · simp [hcreated] at hcase
  · exact hfb hcase
  · exact hfb2 hcase
  · simp [hstray] at hcase

/-- An attempt to create the cursor reserves 2; `created` is whether it succeeded. -/
theorem Numbering.cursorAttempt {strays' : Strays} {created : Bool}
    (h : Numbering ids strays host) (hothers : ∀ i ≠ 2, host'.Live i → host.Live i)
    (hcursor : host'.Live 2 → created = true ∨ strays'.cursor = true)
    (hback : strays'.back = strays.back) :
    Numbering { ids with cursor := 2, cursorCreated := created } strays' host' where
  zero hlive := h.zero (hothers 0 (by decide) hlive)
  ahead i hlive hle := by
    by_cases htwo : i = 2
    · exact Or.inl (by simp [Ids.reserved, htwo])
    · have hbefore := hothers i htwo hlive
      rcases h.ahead i hbefore hle with hmem | hstray
      · simp only [Ids.reserved, List.mem_cons, List.not_mem_nil, or_false] at hmem ⊢
        rcases hmem with hfb | hfb2 | hcursor
        · exact Or.inl (Or.inl hfb)
        · exact Or.inl (Or.inr (Or.inl hfb2))
        · rcases h.cursorId with hid | hid
          · exact absurd ((hcursor.trans hid) ▸ hbefore) h.zero
          · exact absurd (hcursor.trans hid) htwo
      · exact Or.inr (hback ▸ hstray)
  cursor hlive := (hcursor hlive).imp_right fun hstray => Or.inr (Or.inr hstray)
  cursorId := Or.inr rfl
  virgl := h.virgl
  fb := h.fb
  fb2 := h.fb2

end Draw

/-! ## Commands -/

/-- A create command used an id that was not 0 and not live. -/
def GpuEvent.Fresh : GpuEvent → Prop
  | .create id live => id ≠ 0 ∧ live = false
  | .skipped _ _ => True

instance : DecidablePred GpuEvent.Fresh
  | .create id live => inferInstanceAs (Decidable (id ≠ 0 ∧ live = false))
  | .skipped _ _ => isTrue trivial

/-- All create commands so far. -/
def IdsFresh (c : CardState) : Prop := ∀ e ∈ c.events, e.Fresh

instance : DecidablePred IdsFresh :=
  fun c => inferInstanceAs (Decidable (∀ e ∈ c.events, e.Fresh))

structure IdsSound (ids : Ids) (strays : Strays) (c : CardState) : Prop where
  numbering : Numbering ids strays c.host
  fresh : IdsFresh c

section Commands

variable {ids : Ids} {strays : Strays}

/-- The program sends no create command and publishes nothing. -/
structure CreatesNone {α : Type} (m : Driver α) : Prop where
  live : ∀ c i, (m c).2.host.Live i → c.host.Live i
  fresh : ∀ c, IdsFresh c → IdsFresh (m c).2
  gs : ∀ c, (m c).2.gs = c.gs

theorem Quiet.createsNone {α : Type} {m : Driver α} (h : Quiet m) : CreatesNone m where
  live c i hlive := by rwa [h.host c] at hlive
  fresh c hc e he := hc e (h.events c ▸ he)
  gs := h.gs

namespace CreatesNone

variable {α β : Type} {m : Driver α}

theorem idsSound (h : CreatesNone m) : Stable (IdsSound ids strays) m :=
  fun c hc => ⟨hc.numbering.mono (h.live c), h.fresh c hc.fresh⟩

theorem ret (a : α) : CreatesNone (pure a : Driver α) := (Quiet.ret a).createsNone

theorem bind {k : α → Driver β} (hm : CreatesNone m) (hk : ∀ a, CreatesNone (k a)) :
    CreatesNone (m >>= k) where
  live c i hlive := hm.live c i ((hk _).live _ i hlive)
  fresh c hc := (hk _).fresh _ (hm.fresh c hc)
  gs c := ((hk _).gs _).trans (hm.gs c)

theorem ite {p : Prop} [Decidable p] {m' : Driver α} (h : CreatesNone m) (h' : CreatesNone m') :
    CreatesNone (if p then m else m') := by
  split
  exacts [h, h']

theorem onlyIf {p : Prop} [Decidable p] {m : Driver PUnit} (h : CreatesNone m) :
    CreatesNone (onlyIf p m) :=
  ite h (ret _)

theorem gpuCommand {effect : Host → Host} (answer : GpuAnswer)
    (heffect : ∀ host i, (effect host).Live i → host.Live i) :
    CreatesNone (gpuCommand effect answer) where
  live c i hlive := by
    cases answer with
    | done => exact heffect c.host i hlive
    | refused => exact hlive
    | lost => exact heffect c.host i hlive
  fresh c hc := by cases answer <;> exact hc
  gs c := by cases answer <;> rfl

/-- A command without an effect that is modelled. -/
theorem idCommand (answer : GpuAnswer) : CreatesNone (Card.gpuCommand id answer) :=
  gpuCommand answer fun _ _ hlive => hlive

theorem chipResourceUnref (id : UInt32) (answer : GpuAnswer) :
    CreatesNone (chipResourceUnref id answer) := by
  refine gpuCommand answer fun host i hlive => ?_
  change (Function.update host.resources id none i).isSome at hlive
  by_cases hi : i = id
  · simp [hi] at hlive
  · rwa [Function.update_of_ne hi] at hlive

theorem setContext (id : UInt32) (present : Bool) (answer : GpuAnswer) :
    CreatesNone (Card.gpuCommand (fun host => host.setContext id present) answer) :=
  gpuCommand answer fun _ _ hlive => hlive

theorem setScanoutAttempts (s : Scanout) (answers : ℕ → GpuAnswer) (n : ℕ) :
    CreatesNone (setScanoutAttempts s answers n) := by
  induction n with
  | zero => exact ret false
  | succ n ih => exact bind (gpuCommand _ fun _ _ hlive => hlive) fun _ => ite (ret true) ih

theorem chipTransferToHost2D (gs : GpuState) (id : UInt32) (answer : GpuAnswer) :
    CreatesNone (chipTransferToHost2D gs id answer) := by
  refine ite ⟨fun _ _ hlive => hlive, fun c hc e he => ?_, fun _ => rfl⟩ (idCommand answer)
  rcases List.mem_cons.mp he with rfl | he
  · trivial
  · exact hc e he

end CreatesNone

/-- What a create command does to the ids that are live. -/
theorem createCommand_live (id : UInt32) (resource : GpuResource) (answer : GpuAnswer)
    (c : CardState) :
    let c' := (createCommand id resource answer c).2
    (∀ i ≠ id, c'.host.Live i → c.host.Live i) ∧
      (answer = .refused → c'.host.Live id → c.host.Live id) ∧
      c'.events = .create id (c.host.resources id).isSome :: c.events := by
  have hstart : Sees c.host c.events c := ⟨rfl, rfl⟩
  have hsees := (createCommand_sees id resource answer c hstart).2
  refine ⟨fun i hi hlive => ?_, fun hrefused hlive => ?_, hsees.events⟩
  · unfold Host.Live at hlive ⊢
    rwa [hsees.host, GpuAnswer.applied_create_resources answer resource hi] at hlive
  · unfold Host.Live at hlive ⊢
    rwa [hsees.host, hrefused] at hlive

theorem IdsFresh.create {c c' : CardState} {id : UInt32} (h : IdsFresh c) (hid : id ≠ 0)
    (hlive : ¬ c.host.Live id)
    (hevents : c'.events = .create id (c.host.resources id).isSome :: c.events) : IdsFresh c' := by
  intro e he
  rw [hevents] at he
  rcases List.mem_cons.mp he with rfl | he
  · exact ⟨hid, by simpa [Host.Live] using hlive⟩
  · exact h e he

/-- A create command with a drawn id. -/
theorem createCommand_drawn (resource : GpuResource) (answer : GpuAnswer)
    (hok : ids.DrawOk strays) (htwo : ids.draw ≠ 2) :
    Triple (IdsSound ids strays) (createCommand ids.draw resource answer) fun _ =>
      IdsSound ids.drawn strays := by
  intro c hc
  obtain ⟨hothers, -, hevents⟩ := createCommand_live ids.draw resource answer c
  refine ⟨hc.numbering.drawn hok hothers (fun h => ?_) fun h => h, ?_⟩
  · exact h.resolve_right fun hdrawn => htwo hdrawn.1
  exact hc.fresh.create hok.draw_ne_zero (hc.numbering.draw_fresh hok) hevents

end Commands

end VirtIOGPU.Card
