import VirtIOGPU.Commands.Wrappers
import VirtIOGPU.Lib.Hoare

/-!
# The choice of a capset

`chip_QueryCapsets` asks for every capset of the device until it has seen VIRGL2, and records id and
version of a capset before it fetches the data.  The data may come from VIRGL and the id
from a VIRGL2 whose fetch failed; and after the fetch that failed last, other capsets are
not tried.  `capsets_consistent_iff` says for which devices neither happens.

`choose` is the loop on the answers alone; the function on the wire does the same with the answers
that it gets (`queryLoop_caps`).

## Strategy

Of the loop only two capsets matter: the one that it takes last, and one that it took before.

```text
capsets of the list                    taken                      Chosen
neither VIRGL nor VIRGL2               none                       unusable
VIRGL2 first, or only one of the two   the preferred one          only
VIRGL before VIRGL2                    VIRGL, and VIRGL2 then     second
```

In each case the capset taken last is the preferred one.  Its id is recorded whether its data could
be fetched or not; so id and data belong together if and only if it could, or if nothing at all has
been fetched and `valid` stays `FALSE` (`Chosen.consistent_iff`).
-/

namespace VirtIOGPU.Capsets

open Lib.Hoare Lib.Memory Lib.Layout Wrappers

/-! ## State -/

/-- The fields of `ChipGPUState` about the capset. -/
structure VirglCaps where
  capsetId : UInt32
  capsetVer : UInt32
  capsetSize : UInt32
  /-- `virgl_caps`, of 2048 bytes. -/
  caps : Mem UInt8
  valid : Bool
  hasVirgl : Bool
  /-- Id, version and data of the capsets that have been fetched; for statements only. -/
  fetched : List (UInt32 × UInt32 × List UInt8)

structure CapsState where
  channel : Channel
  virgl : VirglCaps

abbrev CapsM := StateM CapsState

def onChannel {α : Type} (m : GpuM α) : CapsM α :=
  modifyGet fun s => ((m s.channel).1, { s with channel := (m s.channel).2 })

def modifyCaps (f : VirglCaps → VirglCaps) : CapsM PUnit :=
  modify fun s => { s with virgl := f s.virgl }

/-- `VIRTIO_GPU_CAPSET_VIRGL`. -/
def capsetVirgl : UInt32 := 1
/-- `VIRTIO_GPU_CAPSET_VIRGL2`. -/
def capsetVirgl2 : UInt32 := 2
/-- `VIRTIO_GPU_MAX_CAPSET_SIZE`. -/
def maxCapsetSize : UInt32 := 2048

/-! ## `chip_QueryCapsets` -/

def VirglCaps.record (v : VirglCaps) (id maxVer : UInt32) : VirglCaps :=
  { v with capsetId := id, capsetVer := maxVer }

/-- What a successful `chip_GetCapset` into `virgl_caps` leaves. -/
def VirglCaps.store (v : VirglCaps) (id maxVer : UInt32) (data : List UInt8) : VirglCaps :=
  { v with
    caps := overwrite 0 data.length (fun i => data.getD i 0) v.caps
    capsetSize := UInt32.ofNat data.length
    valid := true
    fetched := (id, maxVer, data) :: v.fetched }

def fetchSize (maxSize : UInt32) : UInt32 :=
  if maxSize > maxCapsetSize then maxCapsetSize else maxSize

/-- The capset is preferred to the recorded one. -/
def VirglCaps.Takes (v : VirglCaps) (id : UInt32) : Prop :=
  id = capsetVirgl2 ∨ id = capsetVirgl ∧ v.capsetId = 0

instance (v : VirglCaps) (id : UInt32) : Decidable (v.Takes id) :=
  inferInstanceAs (Decidable (_ ∨ _))

/-- Id and version are recorded before the data are there. -/
def takeCapset (device : GpuDevice) (id maxVer maxSize : UInt32) : CapsM PUnit := do
  modifyCaps fun v => v.record id maxVer
  let data ← onChannel (chipGetCapset device id maxVer (fetchSize maxSize))
  match data with
  | none => return ⟨⟩
  | some data => modifyCaps fun v => v.store id maxVer data

def considerCapset (device : GpuDevice) : Option CapsetInfo → CapsM Bool
  | none => return false
  | some (id, maxVer, maxSize) => do
      let s ← get
      if s.virgl.Takes id then
        takeCapset device id maxVer maxSize
        return id == capsetVirgl2
      else
        return false

/-- The body of the loop; `true` for the `break`. -/
def queryCapset (device : GpuDevice) (i : UInt32) : CapsM Bool := do
  let info ← onChannel (chipGetCapsetInfo device i)
  considerCapset device info

/-- The capsets from `i` on. -/
def queryLoop (device : GpuDevice) : ℕ → UInt32 → CapsM PUnit
  | 0, _ => return ⟨⟩
  | n + 1, i => do
      let stop ← queryCapset device i
      if stop then
        return ⟨⟩
      else
        queryLoop device n (i + 1)

/-- Nothing has been recorded. -/
def VirglCaps.clear (v : VirglCaps) : VirglCaps :=
  { v with valid := false, capsetId := 0, capsetVer := 0, fetched := [] }

/-- Without a capset there is no 3D. -/
def VirglCaps.disable (v : VirglCaps) : VirglCaps :=
  if v.valid then v else { v with hasVirgl := false }

def chipQueryCapsets (device : GpuDevice) (numCapsets : UInt32) : CapsM PUnit := do
  modifyCaps VirglCaps.clear
  queryLoop device numCapsets.toNat 0
  modifyCaps VirglCaps.disable

/-! ## What the device would answer -/

/-- The answers about one capset: to `GET_CAPSET_INFO`, and to `GET_CAPSET` if it is sent next. -/
structure CapsetAnswer where
  info : Option CapsetInfo
  fetch : Option (List UInt8)

def answerTo (device : GpuDevice) (info : Option CapsetInfo) (c : Channel) : CapsetAnswer where
  info := info
  fetch := info.bind fun (id, maxVer, maxSize) =>
    (chipGetCapset device id maxVer (fetchSize maxSize) c).1

def capsetAnswer (device : GpuDevice) (i : UInt32) (c : Channel) : CapsetAnswer :=
  answerTo device (chipGetCapsetInfo device i c).1 (chipGetCapsetInfo device i c).2

/-- The answers about all capsets, also about those behind the `break`. -/
def survey (device : GpuDevice) : ℕ → UInt32 → CapsState → List CapsetAnswer
  | 0, _, _ => []
  | n + 1, i, s =>
      capsetAnswer device i s.channel :: survey device n (i + 1) (queryCapset device i s).2

/-- The answers that `chip_QueryCapsets` gets or would get. -/
def answers (device : GpuDevice) (numCapsets : UInt32) (s : CapsState) : List CapsetAnswer :=
  survey device numCapsets.toNat 0 { s with virgl := s.virgl.clear }

def CapsetAnswer.HasId (a : CapsetAnswer) (id : UInt32) : Prop := a.info.map Prod.fst = some id

instance (a : CapsetAnswer) (id : UInt32) : Decidable (a.HasId id) :=
  inferInstanceAs (Decidable (_ = _))

/-- A Virgl capset. -/
def CapsetAnswer.Usable (a : CapsetAnswer) : Prop := a.HasId capsetVirgl2 ∨ a.HasId capsetVirgl

instance (a : CapsetAnswer) : Decidable a.Usable := inferInstanceAs (Decidable (_ ∨ _))

/-- A Virgl capset that can be fetched. -/
def CapsetAnswer.Fetchable (a : CapsetAnswer) : Prop := a.Usable ∧ a.fetch ≠ none

instance (a : CapsetAnswer) : Decidable a.Fetchable := inferInstanceAs (Decidable (_ ∧ _))

/-- The first VIRGL2 capset, without one the first VIRGL capset. -/
def preferred (answers : List CapsetAnswer) : Option CapsetAnswer :=
  (answers.find? fun a => a.HasId capsetVirgl2).or (answers.find? fun a => a.HasId capsetVirgl)

/-! ## The choice -/

/-- What the loop does with a capset that it takes. -/
def CapsetAnswer.apply (a : CapsetAnswer) (v : VirglCaps) : VirglCaps :=
  match a.info with
  | none => v
  | some (id, maxVer, _) =>
      match a.fetch with
      | none => v.record id maxVer
      | some data => (v.record id maxVer).store id maxVer data

/-- The loop on the answers. -/
def choose : List CapsetAnswer → VirglCaps → VirglCaps
  | [], v => v
  | a :: rest, v =>
      if a.HasId capsetVirgl2 then a.apply v
      else if a.HasId capsetVirgl ∧ v.capsetId = 0 then choose rest (a.apply v)
      else choose rest v

/-- The recorded capset is the one whose data are there, and if some Virgl capset can be fetched,
one is valid. -/
structure Consistent (answers : List CapsetAnswer) (v : VirglCaps) : Prop where
  data : v.valid = true → ∃ data, (v.capsetId, v.capsetVer, data) ∈ v.fetched ∧
    v.capsetSize.toNat = data.length ∧ bytes v.caps 0 data.length = data
  valid : (∃ a ∈ answers, a.Fetchable) → v.valid = true

/-- The device has the preferred capset, or no Virgl capset that can be fetched. -/
def PreferredFetched (answers : List CapsetAnswer) : Prop :=
  (∃ a ∈ preferred answers, a.fetch ≠ none) ∨ ∀ a ∈ answers, ¬ a.Fetchable

variable {device : GpuDevice} {a : CapsetAnswer} {l : List CapsetAnswer} {v : VirglCaps}

theorem CapsetAnswer.HasId.eq_some {id : UInt32} (h : a.HasId id) :
    ∃ maxVer maxSize, a.info = some (id, maxVer, maxSize) := by
  obtain ⟨⟨id', maxVer, maxSize⟩, hinfo, rfl⟩ := Option.map_eq_some_iff.mp h
  exact ⟨maxVer, maxSize, hinfo⟩

theorem CapsetAnswer.HasId.apply_capsetId {id : UInt32} (h : a.HasId id) :
    (a.apply v).capsetId = id := by
  obtain ⟨maxVer, maxSize, hinfo⟩ := h.eq_some
  unfold CapsetAnswer.apply
  rw [hinfo]
  cases a.fetch <;> rfl

/-- A capset that cannot be fetched is recorded all the same. -/
theorem CapsetAnswer.apply_none (hfetch : a.fetch = none) :
    (a.apply v).valid = v.valid ∧ (a.apply v).fetched = v.fetched := by
  unfold CapsetAnswer.apply
  rw [hfetch]
  cases a.info <;> exact ⟨rfl, rfl⟩

theorem CapsetAnswer.HasId.apply_some {id : UInt32} {data : List UInt8} (h : a.HasId id)
    (hfetch : a.fetch = some data) :
    ∃ maxVer, a.apply v = (v.record id maxVer).store id maxVer data := by
  obtain ⟨maxVer, maxSize, hinfo⟩ := h.eq_some
  refine ⟨maxVer, ?_⟩
  unfold CapsetAnswer.apply
  rw [hinfo, hfetch]

/-- After VIRGL has been taken only VIRGL2 is. -/
theorem choose_tried (l : List CapsetAnswer) (hid : v.capsetId ≠ 0) :
    choose l v = (l.find? fun a => a.HasId capsetVirgl2).elim v fun a => a.apply v := by
  induction l with
  | nil => rfl
  | cons a rest ih =>
      rw [choose, List.find?_cons]
      by_cases hvirgl2 : a.HasId capsetVirgl2
      · rw [if_pos hvirgl2, decide_eq_true hvirgl2]
        rfl
      · rw [if_neg hvirgl2, if_neg fun h => hid h.2, decide_eq_false hvirgl2]
        exact ih

/-- How the loop ends when nothing has been recorded before it. -/
inductive Chosen (l : List CapsetAnswer) (v : VirglCaps) : VirglCaps → Prop where
  | unusable (hnone : ∀ a ∈ l, ¬ a.Usable) : Chosen l v v
  | only {a : CapsetAnswer} (hmem : a ∈ l) (husable : a.Usable)
      (hpreferred : preferred l = some a) : Chosen l v (a.apply v)
  | second {first a : CapsetAnswer} (hmem : first ∈ l) (hfirst : first.HasId capsetVirgl)
      (ha : a.HasId capsetVirgl2) (hpreferred : preferred l = some a) :
      Chosen l v (a.apply (first.apply v))

/-- A capset that is not Virgl changes nothing. -/
theorem preferred_cons_of_not_usable (husable : ¬ a.Usable) :
    preferred (a :: l) = preferred l := by
  have hvirgl2 : ¬ a.HasId capsetVirgl2 := fun h => husable (Or.inl h)
  have hvirgl : ¬ a.HasId capsetVirgl := fun h => husable (Or.inr h)
  unfold preferred
  rw [List.find?_cons, List.find?_cons, decide_eq_false hvirgl2, decide_eq_false hvirgl]

theorem Chosen.cons {w : VirglCaps} (h : Chosen l v w) (husable : ¬ a.Usable) :
    Chosen (a :: l) v w := by
  cases h with
  | unusable hnone => exact .unusable (List.forall_mem_cons.mpr ⟨husable, hnone⟩)
  | only hmem hb hpreferred =>
      exact .only (List.mem_cons_of_mem a hmem) hb
        ((preferred_cons_of_not_usable husable).trans hpreferred)
  | second hmem hfirst hb hpreferred =>
      exact .second (List.mem_cons_of_mem a hmem) hfirst hb
        ((preferred_cons_of_not_usable husable).trans hpreferred)

theorem choose_chosen (l : List CapsetAnswer) (hid : v.capsetId = 0) :
    Chosen l v (choose l v) := by
  induction l with
  | nil => exact .unusable fun a ha => absurd ha List.not_mem_nil
  | cons a rest ih =>
      rw [choose]
      by_cases hvirgl2 : a.HasId capsetVirgl2
      · -- the loop ends here
        rw [if_pos hvirgl2]
        refine .only List.mem_cons_self (Or.inl hvirgl2) ?_
        rw [preferred, List.find?_cons, decide_eq_true hvirgl2]
        rfl
      rw [if_neg hvirgl2]
      by_cases hvirgl : a.HasId capsetVirgl
      · -- from here on only VIRGL2 is taken
        have htried : (a.apply v).capsetId ≠ 0 := by
          rw [hvirgl.apply_capsetId]
          decide
        rw [if_pos ⟨hvirgl, hid⟩, choose_tried rest htried]
        have hpreferred : preferred (a :: rest) =
            (rest.find? fun a => a.HasId capsetVirgl2).or (some a) := by
          rw [preferred, List.find?_cons, List.find?_cons, decide_eq_false hvirgl2,
            decide_eq_true hvirgl]
        cases hfind : rest.find? fun a => a.HasId capsetVirgl2 with
        | none =>
            rw [hfind] at hpreferred
            exact .only List.mem_cons_self (Or.inr hvirgl) hpreferred
        | some b =>
            rw [hfind] at hpreferred
            have hb : b.HasId capsetVirgl2 := by simpa using List.find?_some hfind
            exact .second List.mem_cons_self hvirgl hb hpreferred
      · rw [if_neg fun h => hvirgl h.1]
        exact ih.cons fun h => h.elim hvirgl2 hvirgl

/-! ## Consistency -/

/-- The data fit in `virgl_caps`. -/
def Fits (l : List CapsetAnswer) : Prop := ∀ a ∈ l, ∀ data ∈ a.fetch, data.length ≤ 2048

/-- The fetch of the capset that was taken last succeeded. -/
theorem consistent_of_fetched {id : UInt32} {data : List UInt8} (ha : a.HasId id)
    (hfetch : a.fetch = some data) (hfits : data.length ≤ 2048) :
    Consistent l (a.apply v) := by
  obtain ⟨maxVer, happly⟩ := ha.apply_some (v := v) hfetch
  rw [happly]
  refine ⟨fun _ => ⟨data, List.mem_cons_self, ?_, bytes_overwrite _ 0 data⟩, fun _ => rfl⟩
  change (UInt32.ofNat data.length).toNat = data.length
  rw [UInt32.toNat_ofNat']
  omega

theorem consistent_iff_of_invalid (hvalid : v.valid = false) :
    Consistent l v ↔ ∀ a ∈ l, ¬ a.Fetchable := by
  constructor
  · intro h a ha hfetchable
    have hvalid' := h.valid ⟨a, ha, hfetchable⟩
    rw [hvalid] at hvalid'
    exact absurd hvalid' Bool.false_ne_true
  · intro h
    refine ⟨fun hvalid' => ?_, fun ⟨a, ha, hfetchable⟩ => absurd hfetchable (h a ha)⟩
    rw [hvalid] at hvalid'
    exact absurd hvalid' Bool.false_ne_true

/-- Where the preferred capset cannot be fetched, all depends on the others. -/
theorem preferredFetched_iff_of_none (hpreferred : preferred l = some a) (hfetch : a.fetch = none) :
    PreferredFetched l ↔ ∀ a ∈ l, ¬ a.Fetchable := by
  refine ⟨fun h => h.resolve_left ?_, Or.inr⟩
  rintro ⟨b, hb, hfetched⟩
  rw [hpreferred] at hb
  obtain rfl := Option.some.inj hb
  exact hfetched hfetch

theorem preferredFetched_of_some {data : List UInt8} (hpreferred : preferred l = some a)
    (hfetch : a.fetch = some data) : PreferredFetched l :=
  Or.inl ⟨a, hpreferred, by rw [hfetch]; exact Option.some_ne_none data⟩

theorem preferred_mem (hpreferred : preferred l = some a) : a ∈ l := by
  rcases Option.or_eq_some_iff.mp hpreferred with h | ⟨-, h⟩
  · exact List.mem_of_find?_eq_some h
  · exact List.mem_of_find?_eq_some h

theorem Chosen.consistent_iff {w : VirglCaps} (h : Chosen l v w) (hfits : Fits l)
    (hvalid : v.valid = false) (hfetched : v.fetched = []) :
    Consistent l w ↔ PreferredFetched l := by
  cases h with
  | unusable hnone =>
      have hnot : ∀ a ∈ l, ¬ a.Fetchable := fun a ha h => hnone a ha h.1
      exact iff_of_true ((consistent_iff_of_invalid hvalid).mpr hnot) (Or.inr hnot)
  | @only a hmem husable hpreferred =>
      cases hfetch : a.fetch with
      | none =>
          rw [preferredFetched_iff_of_none hpreferred hfetch]
          exact consistent_iff_of_invalid ((a.apply_none hfetch).1.trans hvalid)
      | some data =>
          have hdata := hfits a hmem data hfetch
          refine iff_of_true ?_ (preferredFetched_of_some hpreferred hfetch)
          exact husable.elim (consistent_of_fetched · hfetch hdata)
            (consistent_of_fetched · hfetch hdata)
  | @second first a hmem hfirst ha hpreferred =>
      cases hfetch : a.fetch with
      | some data =>
          have hdata := hfits a (preferred_mem hpreferred) data hfetch
          exact iff_of_true (consistent_of_fetched ha hfetch hdata)
            (preferredFetched_of_some hpreferred hfetch)
      | none =>
          rw [preferredFetched_iff_of_none hpreferred hfetch]
          obtain ⟨hsame, hlog⟩ := a.apply_none (v := first.apply v) hfetch
          cases hfirstFetch : first.fetch with
          | none =>
              -- neither could be fetched
              have hfirstValid := (first.apply_none (v := v) hfirstFetch).1
              exact consistent_iff_of_invalid (hsame.trans (hfirstValid.trans hvalid))
          | some data =>
              -- the id is VIRGL2, the data are those of VIRGL
              obtain ⟨maxVer, hstore⟩ := hfirst.apply_some (v := v) hfirstFetch
              rw [hstore] at hsame hlog ⊢
              refine iff_of_false (fun h => ?_) fun h => ?_
              · obtain ⟨data', hmem', -⟩ := h.data hsame
                rw [ha.apply_capsetId, hlog] at hmem'
                simp [VirglCaps.store, VirglCaps.record, hfetched, capsetVirgl, capsetVirgl2]
                  at hmem'
              · exact h first hmem ⟨Or.inr hfirst, by simp [hfirstFetch]⟩

theorem consistent_disable_iff : Consistent l v.disable ↔ Consistent l v := by
  unfold VirglCaps.disable
  cases hvalid : v.valid with
  | false => exact (consistent_iff_of_invalid rfl).trans (consistent_iff_of_invalid hvalid).symm
  | true => rfl

/-! ## On the wire -/

/-- The data that `chip_GetCapset` copies are no more than its caller has room for. -/
theorem chipGetCapset_length (id maxVer bufSize : UInt32) :
    Triple (fun _ => True) (chipGetCapset device id maxVer bufSize) fun r _ =>
      ∀ data ∈ r, data.length ≤ bufSize.toNat := by
  unfold chipGetCapset
  refine Triple.bind (R := fun _ _ => True) (fun _ _ => trivial) fun _ => ?_
  refine Triple.bind (R := fun _ _ => True) (fun _ _ => trivial) fun rt => ?_
  refine Triple.ite (fun _ => Triple.ret fun _ _ data hdata => by simp at hdata) fun _ => ?_
  rintro c - data hdata
  obtain rfl := Option.some.inj hdata
  rw [length_bytes]
  split
  · rename_i hgt
    exact (UInt32.lt_iff_toNat_lt.mp hgt).le
  · exact le_refl _

theorem takeCapset_caps (id maxVer maxSize : UInt32) (s : CapsState) :
    (takeCapset device id maxVer maxSize s).2.virgl =
      (answerTo device (some (id, maxVer, maxSize)) s.channel).apply s.virgl := by
  let fetched := chipGetCapset device id maxVer (fetchSize maxSize) s.channel
  change ((match fetched.1 with
    | none => return ⟨⟩
    | some data => modifyCaps fun v => v.store id maxVer data : CapsM PUnit)
    ⟨fetched.2, s.virgl.record id maxVer⟩).2.virgl = CapsetAnswer.apply ⟨_, fetched.1⟩ s.virgl
  cases fetched.1 <;> rfl

/-- The loop takes VIRGL2 and stops, takes VIRGL if nothing is recorded, and goes on otherwise. -/
theorem considerCapset_caps (info : Option CapsetInfo) (s : CapsState) :
    (considerCapset device info s).1 =
        decide ((answerTo device info s.channel).HasId capsetVirgl2) ∧
      (considerCapset device info s).2.virgl =
        if (answerTo device info s.channel).HasId capsetVirgl2 ∨
            (answerTo device info s.channel).HasId capsetVirgl ∧ s.virgl.capsetId = 0 then
          (answerTo device info s.channel).apply s.virgl
        else s.virgl := by
  cases info with
  | none => exact ⟨rfl, rfl⟩
  | some info =>
      obtain ⟨id, maxVer, maxSize⟩ := info
      have hid (id' : UInt32) :
          (answerTo device (some (id, maxVer, maxSize)) s.channel).HasId id' ↔ id = id' :=
        Option.some_inj
      have hbody : considerCapset device (some (id, maxVer, maxSize)) s =
          (if s.virgl.Takes id then do
            takeCapset device id maxVer maxSize
            return id == capsetVirgl2
          else return false : CapsM Bool) s := rfl
      have htakes_iff : s.virgl.Takes id ↔ _ :=
        or_congr (hid capsetVirgl2).symm (and_congr_left' (hid capsetVirgl).symm)
      rw [hbody]
      by_cases htakes : s.virgl.Takes id
      · rw [if_pos htakes, if_pos (htakes_iff.mp htakes)]
        exact ⟨(decide_eq_decide.mpr (hid _)).symm, takeCapset_caps id maxVer maxSize s⟩
      · rw [if_neg htakes, if_neg fun h => htakes (htakes_iff.mpr h)]
        have hne : ¬ (answerTo device (some (id, maxVer, maxSize)) s.channel).HasId capsetVirgl2 :=
          fun h => htakes (Or.inl ((hid _).mp h))
        exact ⟨(decide_eq_false hne).symm, rfl⟩

theorem queryCapset_caps (device : GpuDevice) (i : UInt32) (s : CapsState) :
    (queryCapset device i s).1 = decide ((capsetAnswer device i s.channel).HasId capsetVirgl2) ∧
      (queryCapset device i s).2.virgl =
        if (capsetAnswer device i s.channel).HasId capsetVirgl2 ∨
            (capsetAnswer device i s.channel).HasId capsetVirgl ∧ s.virgl.capsetId = 0 then
          (capsetAnswer device i s.channel).apply s.virgl
        else s.virgl :=
  considerCapset_caps (chipGetCapsetInfo device i s.channel).1
    ⟨(chipGetCapsetInfo device i s.channel).2, s.virgl⟩

theorem queryLoop_caps (n : ℕ) (i : UInt32) (s : CapsState) :
    (queryLoop device n i s).2.virgl = choose (survey device n i s) s.virgl := by
  induction n generalizing i s with
  | zero => rfl
  | succ n ih =>
      obtain ⟨hstop, hvirgl⟩ := queryCapset_caps device i s
      have hrun : queryLoop device (n + 1) i s =
          (if (queryCapset device i s).1 then return ⟨⟩ else queryLoop device n (i + 1))
            (queryCapset device i s).2 := rfl
      rw [hrun, survey, choose, hstop]
      by_cases hvirgl2 : (capsetAnswer device i s.channel).HasId capsetVirgl2
      · rw [if_pos (decide_eq_true hvirgl2), if_pos hvirgl2]
        exact hvirgl.trans (if_pos (Or.inl hvirgl2))
      rw [if_neg (by simpa using hvirgl2), if_neg hvirgl2, ih]
      by_cases hvirgl1 : (capsetAnswer device i s.channel).HasId capsetVirgl ∧ s.virgl.capsetId = 0
      · rw [if_pos hvirgl1, hvirgl, if_pos (Or.inr hvirgl1)]
      · rw [if_neg hvirgl1, hvirgl, if_neg fun h => h.elim hvirgl2 hvirgl1]

theorem survey_fits (n : ℕ) (i : UInt32) (s : CapsState) : Fits (survey device n i s) := by
  induction n generalizing i s with
  | zero => exact fun a ha => absurd ha List.not_mem_nil
  | succ n ih =>
      refine List.forall_mem_cons.mpr ⟨fun data hdata => ?_, ih (i + 1) _⟩
      obtain ⟨⟨id, maxVer, maxSize⟩, -, hfetch⟩ := Option.bind_eq_some_iff.mp hdata
      have hlength := chipGetCapset_length id maxVer (fetchSize maxSize) _ trivial data hfetch
      refine hlength.trans ?_
      unfold fetchSize
      split
      · decide
      · rename_i h
        exact UInt32.le_iff_toNat_le.mp (UInt32.not_lt.mp h)

/-- For every device and every pattern of failures: the recorded capset is the one whose data are in
`virgl_caps`, and there is one if any Virgl capset can be fetched, if and only if the preferred
capset can be fetched or none can. -/
theorem capsets_consistent_iff (device : GpuDevice) (numCapsets : UInt32) (s : CapsState) :
    Consistent (answers device numCapsets s) (chipQueryCapsets device numCapsets s).2.virgl ↔
      PreferredFetched (answers device numCapsets s) := by
  have hchosen := choose_chosen (v := s.virgl.clear) (answers device numCapsets s) rfl
  have hrun : (chipQueryCapsets device numCapsets s).2.virgl =
      (choose (answers device numCapsets s) s.virgl.clear).disable := by
    rw [answers, ← queryLoop_caps]
    rfl
  rw [hrun, consistent_disable_iff]
  exact hchosen.consistent_iff (survey_fits _ _ _) rfl rfl

/-! ### Concrete devices -/

/-- A device with these capsets, of version 1 and with four bytes of data each; those of `broken`
cannot be fetched. -/
def capsetDevice (ids : List UInt8) (broken : UInt8) : GpuDevice := fun messages =>
  let cmd := (messages.flatMap Message.parts).headD []
  let arg := cmd.getD 24 0
  if cmd.headD 0 = 0x08 then
    match ids[arg.toNat]? with
    | none => ⟨24, [0x00, 0x12]⟩
    | some id =>
        ⟨40, [0x02, 0x11] ++ List.replicate 22 0 ++ [id, 0, 0, 0, 1, 0, 0, 0, 4, 0, 0, 0]⟩
  else if arg = broken then
    ⟨24, [0x00, 0x12]⟩
  else
    ⟨28, [0x03, 0x11] ++ List.replicate 22 0 ++ List.replicate 4 arg⟩

/-- Nothing has been asked. -/
def unasked : CapsState := ⟨.bare, ⟨0, 0, 0, fun _ => 0, false, true, []⟩⟩

/-- A VIRGL2 that cannot be fetched keeps the data of VIRGL with its own id; listed first, it keeps
VIRGL from being tried. -/
theorem capsets_inconsistent :
    ¬ Consistent (answers (capsetDevice [1, 2] 2) 2 unasked)
        (chipQueryCapsets (capsetDevice [1, 2] 2) 2 unasked).2.virgl ∧
      ¬ Consistent (answers (capsetDevice [2, 1] 2) 2 unasked)
        (chipQueryCapsets (capsetDevice [2, 1] 2) 2 unasked).2.virgl := by
  constructor
  · intro h
    have hvalid : (chipQueryCapsets (capsetDevice [1, 2] 2) 2 unasked).2.virgl.valid = true := by
      decide +kernel
    have hid : (chipQueryCapsets (capsetDevice [1, 2] 2) 2 unasked).2.virgl.capsetId = 2 := by
      decide +kernel
    have hfetched : (chipQueryCapsets (capsetDevice [1, 2] 2) 2 unasked).2.virgl.fetched =
        [(1, 1, [1, 1, 1, 1])] := by
      decide +kernel
    obtain ⟨data, hmem, -⟩ := h.data hvalid
    rw [hid, hfetched] at hmem
    simp at hmem
  · intro h
    have hvalid := h.valid
    revert hvalid
    decide +kernel

end VirtIOGPU.Capsets
